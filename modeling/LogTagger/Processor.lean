import LogTagger.Enricher
import LogTagger.Scheduler.Basic

/-!
# The processor

A processor enriches log records from the cache that its scheduler keeps. It is started and stopped
together with the scheduler and accepts records only in between.
-/

namespace LogTagger

/-- The stage of a processor's life. -/
inductive ProcessorPhase where
  /-- It has not been started. -/
  | initialized
  /-- Its scheduler is being started. -/
  | starting
  /-- It accepts records. -/
  | running
  /-- It has been stopped. -/
  | stopped
  deriving DecidableEq

/-- A processor with its scheduler. -/
structure Processor (L : PatternLanguage) where
  /-- The stage of its life. -/
  phase : ProcessorPhase := .initialized
  /-- The scheduler. -/
  scheduler : Scheduler
  /-- How records are enriched. -/
  enricher : Enricher L

namespace Processor

variable {L : PatternLanguage}

/-- The processor with some settings, if they are allowed. `hasDiscovery` and `hasFetcher` say
whether there is something that finds endpoints and something that fetches documents; `hasEvents`
whether there is a stream of container events, which is only used if the settings ask for it. -/
def build (L : PatternLanguage) (s : TaggingSettings) (hasDiscovery hasFetcher hasEvents : Bool) :
    Except TaggingError (Processor L) := do
  s.check L
  if !hasDiscovery then throw (.config "discovery" "endpoint discovery is required")
  if !hasFetcher then throw (.config "fetcher" "metadata fetcher is required")
  let enricher ← Enricher.ofSettings s
  let events : EventQueue := { isOpen := hasEvents && s.metadata.watchEvents }
  return { scheduler := { interval := s.metadata.refreshIntervalMs, events }, enricher }

/-- The processor with its scheduler moved on. Its start ends with that of the scheduler. -/
def withScheduler (p : Processor L) (s : Scheduler) : Processor L :=
  { p with
    scheduler := s
    phase := if p.phase = .starting ∧ s.phase.isStarted then .running else p.phase }

/-- Begins the start, which ends with that of the scheduler. -/
def start (p : Processor L) : Except LifecycleError (Processor L) :=
  match p.phase with
  | .initialized => p.scheduler.start.map (fun s => { p with phase := .starting }.withScheduler s)
  | .starting | .running => .error .alreadyRunning
  | .stopped => .error (.initFailed "processor was stopped; build a new one to restart")

/-- Stops the processor and its scheduler. -/
def stop (p : Processor L) : Except LifecycleError (Processor L) :=
  if p.phase = .running then p.scheduler.stop.map (fun s => { p with phase := .stopped, scheduler := s })
  else .error .notRunning

/-- The cache. -/
def cache (p : Processor L) : DocumentCache := p.scheduler.cache

/-- The metrics. -/
def metrics (p : Processor L) : Metrics := p.scheduler.metrics

/-- The processor with other metrics. -/
def withMetrics (p : Processor L) (m : Metrics) : Processor L := { p with scheduler := { p.scheduler with metrics := m } }

/-- Enriches a batch, whatever the stage. -/
def enrichBatch (p : Processor L) (batch : List ResourceLogs) : Processor L × List ResourceLogs × EnrichSummary :=
  let (enriched, summary, metrics) := p.enricher.process p.cache p.metrics batch
  (p.withMetrics metrics, enriched, summary)

/-- Enriches a batch if the processor is running. -/
def processLogs (p : Processor L) (batch : List ResourceLogs) :
    Except LifecycleError (Processor L × List ResourceLogs) :=
  if p.phase = .running then
    let (p', enriched, _) := p.enrichBatch batch
    .ok (p', enriched)
  else .error .notRunning

/-- The name of the stage. -/
def stateName (p : Processor L) : String :=
  match p.phase with
  | .initialized | .starting => "initialized"
  | .running => "running"
  | .stopped => "stopped"

/-- The health: that of the scheduler while the processor is running. -/
def health (p : Processor L) : HealthStatus :=
  match p.phase with
  | .initialized | .starting => .unhealthy "not started"
  | .running => p.scheduler.health
  | .stopped => .unhealthy "stopped"

end Processor

end LogTagger
