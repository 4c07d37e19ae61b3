import LogTagger.Daemon.Settings
import LogTagger.Daemon.Stream

/-!
# The daemon

The daemon runs one stream through its processor. Its health is that of the processor and of the
stream. A run starts the processor, takes the input until it ends or a signal or a failure ends the
run, and stops the processor; after that the daemon is never run again.
-/

namespace LogTagger

/-- The stage of the daemon's stream. -/
inductive StreamPhase where
  /-- It has not been opened. -/
  | idle
  /-- It takes lines. -/
  | isOpen
  /-- It has come to its end. -/
  | closed
  deriving DecidableEq

/-- A signal to the daemon. -/
inductive Signal where
  /-- To terminate. -/
  | terminate
  /-- To terminate, from a terminal. -/
  | interrupt
  /-- To synchronise the cache. -/
  | hangUp
  deriving DecidableEq

/-- The name of a signal. -/
def Signal.name : Signal → String
  | .terminate => "SIGTERM"
  | .interrupt => "SIGINT"
  | .hangUp => "SIGHUP"

/-- Why a run of the daemon has ended. -/
inductive ShutdownReason where
  /-- The input has ended. -/
  | endOfInput (stats : StreamStats)
  /-- A signal has come. -/
  | signal (s : Signal)
  deriving DecidableEq

/-- The daemon. -/
structure Daemon (L : PatternLanguage) where
  /-- Its settings. -/
  config : Config
  /-- Its stream, with the processor. -/
  stream : LogStream L
  /-- The stage of its stream. -/
  phase : StreamPhase := .idle
  /-- The octets of a line that has not ended. -/
  unfinished : List UInt8 := []

namespace Daemon

variable {L : PatternLanguage}

/-- The processor. -/
def processor (d : Daemon L) : Processor L := d.stream.processor

/-- The daemon with its processor moved on. -/
def withProcessor (d : Daemon L) (p : Processor L) : Daemon L := { d with stream := { d.stream with processor := p } }

/-- The daemon with its scheduler moved on. -/
def withScheduler (d : Daemon L) (s : Scheduler) : Daemon L := d.withProcessor (d.processor.withScheduler s)

/-- The daemon with some settings and a processor. -/
def ofParts (config : Config) (processor : Processor L) (sink : Sink) : Daemon L :=
  let counted := if config.metrics.enabled then processor.withMetrics (processor.metrics.set .buildInfo 1) else processor
  { config, stream := { processor := counted, sink } }

/-- The health of the stream. -/
def streamHealth (d : Daemon L) : HealthStatus :=
  match d.phase with
  | .idle => .unhealthy "not started"
  | .isOpen => .healthy
  | .closed => .unhealthy "input closed"

/-- The modules with their health. -/
def modules (d : Daemon L) : List ModuleHealth :=
  [{ name := "enrichment-processor", status := d.processor.health }, { name := "log-stream", status := d.streamHealth }]

/-- The report on the health, after so many seconds. -/
def health (d : Daemon L) (uptimeSecs : UInt64) : DaemonHealth :=
  { status := .ofModules d.modules, uptimeSecs, cachedContainers := d.processor.cache.size, modules := d.modules }

/-- The daemon after a report, which shows the uptime in the metrics if they are served. -/
def reported (d : Daemon L) (uptimeSecs : UInt64) : Daemon L :=
  if d.config.metrics.enabled then
    d.withProcessor (d.processor.withMetrics (d.processor.metrics.set .uptime uptimeSecs.toNat))
  else d

/-! ### A run -/

/-- Begins the start of the processor. -/
def start (d : Daemon L) : Except DaemonError (Daemon L) :=
  match d.processor.start with
  | .ok p => .ok (d.withProcessor p)
  | .error cause => .error (.start cause)

/-- Opens the stream, with counts of its own. -/
def openStream (d : Daemon L) : Daemon L :=
  { d with phase := .isOpen, unfinished := [], stream := { d.stream with stats := {} } }

/-- Takes octets of the input: each line that has ended goes through the stream. -/
def receive (d : Daemon L) (octets : List UInt8) : Daemon L × Option StreamError :=
  let (ended, rest) := Text.splitLines (d.unfinished ++ octets)
  let (stream, failure) := d.stream.takeLines ended
  ({ d with stream, unfinished := rest }, failure)

/-- Takes the end of the input: a line that has not ended goes through the stream as it is. -/
def finishInput (d : Daemon L) : Daemon L × Option StreamError :=
  let (stream, failure) := d.stream.takeLines (if d.unfinished.isEmpty then [] else [d.unfinished])
  ({ d with stream, unfinished := [] }, failure)

/-- Requests a synchronisation. -/
def request (d : Daemon L) : Daemon L := d.withScheduler d.processor.scheduler.request

/-- Closes the stream and stops the processor. -/
def shutDown (d : Daemon L) : Daemon L :=
  let closed := { d with phase := .closed }
  match d.processor.stop with
  | .ok p => closed.withProcessor p
  | .error _ => closed

end Daemon

end LogTagger
