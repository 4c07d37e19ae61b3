import LogTagger.Daemon.Run
import LogTagger.Proofs.Scheduler.Completion
import LogTagger.Proofs.Scheduler.Health
import LogTagger.Proofs.Stream.Meanwhile

/-!
# The one run of a daemon

A daemon is run once. Its run starts the processor, opens the stream, takes the input until that ends or
the stream fails, closes the stream and stops the processor; every way out of it leaves the three in the
same state. While the input is taken the scheduler goes on, so that a run is one of the ways in which a
stream takes lines whose scheduler goes on in between (`LogStream.Takes`).

**`concluded_of_build`** says for any new daemon how its run ends, what the reports on its health say before,
during and after the run, and that nothing that happens later brings it back (`DaemonRun.Concluded`). What
holds while the run lasts is `Daemon.Open`, which every occurrence keeps (`meet_cases`).
-/

namespace LogTagger

/-! ### Health -/

/-- The health of a part under the name of that part. -/
def HealthStatus.under (name : String) : HealthStatus → HealthStatus
  | .healthy => .healthy
  | .degraded reason => .degraded (name ++ ": " ++ reason)
  | .unhealthy reason => .unhealthy (name ++ ": " ++ reason)

/-- With a second module that is healthy the health is that of the first. -/
theorem HealthStatus.ofModules_healthy (name other : String) (status : HealthStatus) :
    ofModules [{ name, status }, { name := other, status := .healthy }] = status.under name := by
  cases status <;> rfl

/-- Of two modules that do not work both are named. -/
theorem HealthStatus.ofModules_unhealthy (name other reason reason' : String) :
    ofModules [{ name, status := .unhealthy reason }, { name := other, status := .unhealthy reason' }] =
      .unhealthy (name ++ ": " ++ reason ++ "; " ++ (other ++ ": " ++ reason')) := rfl

namespace Daemon

variable {L : PatternLanguage} {d : Daemon L}

/-- The reports on the health of a daemon, at any time, give a status and the number of cached documents. -/
def Reports (d : Daemon L) (status : HealthStatus) : Prop :=
  ∀ uptime, (d.health uptime).status = status ∧ (d.health uptime).cachedContainers = d.processor.cache.ids.length

theorem reports_of_status {status : HealthStatus} (h : .ofModules d.modules = status) : d.Reports status :=
  fun _ => ⟨h, (List.length_map _).symm⟩

/-- Before its run nothing has been started. -/
theorem reports_idle (hphase : d.phase = .idle)
    (hprocessor : d.processor.phase = .initialized ∨ d.processor.phase = .starting) :
    d.Reports (.unhealthy "enrichment-processor: not started; log-stream: not started") := by
  have hhealth : d.processor.health = .unhealthy "not started" := by
    rcases hprocessor with h | h <;> rw [Processor.health, h]
  apply reports_of_status
  rw [modules, streamHealth, hphase, hhealth]
  exact HealthStatus.ofModules_unhealthy _ _ _ _

/-- While the stream is open the health is that of the processor. -/
theorem reports_open (hphase : d.phase = .isOpen) : d.Reports (d.processor.health.under "enrichment-processor") := by
  apply reports_of_status
  rw [modules, streamHealth, hphase]
  exact HealthStatus.ofModules_healthy _ _ _

/-- After its run nothing works. -/
theorem reports_closed (hphase : d.phase = .closed) (hprocessor : d.processor.phase = .stopped) :
    d.Reports (.unhealthy "enrichment-processor: stopped; log-stream: input closed") := by
  have hhealth : d.processor.health = .unhealthy "stopped" := by rw [Processor.health, hprocessor]
  apply reports_of_status
  rw [modules, streamHealth, hphase, hhealth]
  exact HealthStatus.ofModules_unhealthy _ _ _ _

/-! ### While the stream is open -/

/-- A daemon that takes its input. -/
structure Open (d : Daemon L) : Prop where
  /-- Its processor is in step with the scheduler. -/
  inStep : d.processor.InStep
  /-- Its processor runs. -/
  running : d.processor.phase = .running
  /-- Its stream is open. -/
  phase : d.phase = .isOpen
  /-- No line has ended that has not been taken. -/
  unfinished : Text.splitLines d.unfinished = ([], d.unfinished)

theorem Open.withScheduler (h : d.Open) {s : Scheduler} (hs : d.processor.scheduler.MovesOn s) :
    (d.withScheduler s).Open where
  inStep := h.inStep.withScheduler hs
  running := by simp [Daemon.withScheduler, withProcessor, processor, Processor.withScheduler, ← h.running]
  phase := h.phase
  unfinished := h.unfinished

/-- Lines that are taken leave it open. -/
theorem Open.of_takeLines (h : d.Open) (lines : List (List UInt8)) {unfinished : List UInt8}
    (hrest : Text.splitLines unfinished = ([], unfinished)) :
    Open { d with stream := (d.stream.takeLines lines).1, unfinished } := by
  obtain ⟨metrics, hprocessor⟩ := d.stream.exists_metrics_takeLines lines
  refine ⟨?_, ?_, h.phase, hrest⟩
  · rw [processor, hprocessor]
    exact h.inStep
  · rw [processor, hprocessor]
    exact h.running

end Daemon

/-! ### Occurrences -/

namespace Occurrence

/-- The octets of the input that arrive. -/
def octets : Occurrence → List UInt8
  | .input octets => octets
  | _ => []

/-- Whether it is a signal to terminate. -/
def isTermination : Occurrence → Bool
  | .signal .terminate | .signal .interrupt => true
  | _ => false

end Occurrence

/-- The ending of a run, by what comes of its lines. -/
def LogStream.ending {L : PatternLanguage} (out : LogStream L × Option StreamError) :
    Except DaemonError ShutdownReason :=
  match out.2 with
  | some cause => .error (.stream cause)
  | none => .ok (.endOfInput out.1.stats)

namespace DaemonRun

variable {L : PatternLanguage} {r : DaemonRun L}

theorem open_move (h : r.daemon.Open) {f : Rehearsal → Rehearsal}
    (hf : ∀ w : Rehearsal, w.scheduler.MovesOn (f w).scheduler) : (r.move f).daemon.Open :=
  h.withScheduler (hf { r.rehearsal with scheduler := r.daemon.processor.scheduler })

/-- What comes of lines once the scheduler has moved on may come of them before. -/
theorem takes_move {f : Rehearsal → Rehearsal} (hf : ∀ w : Rehearsal, w.scheduler.MovesOn (f w).scheduler)
    {lines : List (List UInt8)} {out : LogStream L × Option StreamError}
    (h : LogStream.Takes (r.move f).daemon.stream lines out) : LogStream.Takes r.daemon.stream lines out :=
  .meanwhile (hf { r.rehearsal with scheduler := r.daemon.processor.scheduler }) h

/-- What a run has come to after an occurrence, in view of what may come of its lines. -/
inductive Met (r : DaemonRun L) (octets : List UInt8) : DaemonRun L × Ending → Prop
  /-- It goes on. -/
  | goesOn {q : DaemonRun L} (isOpen : q.daemon.Open)
      (takes : ∀ more out, LogStream.Takes q.daemon.stream (Text.lines (q.daemon.unfinished ++ more)) out →
        LogStream.Takes r.daemon.stream (Text.lines (r.daemon.unfinished ++ (octets ++ more))) out) :
      Met r octets (q, none)
  /-- Its stream fails. -/
  | fails {q : DaemonRun L} {cause : StreamError} (isOpen : q.daemon.Open)
      (takes : ∀ more, LogStream.Takes r.daemon.stream (Text.lines (r.daemon.unfinished ++ (octets ++ more)))
        (q.daemon.stream, some cause)) :
      Met r octets (q, some (.error (.stream cause)))

theorem met_input (h : r.daemon.Open) (octets : List UInt8) : Met r octets (r.meet (.input octets)) := by
  have hlines : ∀ more, Text.lines (r.daemon.unfinished ++ (octets ++ more)) =
      (Text.splitLines (r.daemon.unfinished ++ octets)).1 ++
        Text.lines ((Text.splitLines (r.daemon.unfinished ++ octets)).2 ++ more) := by
    intro more
    rw [← List.append_assoc, Text.lines_append]
  have hopen := h.of_takeLines (Text.splitLines (r.daemon.unfinished ++ octets)).1
    (Text.splitLines_snd (r.daemon.unfinished ++ octets))
  cases htake : r.daemon.stream.takeLines (Text.splitLines (r.daemon.unfinished ++ octets)).1 with
  | mk stream failure =>
    rw [htake] at hopen
    cases failure with
    | none =>
      simp only [meet, Daemon.receive, htake]
      refine .goesOn hopen fun more out hout => ?_
      rw [hlines]
      exact .of_takeLines htake hout
    | some cause =>
      simp only [meet, Daemon.receive, htake]
      refine .fails hopen fun more => ?_
      rw [hlines]
      exact .of_takeLines_error htake _

theorem met_move (h : r.daemon.Open) {f : Rehearsal → Rehearsal}
    (hf : ∀ w : Rehearsal, w.scheduler.MovesOn (f w).scheduler) : Met r [] (r.move f, none) :=
  .goesOn (open_move h hf) fun _ _ hout => takes_move hf hout

/-- **What one occurrence does**, unless it is a signal to terminate. -/
theorem met_of_open (h : r.daemon.Open) {o : Occurrence} (ho : o.isTermination = false) :
    Met r o.octets (r.meet o) := by
  cases o with
  | input octets => exact met_input h octets
  | wait time => exact met_move h fun w => w.movesOn_waitUntil _ _
  | change c => exact met_move h fun w => w.movesOn_change c
  | signal s =>
    cases s with
    | terminate => cases ho
    | interrupt => cases ho
    | hangUp =>
      have hrequest : r.daemon.processor.scheduler.MovesOn r.daemon.processor.scheduler.request :=
        .next _ .request rfl
      exact .goesOn (h.withScheduler hrequest) fun _ _ hout => .meanwhile hrequest hout

/-- What a run comes to. -/
structure MetAll (r : DaemonRun L) (input : List UInt8)
    (outcome : List (DaemonRun L) × DaemonRun L × Except DaemonError ShutdownReason) : Prop where
  /-- The daemon is open after each occurrence. -/
  seen : ∀ q ∈ outcome.1, q.daemon.Open
  /-- It is open at the end. -/
  last : outcome.2.1.daemon.Open
  /-- The stream has taken the lines of the input, and the run ends as the stream does. -/
  takes : ∃ out, LogStream.Takes r.daemon.stream (Text.lines (r.daemon.unfinished ++ input)) out ∧
    outcome.2.2 = LogStream.ending out ∧ outcome.2.1.daemon.stream.sink = out.1.sink

theorem metAll_nil (h : r.daemon.Open) : MetAll r [] (r.meetAll []) := by
  let unfinished := if r.daemon.unfinished.isEmpty then [] else [r.daemon.unfinished]
  have hlines : Text.lines (r.daemon.unfinished ++ []) = unfinished := by
    rw [List.append_nil, Text.lines, h.unfinished]
    rfl
  have hempty : Text.splitLines [] = ([], []) := rfl
  have hopen := h.of_takeLines unfinished hempty
  cases htake : r.daemon.stream.takeLines unfinished with
  | mk stream failure =>
    rw [htake] at hopen
    have htakes : LogStream.Takes r.daemon.stream unfinished (stream, failure) := by
      rw [← List.append_nil unfinished]
      cases failure with
      | none => exact .of_takeLines htake (.done stream)
      | some cause => exact .of_takeLines_error htake []
    simp only [meetAll, Daemon.finishInput, htake, unfinished]
    refine ⟨by simp, hopen, (stream, failure), hlines ▸ htakes, ?_, rfl⟩
    cases failure <;> rfl

/-- **What occurrences do**, if none is a signal to terminate. -/
theorem metAll_of_open (h : r.daemon.Open) {occurrences : List Occurrence}
    (ho : ∀ o ∈ occurrences, o.isTermination = false) :
    MetAll r (occurrences.flatMap Occurrence.octets) (r.meetAll occurrences) := by
  induction occurrences generalizing r with
  | nil => exact metAll_nil h
  | cons o rest ih =>
    rw [List.forall_mem_cons] at ho
    have hmet := met_of_open h ho.1
    rw [meetAll, List.flatMap_cons]
    cases hmeet : r.meet o with
    | mk q ending =>
      rw [hmeet] at hmet
      cases hmet with
      | goesOn isOpen takes =>
        have hsettle : ∀ w : Rehearsal, w.scheduler.MovesOn w.settle.scheduler := Rehearsal.movesOn_settle
        have hsettled := open_move isOpen hsettle
        obtain ⟨hseen, hlast, out, htakes, hending, hsink⟩ := ih hsettled ho.2
        refine ⟨List.forall_mem_cons.mpr ⟨hsettled, hseen⟩, hlast, out, ?_, hending, hsink⟩
        exact takes _ out (takes_move hsettle htakes)
      | fails isOpen takes => exact ⟨by simp, isOpen, _, takes _, rfl, rfl⟩

/-! ### Opening and shutting down -/

/-- The run at the opening of the stream, when the start of the daemon has begun. -/
def opened (r : DaemonRun L) (daemon : Daemon L) : DaemonRun L :=
  let started := { r with daemon }.move (·.complete)
  { started with daemon := started.daemon.openStream }.move (·.settle)

theorem run_of_start {daemon : Daemon L} (h : r.daemon.start = .ok daemon) (occurrences : List Occurrence) :
    r.run occurrences =
      let outcome := (r.opened daemon).meetAll occurrences
      (outcome.1, { daemon := outcome.2.1.daemon.shutDown, rehearsal := { outcome.2.1.rehearsal with flight := none } },
        outcome.2.2) := by
  rw [run, h]
  rfl

theorem run_of_start_error {cause : DaemonError} (h : r.daemon.start = .error cause) (occurrences : List Occurrence) :
    r.run occurrences = ([], r, .error cause) := by
  rw [run, h]

/-- **A daemon that has not been started starts and opens its stream**, whatever the first cycle of its
scheduler comes to. -/
theorem exists_opened (hstep : r.daemon.processor.InStep) (hphase : r.daemon.processor.phase = .initialized)
    (hflight : r.rehearsal.flight = none) : ∃ daemon, r.daemon.start = .ok daemon ∧
      daemon.phase = r.daemon.phase ∧ daemon.processor.phase = .starting ∧
      (r.opened daemon).daemon.Open ∧ (r.opened daemon).daemon.unfinished = [] ∧
      (r.opened daemon).daemon.stream.stats = {} ∧ (r.opened daemon).daemon.stream.sink = r.daemon.stream.sink := by
  obtain ⟨p, hstart, hstarting, hstep', -, hscheduler⟩ := hstep.exists_start hphase
  have hdaemon : r.daemon.start = .ok (r.daemon.withProcessor p) := by rw [Daemon.start, hstart]
  let begun : Rehearsal := { r.rehearsal with scheduler := p.scheduler }
  have hmoves : p.scheduler.MovesOn begun.complete.scheduler := begun.movesOn_complete
  have hbegun : p.scheduler.phase = .starting := by rw [hscheduler]; rfl
  have hasks : p.scheduler.activity = .discovering .startup := by rw [hscheduler]; rfl
  have hready := (begun.complete_of_discovering hflight hbegun hasks).2
  have hopen : (({ r with daemon := r.daemon.withProcessor p }.move (·.complete)).daemon.openStream).Open := by
    refine ⟨hstep'.withScheduler hmoves, ?_, rfl, rfl⟩
    change (p.withScheduler begun.complete.scheduler).phase = .running
    rw [Processor.withScheduler, hstarting, hready]
    rfl
  exact ⟨_, hdaemon, rfl, hstarting, open_move hopen Rehearsal.movesOn_settle, rfl, rfl, rfl⟩

/-- A daemon that has been run: its scheduler has been stopped with a cache and a journal. -/
structure Over (cache : DocumentCache) (journal : List JournalEntry) (r : DaemonRun L) : Prop where
  scheduler : r.daemon.processor.scheduler.Stopped cache journal
  processor : r.daemon.processor.phase = .stopped
  phase : r.daemon.phase = .closed

/-- **To shut down leaves nothing running.** -/
theorem over_shutDown {d : Daemon L} (h : d.Open) (w : Rehearsal) :
    Over d.processor.cache d.processor.scheduler.conclude.journal ⟨d.shutDown, w⟩ ∧
      d.shutDown.stream.sink = d.stream.sink := by
  obtain ⟨p, hstop, hphase, -, -, hscheduler⟩ := h.inStep.exists_stop h.running
  have hdaemon : d.shutDown = { d with phase := .closed }.withProcessor p := by
    rw [Daemon.shutDown]
    simp only [hstop]
  rw [hdaemon]
  refine ⟨⟨?_, hphase, rfl⟩, rfl⟩
  change p.scheduler.Stopped _ _
  rw [hscheduler]
  exact ⟨rfl, rfl, Scheduler.conclude_cache _, rfl⟩

/-! ### After the run -/

/-- What may become of a run. -/
inductive Later (r : DaemonRun L) : DaemonRun L → Prop
  /-- Nothing. -/
  | now : Later r r
  /-- A step of the scheduler, in any surroundings. -/
  | moves {q : DaemonRun L} (before : Later r q) (step : SchedulerStep) (rehearsal : Rehearsal) :
      Later r ⟨q.daemon.withScheduler (q.daemon.processor.scheduler.next step), rehearsal⟩
  /-- A report on the health. -/
  | reports {q : DaemonRun L} (before : Later r q) (uptimeSecs : UInt64) :
      Later r { q with daemon := q.daemon.reported uptimeSecs }
  /-- Another run. -/
  | runs {q : DaemonRun L} (before : Later r q) (occurrences : List Occurrence) : Later r (q.run occurrences).2.1

/-- Why a daemon that has been run is not run again. -/
def notAgain : DaemonError := .start (.initFailed "processor was stopped; build a new one to restart")

section

variable {cache : DocumentCache} {journal : List JournalEntry}

/-- A daemon that has been run is left as it is. -/
theorem Over.run_eq (h : Over cache journal r) (occurrences : List Occurrence) :
    r.run occurrences = ([], r, .error notAgain) := by
  refine run_of_start_error ?_ occurrences
  rw [Daemon.start, Processor.start, h.processor]
  rfl

/-- **Nothing brings it back.** -/
theorem Over.later {q : DaemonRun L} (h : Over cache journal r) (hlater : Later r q) : Over cache journal q := by
  induction hlater with
  | now => exact h
  | @moves q before step rehearsal ih =>
    have hprocessor : (q.daemon.processor.withScheduler (q.daemon.processor.scheduler.next step)).phase = .stopped := by
      rw [Processor.withScheduler, ih.processor]
      rfl
    exact ⟨ih.scheduler.move (Scheduler.next_move _ step), hprocessor, ih.phase⟩
  | reports before uptimeSecs ih =>
    rw [Daemon.reported]
    split
    · obtain ⟨hphase, hactivity, hcache, hjournal⟩ := ih.scheduler
      exact ⟨⟨hphase, hactivity, hcache, hjournal⟩, ih.processor, ih.phase⟩
    · exact ih
  | runs before occurrences ih =>
    rw [ih.run_eq occurrences]
    exact ih

end

/-! ### The whole life -/

/-- A new daemon with a processor, amidst collaborators that answer in some way. -/
def fresh (config : Config) (processor : Processor L) (sink : Sink)
    (discovery : Delayed (Except SourceError EndpointSet)) (document : String → Delayed (Except FetchError Json)) :
    DaemonRun L where
  daemon := .ofParts config processor sink
  rehearsal := { scheduler := processor.scheduler, discovery, document }

/-- What the run of a daemon leaves, and what comes after it. -/
structure Ended (last : DaemonRun L) : Prop where
  /-- The processor has been stopped. -/
  processor : last.daemon.processor.stateName = "stopped"
  /-- So has its scheduler. -/
  scheduler : last.daemon.processor.scheduler.stateName = "stopped"
  /-- The stream is closed. -/
  phase : last.daemon.phase = .closed
  /-- No cycle of synchronisation goes on or begins, and the cache stays as it is. -/
  silent : ∀ q, Later last q → q.daemon.processor.scheduler.journal = last.daemon.processor.scheduler.journal ∧
    q.daemon.processor.cache = last.daemon.processor.cache
  /-- Another run is rejected, whatever the input: nothing is read or written, and nothing changes. -/
  rejected : ∀ q, Later last q → ∀ occurrences, q.run occurrences = ([], q, .error notAgain)
  /-- The health says that nothing works. -/
  reports : ∀ q, Later last q → q.daemon.Reports (.unhealthy "enrichment-processor: stopped; log-stream: input closed")

theorem Over.ended {cache : DocumentCache} {journal : List JournalEntry} (h : Over cache journal r) : Ended r where
  processor := by rw [Processor.stateName, h.processor]
  scheduler := by rw [Scheduler.stateName, h.scheduler.phase]
  phase := h.phase
  silent q hlater :=
    ⟨(h.later hlater).scheduler.journal.trans h.scheduler.journal.symm,
      (h.later hlater).scheduler.cache.trans h.scheduler.cache.symm⟩
  rejected q hlater := (h.later hlater).run_eq
  reports q hlater := Daemon.reports_closed (h.later hlater).phase (h.later hlater).processor

/-- The life of a daemon whose only run has an input and an outcome: the daemons that are seen in it, the last
one, and the ending. -/
structure Concluded (first : DaemonRun L) (input : List UInt8)
    (outcome : List (DaemonRun L) × DaemonRun L × Except DaemonError ShutdownReason) : Prop where
  /-- Before the run the health says that nothing has been started. -/
  before : first.daemon.Reports (.unhealthy "enrichment-processor: not started; log-stream: not started")
  /-- So it does while the processor is being started, which is not rejected. -/
  starting : ∃ daemon, first.daemon.start = .ok daemon ∧ ∀ s, daemon.processor.scheduler.MovesOn s →
    s.phase = .starting →
      (daemon.withScheduler s).Reports (.unhealthy "enrichment-processor: not started; log-stream: not started")
  /-- Then the stream is opened, and takes the lines of the input while the scheduler goes on. The run ends as the
  stream does. From the opening on the health is that of the processor. -/
  during : ∃ opened : DaemonRun L, opened.daemon.stream.stats = {} ∧
    opened.daemon.stream.sink = first.daemon.stream.sink ∧ opened.daemon.processor.phase = .running ∧
    (∃ out, LogStream.Takes opened.daemon.stream (Text.lines input) out ∧ outcome.2.2 = LogStream.ending out ∧
      outcome.2.1.daemon.stream.sink = out.1.sink) ∧
    ∀ q ∈ opened :: outcome.1, q.daemon.Reports (q.daemon.processor.health.under "enrichment-processor") ∧
      q.daemon.processor.health.isUnhealthy = false
  /-- With room for the output it ends as any stream does that takes the input at once with a running processor. -/
  ending : first.daemon.stream.sink.room = none → ∀ (p : Processor L) (content : ByteArray), p.phase = .running →
    outcome.2.2 = LogStream.ending ((LogStream.starting p content).run input)
  /-- After the run nothing works any more. -/
  ended : Ended outcome.2.1

theorem isUnhealthy_of_open {d : Daemon L} (h : d.Open) : d.processor.health.isUnhealthy = false := by
  have hstarted : d.processor.scheduler.phase.isStarted = true :=
    SchedulerPhase.processorPhase_eq_running_iff.mp (h.inStep.symm.trans h.running)
  rw [h.inStep.health_eq, Scheduler.health_of_isStarted hstarted]
  cases d.processor.scheduler.lastError <;> rfl

/-- **The life of a daemon**: of one that is new, in any surroundings and with any input, as long as no signal
to terminate comes. -/
theorem concluded_of_build {settings : TaggingSettings} {hasDiscovery hasFetcher hasEvents : Bool} {p : Processor L}
    (hbuild : Processor.build L settings hasDiscovery hasFetcher hasEvents = .ok p) (config : Config) (sink : Sink)
    (discovery : Delayed (Except SourceError EndpointSet)) (document : String → Delayed (Except FetchError Json))
    {occurrences : List Occurrence} (hsignals : ∀ o ∈ occurrences, o.isTermination = false) :
    Concluded (fresh config p sink discovery document) (occurrences.flatMap Occurrence.octets)
      ((fresh config p sink discovery document).run occurrences) := by
  let first := fresh config p sink discovery document
  obtain ⟨hstep, hphase⟩ : first.daemon.processor.InStep ∧ first.daemon.processor.phase = .initialized := by
    obtain ⟨enricher, rfl⟩ := Processor.exists_of_build hbuild
    simp only [first, fresh, Daemon.ofParts, Daemon.processor]
    split <;> exact ⟨rfl, rfl⟩
  have hidle : first.daemon.phase = .idle := rfl
  have hsink : first.daemon.stream.sink = sink := rfl
  obtain ⟨daemon, hstart, hsame, hstarting, hopen, hunfinished, hstats, hsinkOpened⟩ := exists_opened hstep hphase rfl
  obtain ⟨hseen, hlast, out, htakes, hending, hsinkLast⟩ := metAll_of_open hopen hsignals
  rw [hunfinished, List.nil_append] at htakes
  obtain ⟨hover, hsinkShut⟩ := over_shutDown hlast
    { ((first.opened daemon).meetAll occurrences).2.1.rehearsal with flight := none }
  rw [run_of_start hstart]
  constructor
  case before => exact Daemon.reports_idle hidle (.inl hphase)
  case starting =>
    refine ⟨daemon, hstart, fun s _ hs => Daemon.reports_idle (hsame.trans hidle) (.inr ?_)⟩
    change (daemon.processor.withScheduler s).phase = .starting
    rw [Processor.withScheduler, hs, hstarting]
    rfl
  case during =>
    refine ⟨first.opened daemon, hstats, hsinkOpened, hopen.running,
      ⟨out, htakes, hending, hsinkShut.trans hsinkLast⟩, ?_⟩
    have hall : ∀ q ∈ first.opened daemon :: ((first.opened daemon).meetAll occurrences).1, q.daemon.Open :=
      List.forall_mem_cons.mpr ⟨hopen, hseen⟩
    exact fun q hq => ⟨Daemon.reports_open (hall q hq).phase, isUnhealthy_of_open (hall q hq)⟩
  case ending =>
    intro hroom p content hrunning
    have halike : LogStream.Alike (first.opened daemon).daemon.stream (.starting p content) :=
      ⟨⟨hopen.running, hsinkOpened ▸ hroom⟩, ⟨hrunning, rfl⟩, hstats⟩
    obtain ⟨hfailure, hcounts⟩ := htakes.verdict halike
    refine hending.trans ?_
    rw [LogStream.ending, LogStream.ending, LogStream.run, hfailure, hcounts]
  case ended => exact hover.ended

/-- What happens to a daemon that takes a line, then is to synchronise, and in the end gets octets that are no
text. -/
def troubledInput : List Occurrence := [.input [0x7b, 0x7d, 10], .wait 1000, .signal .hangUp, .input [0xff]]

/-- That is the life of a daemon that gets such an input. -/
theorem concluded_of_troubled_input : ∃ p : Processor (regularExpressions id),
    Processor.build (regularExpressions id) { attributes := [] } true true true = .ok p ∧
      (∀ o ∈ troubledInput, o.isTermination = false) ∧
      Concluded (fresh {} p {} ⟨.ok {}, 0⟩ fun _ => ⟨.error .notAnObject, 0⟩) (troubledInput.flatMap Occurrence.octets)
        ((fresh {} p {} ⟨.ok {}, 0⟩ fun _ => ⟨.error .notAnObject, 0⟩).run troubledInput) :=
  let ⟨p, hp⟩ : ∃ p, Processor.build (regularExpressions id) { attributes := [] } true true true = .ok p := ⟨_, rfl⟩
  ⟨p, hp, by decide, concluded_of_build hp {} {} _ _ (by decide)⟩

end DaemonRun

end LogTagger
