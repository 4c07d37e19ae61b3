import LogTagger.Processor
import LogTagger.Proofs.Scheduler.Cycle
import LogTagger.Proofs.Scheduler.Lifecycle
import LogTagger.Proofs.Scheduler.Within

/-!
# A processor and its scheduler

A processor and its scheduler each keep the stage of their life, and move it at different times: a start
begins the scheduler's first and follows when that has come to its end, a stop moves the processor's stage
before the scheduler's. They are not to get out of step, or there would be a processor that can neither be
used nor be stopped.

A run is any sequence of calls and of steps of the scheduler, among them the requests of a cycle and all
answers to searches and fetches. What the calls return is written down (`Processor.log`).
**`build_lockstep`**: a processor that has been built stays in step with its scheduler through every run
(`InLockstep`). What carries it is that the stage of the one is a function of the stage of the other
(`Attuned`), which each step keeps.
-/

namespace LogTagger

/-! ### Runs -/

/-- What happens to a processor. -/
inductive ProcessorStep where
  /-- A call of `start`. -/
  | start
  /-- A call of `stop`. -/
  | stop
  /-- A batch that is to be enriched. -/
  | process (batch : List ResourceLogs)
  /-- A look at the health. -/
  | look
  /-- A step of its scheduler. The start and the stop of the scheduler are the processor's own: as steps by
  themselves they do nothing. -/
  | inner (step : SchedulerStep)

/-- What a call returns. -/
inductive ProcessorReturn where
  /-- A start, when its first cycle has come to its end or it is rejected. -/
  | started (outcome : Except LifecycleError Unit)
  /-- A stop. -/
  | stopped (outcome : Except LifecycleError Unit)
  /-- The enriched batch. -/
  | processed (outcome : Except LifecycleError (List ResourceLogs))
  /-- The health. -/
  | looked (health : HealthStatus)

namespace ProcessorReturn

/-- Whether batches are accepted after a call has returned, when it is known whether they were before. -/
def follow (accepting : Bool) : ProcessorReturn → Bool
  | .started (.ok ()) => true
  | .stopped (.ok ()) => false
  | _ => accepting

/-- Whether a start has succeeded and no stop since. -/
def accepting (log : List ProcessorReturn) : Bool := log.foldl follow false

theorem accepting_concat (log : List ProcessorReturn) (r : ProcessorReturn) :
    accepting (log ++ [r]) = r.follow (accepting log) := by
  rw [accepting, List.foldl_append]
  rfl

end ProcessorReturn

namespace Processor

variable {L : PatternLanguage}

/-- The processor after a step of its scheduler. -/
def moveOn (p : Processor L) (step : SchedulerStep) : Processor L :=
  if step.isInner then p.withScheduler (p.scheduler.next step) else p

/-- The processor after a step. A call that is rejected leaves it as it was. -/
def next (p : Processor L) : ProcessorStep → Processor L
  | .start => p.start.toOption.getD p
  | .stop => p.stop.toOption.getD p
  | .process batch => ((p.processLogs batch).toOption.map Prod.fst).getD p
  | .look => p
  | .inner step => p.moveOn step

/-- What returns with a step. A start that is not rejected returns with the step that ends the first cycle. -/
def returns (p : Processor L) : ProcessorStep → Option ProcessorReturn
  | .start =>
    match p.start with
    | .ok _ => none
    | .error e => some (.started (.error e))
  | .stop => some (.stopped (p.stop.map fun _ => ()))
  | .process batch => some (.processed ((p.processLogs batch).map Prod.snd))
  | .look => some (.looked p.health)
  | .inner step => if p.phase = .starting ∧ (p.moveOn step).phase = .running then some (.started (.ok ())) else none

/-- The processor after steps. -/
def run (p : Processor L) (steps : List ProcessorStep) : Processor L := steps.foldl next p

/-- What has returned with steps, in order. -/
def log (p : Processor L) : List ProcessorStep → List ProcessorReturn
  | [] => []
  | step :: rest => (p.returns step).toList ++ (p.next step).log rest

/-! ### One stage for both -/

end Processor

/-- The stage of a processor whose scheduler is at a stage. -/
def SchedulerPhase.processorPhase : SchedulerPhase → ProcessorPhase
  | .idle => .initialized
  | .starting => .starting
  | .ready | .running | .broken => .running
  | .stopped => .stopped

namespace SchedulerPhase

variable {p q : SchedulerPhase}

@[simp] theorem processorPhase_eq_initialized_iff : p.processorPhase = .initialized ↔ p = .idle := by
  cases p <;> simp [processorPhase]

@[simp] theorem processorPhase_eq_starting_iff : p.processorPhase = .starting ↔ p = .starting := by
  cases p <;> simp [processorPhase]

@[simp] theorem processorPhase_eq_running_iff : p.processorPhase = .running ↔ p.isStarted = true := by
  cases p <;> simp [processorPhase, isStarted]

/-- What `Processor.withScheduler` makes of the stage is the stage that the scheduler has come to. -/
theorem Advance.processorPhase (h : p.Advance q) :
    q.processorPhase = if p.processorPhase = .starting ∧ q.isStarted then .running else p.processorPhase := by
  cases h with
  | stays same =>
    subst same
    cases q <;> rfl
  | goesOn begun started =>
    rw [processorPhase_eq_running_iff.mpr started]
    rcases begun with rfl | rfl
    · rw [if_pos ⟨rfl, started⟩]
    · rfl

end SchedulerPhase

namespace Processor

variable {L : PatternLanguage} {p p' : Processor L} {log : List ProcessorReturn}

/-- The stages of a processor and of its scheduler belong together. -/
def InStep (p : Processor L) : Prop := p.phase = p.scheduler.phase.processorPhase

theorem InStep.withScheduler (h : p.InStep) {s : Scheduler} (hs : p.scheduler.MovesOn s) :
    (p.withScheduler s).InStep := by
  have hphase := hs.advance.processorPhase
  rw [← h] at hphase
  exact hphase.symm

theorem InStep.moveOn (h : p.InStep) (step : SchedulerStep) : (p.moveOn step).InStep := by
  rw [Processor.moveOn]
  split
  case isTrue hinner => exact h.withScheduler (.next p.scheduler step hinner)
  case isFalse => exact h

/-! ### The calls -/

theorem start_eq_ok_iff : p.start = .ok p' ↔ p.phase = .initialized ∧
    ∃ s, p.scheduler.start = .ok s ∧ p' = { p with phase := .starting }.withScheduler s := by
  rw [start]
  cases hphase : p.phase <;> cases hs : p.scheduler.start <;> simp [Except.map, eq_comm]

theorem stop_eq_ok_iff : p.stop = .ok p' ↔ p.phase = .running ∧
    ∃ s, p.scheduler.stop = .ok s ∧ p' = { p with phase := .stopped, scheduler := s } := by
  rw [stop]
  cases hphase : p.phase <;> cases hs : p.scheduler.stop <;> simp [Except.map, eq_comm]

/-- **A start of a processor that has not been started is not rejected.** -/
theorem InStep.exists_start (h : p.InStep) (hphase : p.phase = .initialized) :
    ∃ p', p.start = .ok p' ∧ p'.phase = .starting ∧ p'.InStep ∧ p'.enricher = p.enricher ∧
      p'.scheduler = { p.scheduler with phase := .starting }.beginCycle .startup := by
  have hidle : p.scheduler.phase = .idle := SchedulerPhase.processorPhase_eq_initialized_iff.mp (h.symm.trans hphase)
  have hstart := Scheduler.start_eq_ok_iff.mpr ⟨hidle, rfl⟩
  exact ⟨_, start_eq_ok_iff.mpr ⟨hphase, _, hstart, rfl⟩, rfl, rfl, rfl, rfl⟩

/-- **A stop of a processor that runs is not rejected.** -/
theorem InStep.exists_stop (h : p.InStep) (hphase : p.phase = .running) :
    ∃ p', p.stop = .ok p' ∧ p'.phase = .stopped ∧ p'.InStep ∧ p'.enricher = p.enricher ∧
      p'.scheduler = { p.scheduler.conclude with phase := .stopped, activity := .waiting } := by
  have hstarted : p.scheduler.phase.isStarted = true :=
    SchedulerPhase.processorPhase_eq_running_iff.mp (h.symm.trans hphase)
  have hstop := Scheduler.stop_eq_ok_iff.mpr ⟨hstarted, rfl⟩
  exact ⟨_, stop_eq_ok_iff.mpr ⟨hphase, _, hstop, rfl⟩, rfl, rfl, rfl, rfl⟩

/-- A batch that is not rejected is enriched, and counted in the metrics. -/
theorem processLogs_of_running (h : p.phase = .running) (batch : List ResourceLogs) :
    ∃ metrics, p.processLogs batch = .ok (p.withMetrics metrics, batch.map (p.enricher.enrichLogs p.cache)) := by
  rw [processLogs, if_pos h]
  exact ⟨_, rfl⟩

theorem processLogs_of_not_running (h : p.phase ≠ .running) (batch : List ResourceLogs) :
    p.processLogs batch = .error .notRunning := by
  rw [processLogs, if_neg h]

/-- The scheduler moves on within the start, which may come to its end by it, or leaves the stage as it is. -/
theorem moveOn_phase (p : Processor L) (step : SchedulerStep) :
    (p.moveOn step).phase = p.phase ∨ p.phase = .starting ∧ (p.moveOn step).phase = .running := by
  rw [moveOn]
  split
  case isFalse => exact .inl rfl
  case isTrue =>
    rw [withScheduler]
    split
    case isTrue hends => exact .inr ⟨hends.1, rfl⟩
    case isFalse => exact .inl rfl

@[simp] theorem enricher_moveOn (p : Processor L) (step : SchedulerStep) : (p.moveOn step).enricher = p.enricher := by
  rw [moveOn]
  split <;> rfl

/-! ### The invariant -/

/-- What every step keeps. -/
structure Attuned (e : Enricher L) (log : List ProcessorReturn) (p : Processor L) : Prop where
  /-- The stages belong together. -/
  inStep : p.InStep
  /-- The processor runs exactly if a start has succeeded and no stop since. -/
  accepting_iff : ProcessorReturn.accepting log = true ↔ p.phase = .running
  /-- It enriches as it always has. -/
  enricher : p.enricher = e

variable {e : Enricher L}

/-- A call that is no successful start or stop and keeps the stage keeps what every step keeps. -/
theorem Attuned.keeps (h : Attuned e log p) {r : ProcessorReturn} (hr : ∀ b, r.follow b = b) (hstep : p'.InStep)
    (hphase : p'.phase = p.phase) (henricher : p'.enricher = p.enricher) : Attuned e (log ++ [r]) p' where
  inStep := hstep
  accepting_iff := by rw [ProcessorReturn.accepting_concat, hr, h.accepting_iff, hphase]
  enricher := henricher.trans h.enricher

theorem Attuned.step (h : Attuned e log p) (step : ProcessorStep) :
    Attuned e (log ++ (p.returns step).toList) (p.next step) := by
  cases step with
  | start =>
    cases hstart : p.start with
    | error cause =>
      simp only [returns, next, hstart]
      exact h.keeps (fun _ => rfl) h.inStep rfl rfl
    | ok p' =>
      have hbefore := (start_eq_ok_iff.mp hstart).1
      obtain ⟨p'', hstart', hphase, hstep, henricher, -⟩ := h.inStep.exists_start hbefore
      obtain rfl := Except.ok.inj (hstart.symm.trans hstart')
      have hnot : p.phase ≠ .running := by simp [hbefore]
      have hnot' : p'.phase ≠ .running := by simp [hphase]
      simp only [returns, next, hstart, Option.toList_none, List.append_nil]
      exact ⟨hstep, iff_of_false (mt h.accepting_iff.mp hnot) hnot', henricher.trans h.enricher⟩
  | stop =>
    cases hstop : p.stop with
    | error cause =>
      simp only [returns, next, hstop]
      exact h.keeps (fun _ => rfl) h.inStep rfl rfl
    | ok p' =>
      obtain ⟨p'', hstop', hphase, hstep, henricher, -⟩ := h.inStep.exists_stop (stop_eq_ok_iff.mp hstop).1
      obtain rfl := Except.ok.inj (hstop.symm.trans hstop')
      have hnot' : p'.phase ≠ .running := by simp [hphase]
      simp only [returns, next, hstop, Option.toList_some]
      refine ⟨hstep, ?_, henricher.trans h.enricher⟩
      rw [ProcessorReturn.accepting_concat]
      exact iff_of_false Bool.false_ne_true hnot'
  | process batch =>
    by_cases hphase : p.phase = .running
    · obtain ⟨metrics, hok⟩ := processLogs_of_running hphase batch
      simp only [returns, next, hok]
      exact h.keeps (fun _ => rfl) h.inStep rfl rfl
    · simp only [returns, next, processLogs_of_not_running hphase batch]
      exact h.keeps (fun _ => rfl) h.inStep rfl rfl
  | look => exact h.keeps (fun _ => rfl) h.inStep rfl rfl
  | inner step =>
    have hstep := h.inStep.moveOn step
    have henricher := (p.enricher_moveOn step).trans h.enricher
    simp only [returns, next]
    split
    case isTrue hends =>
      refine ⟨hstep, ?_, henricher⟩
      rw [Option.toList_some, ProcessorReturn.accepting_concat]
      exact iff_of_true rfl hends.2
    case isFalse hends =>
      have hsame := (p.moveOn_phase step).resolve_right hends
      refine ⟨hstep, ?_, henricher⟩
      rw [Option.toList_none, List.append_nil, h.accepting_iff, hsame]

/-- **Every run keeps it.** -/
theorem Attuned.run (h : Attuned e log p) (steps : List ProcessorStep) :
    Attuned e (log ++ p.log steps) (p.run steps) := by
  induction steps generalizing log p with
  | nil =>
    rw [Processor.log, List.append_nil]
    exact h
  | cons step rest ih =>
    rw [Processor.log, ← List.append_assoc]
    exact ih (h.step step)

/-! ### A start up to its end -/

/-- A step of the scheduler within a start. -/
theorem returns_inner_of_starting (h : p.phase = .starting) (step : SchedulerStep) :
    p.returns (.inner step) = if (p.moveOn step).phase = .running then some (.started (.ok ())) else none := by
  simp only [returns, h, true_and]

/-- Once the processor runs, the steps of its scheduler return nothing more. -/
theorem log_inner_of_running (h : p.phase = .running) (steps : List SchedulerStep) :
    p.log (steps.map .inner) = [] ∧ (p.run (steps.map .inner)).phase = .running := by
  induction steps generalizing p with
  | nil => exact ⟨rfl, h⟩
  | cons step rest ih =>
    have hsame : (p.moveOn step).phase = .running := by
      rcases p.moveOn_phase step with hsame | ⟨hstarting, -⟩
      · exact hsame.trans h
      · rw [h] at hstarting
        cases hstarting
    have hnone : p.returns (.inner step) = none := by simp [returns, h]
    obtain ⟨hlog, hrun⟩ := ih hsame
    refine ⟨?_, hrun⟩
    rw [List.map_cons, Processor.log, hnone]
    exact hlog

/-- **A start that goes on returns once**, when it has come to its end, and with success. -/
theorem log_inner_of_starting (h : p.phase = .starting) (steps : List SchedulerStep) :
    p.log (steps.map .inner) =
      if (p.run (steps.map .inner)).phase = .running then [.started (.ok ())] else [] := by
  induction steps generalizing p with
  | nil => simp [Processor.log, Processor.run, h]
  | cons step rest ih =>
    rw [List.map_cons, Processor.log, returns_inner_of_starting h]
    rcases p.moveOn_phase step with hsame | ⟨-, hends⟩
    · have hstarting : (p.moveOn step).phase = .starting := hsame.trans h
      rw [hstarting]
      exact ih hstarting
    · obtain ⟨hlog, hrun⟩ := log_inner_of_running hends rest
      have hrun : (p.run (.inner step :: rest.map .inner)).phase = .running := hrun
      rw [if_pos hends, if_pos hrun]
      exact congrArg _ hlog

/-- The scheduler of a processor goes through the steps as it does by itself. -/
theorem scheduler_run_inner (p : Processor L) {steps : List SchedulerStep} (h : ∀ step ∈ steps, step.isInner = true) :
    (p.run (steps.map .inner)).scheduler = p.scheduler.run steps := by
  induction steps generalizing p with
  | nil => rfl
  | cons step rest ih =>
    rw [List.forall_mem_cons] at h
    have hnext : (p.moveOn step).scheduler = p.scheduler.next step := by
      rw [moveOn, if_pos h.1]
      rfl
    rw [Scheduler.run_cons, ← hnext]
    exact ih (p.moveOn step) h.2

theorem InStep.run_inner (h : p.InStep) (steps : List SchedulerStep) : (p.run (steps.map .inner)).InStep := by
  induction steps generalizing p with
  | nil => exact h
  | cons step rest ih => exact ih (h.moveOn step)

end Processor

/-- The answers of a cycle neither start nor stop anything. -/
theorem CycleAnswers.isInner_of_mem_steps {a : CycleAnswers} {cache : DocumentCache} {step : SchedulerStep}
    (h : step ∈ a.steps cache) : step.isInner = true := by
  rw [steps] at h
  split at h
  case h_1 cause =>
    rcases List.mem_pair.mp h with rfl | rfl <;> rfl
  case h_2 target =>
    rcases List.mem_cons.mp h with rfl | h
    · rfl
    rcases List.mem_append.mp h with h | h
    · obtain ⟨answer, -, rfl⟩ := List.mem_map.mp h
      rfl
    · obtain rfl := List.mem_singleton.mp h
      rfl

namespace Processor

variable {L : PatternLanguage} {e : Enricher L} {p p' : Processor L} {log : List ProcessorReturn}

/-- **A start comes to its end** when its cycle has its answers, whatever they are. -/
theorem InStep.run_cycle (h : p.InStep) (hphase : p.scheduler.phase = .starting)
    (hactivity : p.scheduler.activity = .discovering .startup) (a : CycleAnswers) :
    (p.run ((a.steps p.cache).map .inner)).phase = .running := by
  have hrun := h.run_inner (a.steps p.cache)
  rw [InStep, p.scheduler_run_inner fun _ => CycleAnswers.isInner_of_mem_steps, Processor.cache,
    p.scheduler.run_cycle a hactivity] at hrun
  rw [Processor.cache, hrun]
  simp [Scheduler.endCycle, hphase, SchedulerPhase.isStarted]

/-! ### In step -/

/-- What a processor keeps to in every state, when it enriches in some way and calls have returned. -/
structure InLockstep (e : Enricher L) (log : List ProcessorReturn) (p : Processor L) : Prop where
  /-- It has not been started exactly when its scheduler has not. -/
  initialized_iff : p.stateName = "initialized" ↔ p.scheduler.stateName = "idle"
  /-- It runs exactly when its scheduler does. -/
  running_iff : p.stateName = "running" ↔ p.scheduler.stateName = "running"
  /-- It has been stopped exactly when its scheduler has. -/
  stopped_iff : p.stateName = "stopped" ↔ p.scheduler.stateName = "stopped"
  /-- A start succeeds if there has been none: it is not rejected, whatever happens to the scheduler then it
  can only return with success, and it returns when its cycle has its answers, whatever they are. -/
  start_succeeds : p.phase = .initialized → ∃ p', p.start = .ok p' ∧
    (∀ steps : List SchedulerStep, p'.log (steps.map .inner) =
      if (p'.run (steps.map .inner)).phase = .running then [.started (.ok ())] else []) ∧
    ∀ a : CycleAnswers, (p'.run ((a.steps p.cache).map .inner)).phase = .running
  /-- A stop succeeds if it runs. -/
  stop_succeeds : p.phase = .running → ∃ p', p.stop = .ok p' ∧ p'.stateName = "stopped"
  /-- If a start has succeeded and no stop since, a batch comes back enriched from the present cache. Only the
  metrics change. -/
  accepts : ProcessorReturn.accepting log = true → ∀ batch, ∃ metrics,
    p.processLogs batch = .ok (p.withMetrics metrics, batch.map (e.enrichLogs p.cache))
  /-- Otherwise the batch is rejected, and nothing changes. -/
  rejects : ProcessorReturn.accepting log = false → ∀ batch,
    p.processLogs batch = .error .notRunning ∧ p.next (.process batch) = p
  /-- Its health is that of its scheduler. -/
  health_eq : p.health = p.scheduler.health

theorem InStep.stateName_iff (h : p.InStep) :
    (p.stateName = "initialized" ↔ p.scheduler.stateName = "idle") ∧
      (p.stateName = "running" ↔ p.scheduler.stateName = "running") ∧
      (p.stateName = "stopped" ↔ p.scheduler.stateName = "stopped") := by
  rw [InStep] at h
  rw [stateName, Scheduler.stateName, h]
  cases p.scheduler.phase <;> decide

theorem InStep.health_eq (h : p.InStep) : p.health = p.scheduler.health := by
  rw [InStep] at h
  rw [health, h]
  cases hphase : p.scheduler.phase <;> simp [SchedulerPhase.processorPhase, Scheduler.health, hphase]

theorem Attuned.inLockstep (h : Attuned e log p) : InLockstep e log p where
  initialized_iff := h.inStep.stateName_iff.1
  running_iff := h.inStep.stateName_iff.2.1
  stopped_iff := h.inStep.stateName_iff.2.2
  start_succeeds hphase := by
    obtain ⟨p', hstart, hphase', hstep, -, hscheduler⟩ := h.inStep.exists_start hphase
    have hcache : p'.cache = p.cache := by rw [Processor.cache, hscheduler]; rfl
    refine ⟨p', hstart, log_inner_of_starting hphase', fun a => ?_⟩
    rw [← hcache]
    exact hstep.run_cycle (by rw [hscheduler]; rfl) (by rw [hscheduler]; rfl) a
  stop_succeeds hphase := by
    obtain ⟨p', hstop, hphase', -⟩ := h.inStep.exists_stop hphase
    exact ⟨p', hstop, by rw [stateName, hphase']⟩
  accepts haccepting batch := by
    have haccepted := processLogs_of_running (h.accepting_iff.mp haccepting) batch
    rwa [h.enricher] at haccepted
  rejects haccepting batch := by
    have hnot : p.phase ≠ .running := by
      rw [Ne, ← h.accepting_iff, haccepting]
      exact Bool.false_ne_true
    have hrejected := processLogs_of_not_running hnot batch
    exact ⟨hrejected, by rw [next, hrejected]; rfl⟩
  health_eq := h.inStep.health_eq

/-- **A processor that has been built** is new, and so is its scheduler. -/
theorem exists_of_build {s : TaggingSettings} {hasDiscovery hasFetcher hasEvents : Bool}
    (h : build L s hasDiscovery hasFetcher hasEvents = .ok p) :
    ∃ enricher, p = ⟨.initialized,
      .fresh s.metadata.refreshIntervalMs 0 {} { isOpen := hasEvents && s.metadata.watchEvents } {}, enricher⟩ := by
  rw [build] at h
  cases hcheck : s.check L with
  | error cause =>
    rw [hcheck] at h
    cases h
  | ok _ =>
    cases henricher : Enricher.ofSettings (L := L) s with
    | error cause => cases hasDiscovery <;> cases hasFetcher <;> rw [hcheck, henricher] at h <;> cases h
    | ok enricher =>
      refine ⟨enricher, ?_⟩
      cases hasDiscovery <;> cases hasFetcher <;> rw [hcheck, henricher] at h <;> cases h
      rfl

theorem attuned_of_build {s : TaggingSettings} {hasDiscovery hasFetcher hasEvents : Bool}
    (h : build L s hasDiscovery hasFetcher hasEvents = .ok p) : Attuned p.enricher [] p := by
  obtain ⟨enricher, rfl⟩ := exists_of_build h
  exact ⟨rfl, by simp [ProcessorReturn.accepting], rfl⟩

/-- **A processor that has been built stays in step with its scheduler**, through every run. -/
theorem build_lockstep {s : TaggingSettings} {hasDiscovery hasFetcher hasEvents : Bool}
    (h : build L s hasDiscovery hasFetcher hasEvents = .ok p) (steps : List ProcessorStep) :
    InLockstep p.enricher (p.log steps) (p.run steps) :=
  ((attuned_of_build h).run steps).inLockstep

/-- The processor that writes every attribute stays in step. -/
theorem lockstep_of_no_pattern : ∃ p : Processor (regularExpressions id),
    build (regularExpressions id) { attributes := [] } true true true = .ok p ∧
      ∀ steps, InLockstep p.enricher (p.log steps) (p.run steps) :=
  let ⟨p, hp⟩ : ∃ p, build (regularExpressions id) { attributes := [] } true true true = .ok p := ⟨_, rfl⟩
  ⟨p, hp, build_lockstep hp⟩

end Processor

end LogTagger
