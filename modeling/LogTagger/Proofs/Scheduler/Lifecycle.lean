import LogTagger.Proofs.Scheduler.Steps

/-!
# The life of a scheduler

A scheduler lives through its stages in one direction: nothing leads back to the stage before the
start, and nothing leads out of the stage after the stop. So a start and a stop each succeed at most
once, and a stopped scheduler neither asks for anything nor touches the cache again.

That no two cycles overlap is read off the journal (`cycleAfter`): an entry that begins a cycle stands
only where none is under way, and an entry that fetches or ends belongs to the one that is. The
invariant `Orderly` ties the journal to what the scheduler is doing.

**`lifecycle_safe`**: all this holds in every state of every run of every scheduler.
-/

namespace LogTagger

/-! ### Cycles in the journal -/

/-- The cycle under way after an entry, when one or none was under way before it; there is no answer
for an entry that is out of place. -/
def JournalEntry.follow (current : Option SyncTrigger) : JournalEntry → Option (Option SyncTrigger)
  | .discovery trigger _ => if current = none then some (some trigger) else none
  | .fetch _ _ => if current = none then none else some current
  | .finished trigger _ => if current = some trigger then some none else none

/-- The cycle under way after a journal, if every entry is in its place. -/
def cycleAfter (journal : List JournalEntry) : Option (Option SyncTrigger) := journal.foldlM JournalEntry.follow none

theorem cycleAfter_concat (journal : List JournalEntry) (e : JournalEntry) :
    cycleAfter (journal ++ [e]) = (cycleAfter journal).bind e.follow := by
  rw [cycleAfter, List.foldlM_append]
  cases h : journal.foldlM JournalEntry.follow none <;> simp [cycleAfter, h]

namespace Scheduler

variable {s s' : Scheduler}

/-! ### The invariant -/

/-- What the scheduler is doing is what its stage allows and what its journal tells. -/
structure Orderly (s : Scheduler) : Prop where
  /-- A cycle is under way only at the start and in the loop. -/
  busy : s.activity ≠ .waiting → s.phase = .starting ∨ s.phase = .running
  /-- No two cycles of the journal overlap. -/
  apart : (cycleAfter s.journal).isSome
  /-- Unless it has been stopped, the cycle of the journal that has not come to its end is under way. -/
  current : s.phase ≠ .stopped → cycleAfter s.journal = some s.activity.trigger?

/-- A new scheduler. -/
def fresh (interval now : Nat) (cache : DocumentCache) (events : EventQueue) (metrics : Metrics) : Scheduler :=
  { interval, now, cache, events, metrics }

theorem orderly_fresh (interval now : Nat) (cache : DocumentCache) (events : EventQueue) (metrics : Metrics) :
    Orderly (fresh interval now cache events metrics) where
  busy h := absurd rfl h
  apart := rfl
  current _ := rfl

theorem Orderly.waits (h : Orderly s) (hstarting : s.phase ≠ .starting) (hrunning : s.phase ≠ .running) :
    s.activity = .waiting := by
  rcases Classical.em (s.activity = .waiting) with hwaits | hbusy
  · exact hwaits
  · rcases h.busy hbusy with hp | hp
    · exact absurd hp hstarting
    · exact absurd hp hrunning

theorem Orderly.cycleAfter_of_waiting (h : Orderly s) (hphase : s.phase ≠ .stopped) (hwaits : s.activity = .waiting) :
    cycleAfter s.journal = some none := by
  rw [h.current hphase, hwaits, Activity.trigger?]

theorem Orderly.busy_of_trigger (h : Orderly s) {trigger : SyncTrigger} (ht : s.activity.trigger? = some trigger) :
    s.phase = .starting ∨ s.phase = .running := by
  refine h.busy fun hwaits => ?_
  rw [hwaits] at ht
  cases ht

theorem Orderly.cycleAfter_of_trigger (h : Orderly s) {trigger : SyncTrigger} (ht : s.activity.trigger? = some trigger) :
    cycleAfter s.journal = some (some trigger) := by
  have hphase : s.phase ≠ .stopped := by
    rcases h.busy_of_trigger ht with hp | hp <;> simp [hp]
  rw [h.current hphase, ht]

theorem orderly_of_cycleAfter (current : Option SyncTrigger) (hjournal : cycleAfter s.journal = some current)
    (hbusy : s.activity ≠ .waiting → s.phase = .starting ∨ s.phase = .running)
    (hcurrent : s.phase ≠ .stopped → current = s.activity.trigger?) : Orderly s where
  busy := hbusy
  apart := by rw [hjournal, Option.isSome_some]
  current hphase := by rw [hjournal, hcurrent hphase]

/-- When the cycle under way has told its outcome, the journal is still in order. -/
theorem Orderly.exists_cycleAfter_conclude (h : Orderly s) : ∃ current, cycleAfter s.conclude.journal = some current := by
  rcases s.conclude_cases with ⟨trigger, outcome, hactivity, hends⟩ | ⟨-, hsame⟩
  · have htrigger : s.activity.trigger? = some trigger := by rw [hactivity, Activity.trigger?]
    have hsome := h.cycleAfter_of_trigger htrigger
    obtain ⟨-, -, -, hjournal, -⟩ := s.endCycle_leaves trigger outcome
    refine ⟨none, ?_⟩
    rw [hends, hjournal, cycleAfter_concat, hsome]
    simp [JournalEntry.follow]
  · rw [hsame]
    exact Option.isSome_iff_exists.mp h.apart

/-- No move breaks the order. -/
theorem Orderly.move (h : Orderly s) (hmove : Move s s') : Orderly s' := by
  cases hmove with
  | idles agrees =>
    obtain ⟨current, hjournal⟩ := Option.isSome_iff_exists.mp h.apart
    refine orderly_of_cycleAfter current ?_ ?_ ?_
    · rw [agrees.journal, hjournal]
    · rw [agrees.activity, agrees.phase]
      exact h.busy
    · rw [agrees.activity, agrees.phase]
      intro hphase
      exact Option.some.inj (hjournal.symm.trans (h.current hphase))
  | starts before phase activity cache journal =>
    -- Before the start nothing is under way, so the first cycle meets no other.
    have hwaits := h.waits (by simp [before]) (by simp [before])
    have hnone := h.cycleAfter_of_waiting (by simp [before]) hwaits
    refine orderly_of_cycleAfter (some .startup) ?_ (fun _ => .inl phase) (fun _ => ?_)
    · rw [journal, cycleAfter_concat, hnone]
      rfl
    · rw [activity, Activity.trigger?]
  | begins before phase activity cache journal =>
    have hwaits := h.waits (by simp [before]) (by simp [before])
    have hnone := h.cycleAfter_of_waiting (by simp [before]) hwaits
    refine orderly_of_cycleAfter none ?_ (fun hbusy => ?_) (fun _ => ?_)
    · rw [journal, hnone]
    · exact absurd (activity.trans hwaits) hbusy
    · rw [activity, hwaits, Activity.trigger?]
  | discovers trigger before waits phase activity cache journal =>
    have hnone := h.cycleAfter_of_waiting (by simp [before]) waits
    refine orderly_of_cycleAfter (some trigger) ?_ (fun _ => .inr phase) (fun _ => ?_)
    · rw [journal, cycleAfter_concat, hnone]
      rfl
    · rw [activity, Activity.trigger?]
  | fetches trigger r id url before phase activity cache journal =>
    have hbusy := Activity.trigger?_of_awaiting? before
    have hsome := h.cycleAfter_of_trigger hbusy
    refine orderly_of_cycleAfter (some trigger) ?_ (fun _ => ?_) (fun _ => ?_)
    · rw [journal, cycleAfter_concat, hsome]
      rfl
    · rw [phase]
      exact h.busy_of_trigger hbusy
    · rw [activity, Activity.trigger?]
  | reaches trigger outcome before phase activity lastError journal =>
    have hbusy := Activity.trigger?_of_awaiting? before
    refine orderly_of_cycleAfter (some trigger) ?_ (fun _ => ?_) (fun _ => ?_)
    · rw [journal]
      exact h.cycleAfter_of_trigger hbusy
    · rw [phase]
      exact h.busy_of_trigger hbusy
    · rw [activity, Activity.trigger?]
  | finishes trigger outcome before phase activity cache journal =>
    have hbusy : s.activity.trigger? = some trigger := by rw [before, Activity.trigger?]
    have hsome := h.cycleAfter_of_trigger hbusy
    refine orderly_of_cycleAfter none ?_ (fun hbusy => absurd activity hbusy) (fun _ => ?_)
    · rw [journal, cycleAfter_concat, hsome]
      simp [JournalEntry.follow]
    · rw [activity, Activity.trigger?]
  | stops before phase activity cache journal =>
    obtain ⟨current, hjournal⟩ := h.exists_cycleAfter_conclude
    refine orderly_of_cycleAfter current ?_ (fun hbusy => absurd activity hbusy) (fun hphase => ?_)
    · -- A cycle that is cut short stays open in the journal, to which nothing is ever added again.
      rw [journal, hjournal]
    · exact absurd phase hphase

theorem Orderly.run (h : Orderly s) (steps : List SchedulerStep) : Orderly (s.run steps) :=
  run_induction (fun s step h => h.move (next_move s step)) h steps

/-! ### One direction -/

/-- Nothing leads back to the stage before the start. -/
theorem Move.phase_ne_idle (hmove : Move s s') (h : s.phase ≠ .idle) : s'.phase ≠ .idle := by
  cases hmove with
  | idles agrees => rwa [agrees.phase]
  | starts before phase activity cache journal => simp [phase]
  | begins before phase activity cache journal => rcases phase with phase | phase <;> simp [phase]
  | discovers trigger before waits phase activity cache journal => simp [phase]
  | fetches trigger r id url before phase activity cache journal => rwa [phase]
  | reaches trigger outcome before phase activity lastError journal => rwa [phase]
  | finishes trigger outcome before phase activity cache journal =>
    rw [phase]
    split
    · simp
    · exact h
  | stops before phase activity cache journal => simp [phase]

theorem run_phase_ne_idle (h : s.phase ≠ .idle) (steps : List SchedulerStep) : (s.run steps).phase ≠ .idle :=
  run_induction (fun s step h => (next_move s step).phase_ne_idle h) h steps

/-- A scheduler that has been stopped, with what it leaves behind. -/
structure Stopped (cache : DocumentCache) (journal : List JournalEntry) (s : Scheduler) : Prop where
  phase : s.phase = .stopped
  activity : s.activity = .waiting
  cache : s.cache = cache
  journal : s.journal = journal

/-- Nothing leads out of the stage after the stop. -/
theorem Stopped.move {cache : DocumentCache} {journal : List JournalEntry} (h : Stopped cache journal s)
    (hmove : Move s s') : Stopped cache journal s' := by
  obtain ⟨hphase, hwaits, hcache, hjournal⟩ := h
  have hnone : s.activity.awaiting? = none := by rw [hwaits, Activity.awaiting?]
  cases hmove with
  | idles agrees =>
    exact ⟨agrees.phase.trans hphase, agrees.activity.trans hwaits, agrees.cache.trans hcache,
      agrees.journal.trans hjournal⟩
  | starts before => rw [hphase] at before; cases before
  | begins before => rw [hphase] at before; cases before
  | discovers trigger before => rw [hphase] at before; cases before
  | fetches trigger r id url before => rw [hnone] at before; cases before
  | reaches trigger outcome before => rw [hnone] at before; cases before
  | finishes trigger outcome before => rw [hwaits] at before; cases before
  | stops before => rw [hphase] at before; cases before

theorem Stopped.run {cache : DocumentCache} {journal : List JournalEntry} (h : Stopped cache journal s)
    (steps : List SchedulerStep) : Stopped cache journal (s.run steps) :=
  run_induction (fun s step h => h.move (next_move s step)) h steps

theorem stopped_of_stop (h : s.stop = .ok s') : Stopped s'.cache s'.journal s' := by
  obtain ⟨-, rfl⟩ := stop_eq_ok_iff.mp h
  exact ⟨rfl, rfl, rfl, rfl⟩

/-- What a stop writes to the journal: at most the end of a cycle that had still to tell its outcome. -/
theorem journal_of_stop (h : s.stop = .ok s') :
    s'.journal = s.journal ∨
      ∃ trigger outcome, s.activity = .concluding trigger outcome ∧ s'.journal = s.journal ++ [.finished trigger outcome] := by
  obtain ⟨-, rfl⟩ := stop_eq_ok_iff.mp h
  rcases s.conclude_cases with ⟨trigger, outcome, hactivity, hends⟩ | ⟨-, hsame⟩
  · obtain ⟨-, -, -, hjournal, -⟩ := s.endCycle_leaves trigger outcome
    exact .inr ⟨trigger, outcome, hactivity, by rw [hends]; exact hjournal⟩
  · exact .inl (by rw [hsame])

theorem cache_of_stop (h : s.stop = .ok s') : s'.cache = s.cache := by
  obtain ⟨-, rfl⟩ := stop_eq_ok_iff.mp h
  exact s.conclude_cache

/-! ### Safety -/

/-- Why a start is rejected. -/
def startRefusal (s : Scheduler) : LifecycleError :=
  if s.phase = .stopped then .initFailed "scheduler was stopped; build a new one to restart" else .alreadyRunning

/-- What a scheduler keeps to in every state. -/
structure Safe (s : Scheduler) : Prop where
  /-- A start succeeds exactly when there has been none. -/
  start_ok_iff : (∃ s', s.start = .ok s') ↔ s.phase = .idle
  /-- A stop succeeds exactly when the scheduler is running. -/
  stop_ok_iff : (∃ s', s.stop = .ok s') ↔ s.stateName = "running"
  /-- After a start that succeeds no other does. -/
  start_once : ∀ s', s.start = .ok s' → ∀ later, ∃ e, (s'.run later).start = .error e
  /-- After a stop that succeeds no other does. -/
  stop_once : ∀ s', s.stop = .ok s' → ∀ later, (s'.run later).stop = .error .notRunning
  /-- A start that is rejected changes nothing, and says why. -/
  start_rejected : ∀ e, s.start = .error e → s.next .start = s ∧ e = s.startRefusal
  /-- A stop that is rejected changes nothing, and says why. -/
  stop_rejected : ∀ e, s.stop = .error e → s.next .stop = s ∧ e = .notRunning
  /-- No two cycles overlap: by the journal there is at most one under way, which unless it has been
  cut short by a stop is the one at which the scheduler is. -/
  one_cycle : ∃ current, cycleAfter s.journal = some current ∧ (s.phase ≠ .stopped → current = s.activity.trigger?)
  /-- A stop that succeeds leaves the cache and asks for nothing. At most it lets the cycle tell the outcome
  to which it has come. -/
  stop_quiet : ∀ s', s.stop = .ok s' → s'.cache = s.cache ∧ (s'.journal = s.journal ∨
    ∃ trigger outcome, s.activity = .concluding trigger outcome ∧ s'.journal = s.journal ++ [.finished trigger outcome])
  /-- After it nothing is asked for, and the cache stays as it is. -/
  silent : ∀ s', s.stop = .ok s' → ∀ later, (s'.run later).journal = s'.journal ∧ (s'.run later).cache = s'.cache

theorem start_error_iff {e : LifecycleError} : s.start = .error e ↔ s.phase ≠ .idle ∧ e = s.startRefusal := by
  cases h : s.phase <;> simp [start, startRefusal, h, eq_comm]

theorem stop_error_iff {e : LifecycleError} : s.stop = .error e ↔ s.phase.isStarted = false ∧ e = .notRunning := by
  cases h : s.phase.isStarted <;> simp [stop, h, eq_comm]

theorem isStarted_iff : s.phase.isStarted = true ↔ s.stateName = "running" := by
  cases h : s.phase <;> simp [SchedulerPhase.isStarted, stateName, h]

theorem Orderly.safe (h : Orderly s) : Safe s where
  start_ok_iff := by simp [start_eq_ok_iff]
  stop_ok_iff := by simp [stop_eq_ok_iff, isStarted_iff]
  start_once s' hstart later := by
    obtain ⟨-, rfl⟩ := start_eq_ok_iff.mp hstart
    have hstart : ({ s with phase := .starting }.beginCycle .startup).phase ≠ .idle := by simp [beginCycle, note]
    exact ⟨_, start_error_iff.mpr ⟨run_phase_ne_idle hstart later, rfl⟩⟩
  stop_once s' hstop later := by
    have hstopped := (stopped_of_stop hstop).run later
    exact stop_error_iff.mpr ⟨by rw [hstopped.phase, SchedulerPhase.isStarted], rfl⟩
  start_rejected e herror := ⟨next_start_of_error herror, (start_error_iff.mp herror).2⟩
  stop_rejected e herror := ⟨next_stop_of_error herror, (stop_error_iff.mp herror).2⟩
  one_cycle := by
    obtain ⟨current, hjournal⟩ := Option.isSome_iff_exists.mp h.apart
    exact ⟨current, hjournal, fun hphase => Option.some.inj (hjournal.symm.trans (h.current hphase))⟩
  stop_quiet s' hstop := ⟨cache_of_stop hstop, journal_of_stop hstop⟩
  silent s' hstop later := by
    have hstopped := (stopped_of_stop hstop).run later
    exact ⟨hstopped.journal, hstopped.cache⟩

/-- **The life of a scheduler**: every state of every run of a new scheduler is safe. -/
theorem lifecycle_safe (interval now : Nat) (cache : DocumentCache) (events : EventQueue) (metrics : Metrics)
    (steps : List SchedulerStep) : Safe ((fresh interval now cache events metrics).run steps) :=
  ((orderly_fresh interval now cache events metrics).run steps).safe

end Scheduler

end LogTagger
