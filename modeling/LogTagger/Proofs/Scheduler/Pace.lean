import LogTagger.Proofs.Scheduler.Timer
import Mathlib.Data.List.Pairwise

/-!
# The pace of the timer

The loop takes up a tick of the timer when it comes to wait, which may be long after the tick was due. What
is taken up then decides when the next tick is due (`Tick`), and no later one is taken up before that: ticks
that fall due while a cycle runs count as one (`TickedFrom`).

**`timer_paced`**: if each tick that is taken up makes the next one due a whole interval later, the cycles
that the timer begins are at least an interval apart, and the first of them begins at least an interval after
the end of the start. A tick that is taken up only a little late makes the next one due as if it were in time,
though (`tickSlack`); cycles can then be closer to each other by as much, and by no more
(`timerStarts_nearly_apart`).

`next_timerMove` says all that a step can do to the timer.
-/

namespace LogTagger

/-- A tick of the timer that is taken up. -/
structure Tick where
  /-- The time at which it was due. -/
  due : Nat
  /-- The time at which it is taken up. -/
  taken : Nat
  /-- The time at which the next one is due from then on. -/
  next : Nat
  deriving DecidableEq

/-- The time at which the timer has begun a cycle, if an entry tells of one. -/
def JournalEntry.timerStart? : JournalEntry → Option Nat
  | .discovery .interval time => some time
  | _ => none

namespace Scheduler

variable {interval time : Nat} {s s' : Scheduler} {step : SchedulerStep} {tick : Option Tick}

/-! ### Ticks and the cycles that they begin -/

/-- The tick that a step takes up. -/
def tick? (s : Scheduler) : SchedulerStep → Option Tick
  | .wake => if s.isListening && s.tickDue then some ⟨s.nextTick, s.now, (s.next .wake).nextTick⟩ else none
  | _ => none

/-- The ticks that steps take up, in order. -/
def ticks (s : Scheduler) : List SchedulerStep → List Tick
  | [] => []
  | step :: rest => (s.tick? step).toList ++ (s.next step).ticks rest

/-- The times at which the timer has begun cycles, in order. -/
def timerStarts (s : Scheduler) : List Nat := s.journal.filterMap JournalEntry.timerStart?

theorem timerStarts_of_journal (later : List JournalEntry) (h : s'.journal = s.journal ++ later) :
    s'.timerStarts = s.timerStarts ++ later.filterMap JournalEntry.timerStart? := by
  rw [timerStarts, h, List.filterMap_append, timerStarts]

theorem timerStarts_beginCycle_interval (s : Scheduler) :
    (s.beginCycle .interval).timerStarts = s.timerStarts ++ [s.now] :=
  timerStarts_of_journal [.discovery .interval s.now] rfl

theorem timerStarts_beginCycle_of_ne {trigger : SyncTrigger} (h : trigger ≠ .interval) (s : Scheduler) :
    (s.beginCycle trigger).timerStarts = s.timerStarts := by
  rw [timerStarts_of_journal [.discovery trigger s.now] rfl]
  cases trigger with
  | interval => exact absurd rfl h
  | _ => exact List.append_nil _

/-! ### What a step can do -/

/-- The timer stands as it did. -/
structure SameTimer (s s' : Scheduler) : Prop where
  nextTick : s'.nextTick = s.nextTick
  tickDue : s'.tickDue = s.tickDue
  timerStarts : s'.timerStarts = s.timerStarts

/-- All that a step can do to the timer, given the tick that it takes up. -/
inductive TimerMove (s s' : Scheduler) : Option Tick → Prop
  /-- It concerns neither the timer nor the stage, but time may pass. -/
  | rests (phase : s'.phase = s.phase) (now : s.now ≤ s'.now)
      (first : s'.activity.trigger? = some .startup → s.activity.trigger? = some .startup) (same : SameTimer s s') :
      TimerMove s s' none
  /-- It is the start. -/
  | starts (before : s.phase = .idle) (phase : s'.phase = .starting) (now : s'.now = s.now) (same : SameTimer s s') :
      TimerMove s s' none
  /-- It ends the first cycle, and with it the start. -/
  | readies (before : s.phase = .starting) (phase : s'.phase = .ready) (now : s'.now = s.now)
      (activity : s'.activity = .waiting) (same : SameTimer s s') : TimerMove s s' none
  /-- It begins the loop and winds up the timer. -/
  | winds (before : s.phase = .ready) (phase : s'.phase = .running) (now : s'.now = s.now)
      (activity : s'.activity = s.activity) (nextTick : s'.nextTick = s.now + s.interval)
      (tickDue : s'.tickDue = s.tickDue) (starts : s'.timerStarts = s.timerStarts) : TimerMove s s' none
  /-- The timer ticks, as it is due. -/
  | fires (before : s.phase = .running) (phase : s'.phase = .running) (now : s'.now = s.now)
      (activity : s'.activity = s.activity) (due : s.nextTick ≤ s.now) (nextTick : s'.nextTick = s.nextTick)
      (starts : s'.timerStarts = s.timerStarts) : TimerMove s s' none
  /-- The loop takes up the tick and begins a cycle. -/
  | takes (before : s.phase = .running) (phase : s'.phase = .running) (now : s'.now = s.now)
      (activity : s'.activity = .discovering .interval) (due : s.tickDue = true)
      (nextTick : s'.nextTick = tickAfter s.interval s.nextTick s.now) (tickDue : s'.tickDue = false)
      (starts : s'.timerStarts = s.timerStarts ++ [s.now]) : TimerMove s s' (some ⟨s.nextTick, s.now, s'.nextTick⟩)
  /-- The loop breaks at its beginning. -/
  | breaks (before : s.phase = .ready) (phase : s'.phase = .broken) (now : s'.now = s.now)
      (activity : s'.activity = s.activity) (starts : s'.timerStarts = s.timerStarts) : TimerMove s s' none
  /-- It stops the scheduler. -/
  | stops (phase : s'.phase = .stopped) (now : s'.now = s.now) (activity : s'.activity = .waiting)
      (starts : s'.timerStarts = s.timerStarts) : TimerMove s s' none

theorem TimerMove.refl (s : Scheduler) : TimerMove s s none := .rests rfl (Nat.le_refl _) id ⟨rfl, rfl, rfl⟩

/-- To tell an outcome is to begin no cycle. -/
theorem timerStarts_conclude (s : Scheduler) : s.conclude.timerStarts = s.timerStarts := by
  rcases s.conclude_cases with ⟨trigger, outcome, -, hends⟩ | ⟨-, hsame⟩
  · obtain ⟨-, -, -, hjournal, -⟩ := s.endCycle_leaves trigger outcome
    rw [hends, timerStarts_of_journal _ hjournal]
    simp [JournalEntry.timerStart?]
  · rw [hsame]

theorem conclude_timerMove (s : Scheduler) : TimerMove s s.conclude none := by
  have hloop := s.conclude_sameLoop
  have hsame : SameTimer s s.conclude := ⟨hloop.nextTick, hloop.tickDue, s.timerStarts_conclude⟩
  rcases s.conclude_cases with ⟨trigger, outcome, -, hends⟩ | ⟨-, hidle⟩
  · obtain ⟨hwaits, -, -, -, hphase⟩ := s.endCycle_leaves trigger outcome
    rw [← hends] at hwaits hphase
    by_cases hstarting : s.phase = .starting
    · rw [if_pos hstarting] at hphase
      exact .readies hstarting hphase hloop.now hwaits hsame
    · rw [if_neg hstarting] at hphase
      refine .rests hphase (Nat.le_of_eq hloop.now.symm) (fun hfirst => ?_) hsame
      rw [hwaits] at hfirst
      cases hfirst
  · rw [hidle]
    exact .refl s

theorem continueCycle_timerMove {trigger : SyncTrigger} (h : s.activity.trigger? = some trigger) (metrics : Metrics)
    (r : Reconciliation) : TimerMove s ({ s with metrics }.continueCycle trigger r) none := by
  rw [continueCycle]
  split
  case h_1 =>
    refine .rests rfl (Nat.le_refl _) (fun hfirst => ?_) ⟨rfl, rfl, rfl⟩
    rw [h]
    exact hfirst
  case h_2 id url rest hmissing =>
    refine .rests rfl (Nat.le_refl _) (fun hfirst => ?_) ⟨rfl, rfl, ?_⟩
    · rw [h]
      exact hfirst
    · rw [timerStarts_of_journal (s := s) [.fetch id url] rfl]
      simp [JournalEntry.timerStart?]

theorem wake_timerMove (s : Scheduler) : TimerMove s (s.next .wake) (s.tick? .wake) := by
  cases hwake : s.wake with
  | none =>
    have hnone : s.tick? .wake = none := by
      rw [tick?, if_neg]
      intro htick
      rw [Bool.and_eq_true] at htick
      simp [wake, htick.1, htick.2] at hwake
    rw [hnone, next, hwake, Option.getD_none, listen]
    split
    · exact .rests rfl (Nat.le_refl _) id ⟨rfl, rfl, rfl⟩
    · exact .refl s
  | some s' =>
    have hnext : s.next .wake = s' := by rw [next, hwake, Option.getD_some]
    obtain ⟨hphase, hwaits, hcases⟩ := wake_cases hwake
    have hlistens : s.isListening = true := isListening_iff.mpr ⟨hphase, hwaits⟩
    rw [tick?, hnext, hlistens, Bool.true_and]
    obtain ⟨htick, rfl⟩ | ⟨htick, requests, -, rfl⟩ | ⟨htick, -, item, rest, -, rfl⟩ := hcases
    · rw [if_pos htick]
      exact .takes hphase hphase rfl rfl htick rfl rfl (timerStarts_beginCycle_interval _)
    · have hstarts := timerStarts_beginCycle_of_ne (by decide : SyncTrigger.manual ≠ .interval) { s with requests }
      rw [if_neg (by simp [htick])]
      exact .rests rfl (Nat.le_refl _) (fun hfirst => by cases hfirst) ⟨rfl, rfl, hstarts⟩
    · have hstarts := fun s' => timerStarts_beginCycle_of_ne (by decide : SyncTrigger.event ≠ .interval) s'
      rw [if_neg (by simp [htick]), takeEvent]
      split
      · exact .rests rfl (Nat.le_refl _) (fun hfirst => by cases hfirst) ⟨rfl, rfl, hstarts _⟩
      · exact .rests rfl (Nat.le_refl _) id ⟨rfl, rfl, rfl⟩

/-- **All that a step can do to the timer.** -/
theorem next_timerMove (s : Scheduler) (step : SchedulerStep) : TimerMove s (s.next step) (s.tick? step) := by
  cases step with
  | start =>
    cases h : s.start with
    | error e =>
      rw [next_start_of_error h]
      exact .refl s
    | ok s' =>
      obtain ⟨hidle, rfl⟩ := start_eq_ok_iff.mp h
      rw [next_start_of_ok h]
      exact .starts hidle rfl rfl ⟨rfl, rfl, timerStarts_beginCycle_of_ne (by decide) _⟩
  | stop =>
    cases h : s.stop with
    | error e =>
      rw [next_stop_of_error h]
      exact .refl s
    | ok s' =>
      obtain ⟨-, rfl⟩ := stop_eq_ok_iff.mp h
      rw [next_stop_of_ok h]
      exact .stops rfl s.conclude_sameLoop.now rfl s.timerStarts_conclude
  | request => exact .rests rfl (Nat.le_refl _) id ⟨rfl, rfl, rfl⟩
  | look => exact .refl s
  | pass time => exact .rests rfl (Nat.le_add_right _ _) id ⟨rfl, rfl, rfl⟩
  | tick =>
    rw [next, fireTimer]
    split
    case isTrue hdue => exact .fires hdue.1 hdue.1 rfl rfl hdue.2 rfl rfl
    case isFalse => exact .refl s
  | offer item =>
    rw [next, offer]
    split
    · exact .rests rfl (Nat.le_refl _) id ⟨rfl, rfl, rfl⟩
    · exact .refl s
  | endEvents => exact .rests rfl (Nat.le_refl _) id ⟨rfl, rfl, rfl⟩
  | beginLoop =>
    rw [next, beginLoop]
    split
    case isFalse => exact .refl s
    case isTrue hready =>
      split
      · exact .breaks hready rfl rfl rfl rfl
      · exact .winds hready rfl rfl rfl rfl rfl rfl
  | wake => exact wake_timerMove s
  | discovered answer =>
    rw [next, discovered]
    split
    case h_2 => exact .refl s
    case h_1 trigger hactivity =>
      have h : s.activity.trigger? = some trigger := by rw [hactivity, Activity.trigger?]
      cases answer with
      | ok target => exact continueCycle_timerMove h s.metrics _
      | error cause =>
        refine .rests rfl (Nat.le_refl _) (fun hfirst => ?_) ⟨rfl, rfl, rfl⟩
        rw [h]
        exact hfirst
  | fetched answer =>
    rw [next, fetched]
    split
    case h_2 => exact .refl s
    case h_1 trigger r hactivity =>
      exact continueCycle_timerMove (by rw [hactivity, Activity.trigger?]) _ _
  | conclude => exact conclude_timerMove s

/-! ### Before the loop -/

/-- The first cycle belongs to the start, and the timer begins no cycle before the loop. -/
structure StartFirst (s : Scheduler) : Prop where
  first : s.activity.trigger? = some .startup → s.phase = .starting
  unbegun : s.phase = .idle ∨ s.phase = .starting ∨ s.phase = .ready → s.timerStarts = []

theorem startFirst_fresh (interval now : Nat) (cache : DocumentCache) (events : EventQueue) (metrics : Metrics) :
    StartFirst (fresh interval now cache events metrics) where
  first hfirst := by cases hfirst
  unbegun _ := rfl

theorem StartFirst.move (h : StartFirst s) (hmove : TimerMove s s' tick) : StartFirst s' := by
  cases hmove with
  | rests phase now first same =>
    refine ⟨fun hfirst => phase.trans (h.first (first hfirst)), fun hearly => ?_⟩
    rw [same.timerStarts, h.unbegun (phase ▸ hearly)]
  | starts before phase now same =>
    exact ⟨fun _ => phase, fun _ => same.timerStarts.trans (h.unbegun (.inl before))⟩
  | readies before phase now activity same =>
    refine ⟨fun hfirst => ?_, fun _ => same.timerStarts.trans (h.unbegun (.inr (.inl before)))⟩
    rw [activity] at hfirst
    cases hfirst
  | winds before phase now activity nextTick tickDue starts =>
    refine ⟨fun hfirst => ?_, fun _ => starts.trans (h.unbegun (.inr (.inr before)))⟩
    exact absurd (before.symm.trans (h.first (activity ▸ hfirst))) (by decide)
  | fires before phase now activity due nextTick starts =>
    refine ⟨fun hfirst => ?_, fun hearly => ?_⟩
    · exact absurd (before.symm.trans (h.first (activity ▸ hfirst))) (by decide)
    · simp [phase] at hearly
  | takes before phase now activity due nextTick tickDue starts =>
    refine ⟨fun hfirst => ?_, fun hearly => ?_⟩
    · rw [activity] at hfirst
      cases hfirst
    · simp [phase] at hearly
  | breaks before phase now activity starts =>
    refine ⟨fun hfirst => ?_, fun hearly => ?_⟩
    · exact absurd (before.symm.trans (h.first (activity ▸ hfirst))) (by decide)
    · simp [phase] at hearly
  | stops phase now activity starts =>
    refine ⟨fun hfirst => ?_, fun hearly => ?_⟩
    · rw [activity] at hfirst
      cases hfirst
    · simp [phase] at hearly

/-- A step that ends the first cycle is taken during the start. -/
theorem StartFirst.starting_of_finished (h : StartFirst s) {outcome : Except SourceError ReconcileStats}
    (hjournal : (s.next step).journal = s.journal ++ [.finished .startup outcome]) : s.phase = .starting := by
  refine h.first ?_
  cases next_move s step with
  | idles agrees => simp [agrees.journal] at hjournal
  | starts before phase activity cache journal => simp [journal] at hjournal
  | begins before phase activity cache journal => simp [journal] at hjournal
  | discovers trigger before waits phase activity cache journal => simp [journal] at hjournal
  | fetches trigger r id url before phase activity cache journal => simp [journal] at hjournal
  | reaches trigger outcome' before phase activity lastError journal => simp [journal] at hjournal
  | finishes trigger outcome' before phase activity cache journal =>
    rw [journal] at hjournal
    simp only [List.append_cancel_left_eq, List.cons.injEq, JournalEntry.finished.injEq, and_true] at hjournal
    rw [before, Activity.trigger?, hjournal.1]
  | stops before phase activity cache journal =>
    rw [journal] at hjournal
    rcases s.conclude_cases with ⟨trigger, outcome', hactivity, hends⟩ | ⟨-, hsame⟩
    · obtain ⟨-, -, -, htold, -⟩ := s.endCycle_leaves trigger outcome'
      rw [hends, htold] at hjournal
      simp only [List.append_cancel_left_eq, List.cons.injEq, JournalEntry.finished.injEq, and_true] at hjournal
      rw [hactivity, Activity.trigger?, hjournal.1]
    · simp [hsame] at hjournal

/-! ### When the next tick can be taken up -/

/-- No tick is taken up before a time: the loop has not begun, and an interval after its beginning the time
will have come; or the timer is wound up to that time or a later one. -/
def NoTickBefore (time : Nat) (s : Scheduler) : Prop :=
  match s.phase with
  | .idle | .starting | .ready => s.tickDue = false ∧ time ≤ s.now + s.interval
  | .running => (s.tickDue = true → s.nextTick ≤ s.now) ∧ time ≤ s.nextTick
  | .broken | .stopped => True

theorem noTickBefore_fresh (interval now : Nat) (cache : DocumentCache) (events : EventQueue) (metrics : Metrics) :
    NoTickBefore (now + interval) (fresh interval now cache events metrics) := ⟨rfl, Nat.le_refl _⟩

theorem NoTickBefore.of_running (h : NoTickBefore time s) (hphase : s.phase = .running) :
    (s.tickDue = true → s.nextTick ≤ s.now) ∧ time ≤ s.nextTick := by
  rwa [NoTickBefore, hphase] at h

/-- A step that takes up no tick brings none nearer. -/
theorem NoTickBefore.move (h : NoTickBefore time s) (hmove : TimerMove s s' none)
    (hinterval : s'.interval = s.interval) : NoTickBefore time s' := by
  rw [NoTickBefore] at h ⊢
  cases hmove with
  | rests phase now first same =>
    rw [phase]
    cases hphase : s.phase <;> simp only [hphase] at h ⊢
    case running =>
      rw [same.tickDue, same.nextTick]
      exact ⟨fun hdue => Nat.le_trans (h.1 hdue) now, h.2⟩
    all_goals
      rw [same.tickDue, hinterval]
      exact ⟨h.1, Nat.le_trans h.2 (Nat.add_le_add_right now _)⟩
  | starts before phase now same =>
    simp only [before] at h
    simpa only [phase, same.tickDue, now, hinterval] using h
  | readies before phase now activity same =>
    simp only [before] at h
    simpa only [phase, same.tickDue, now, hinterval] using h
  | winds before phase now activity nextTick tickDue starts =>
    simp only [before] at h
    simp only [phase, tickDue, nextTick, now]
    exact ⟨fun hdue => absurd (hdue.symm.trans h.1) (by decide), h.2⟩
  | fires before phase now activity due nextTick starts =>
    simp only [before] at h
    simp only [phase, nextTick, now]
    exact ⟨fun _ => due, h.2⟩
  | breaks before phase now activity starts => simp only [phase]
  | stops phase now activity starts => simp only [phase]

/-- What holds of a tick that is taken up: it was due, and the next one is taken up no earlier than it makes it due. -/
theorem NoTickBefore.take (h : NoTickBefore time s) {tick : Tick} (hmove : TimerMove s s' (some tick)) :
    time ≤ tick.due ∧ tick.due ≤ tick.taken ∧ tick.next = tickAfter s.interval tick.due tick.taken ∧
      NoTickBefore tick.next s' := by
  cases hmove with
  | takes before phase now activity due nextTick tickDue starts =>
    obtain ⟨hdue, htime⟩ := h.of_running before
    refine ⟨htime, hdue due, nextTick, ?_⟩
    simp only [NoTickBefore, phase]
    exact ⟨fun hdue' => absurd (hdue'.symm.trans tickDue) (by decide), Nat.le_refl _⟩

theorem NoTickBefore.mono {time' : Nat} (h : NoTickBefore time s) (hle : time' ≤ time) : NoTickBefore time' s := by
  rw [NoTickBefore] at h ⊢
  cases hphase : s.phase <;> simp only [hphase] at h ⊢
  all_goals exact ⟨h.1, Nat.le_trans hle h.2⟩

/-- As long as the start lasts no tick can be taken up within an interval from now. -/
theorem NoTickBefore.of_starting (h : NoTickBefore time s) (hphase : s.phase = .starting) :
    NoTickBefore (s.now + s.interval) s := by
  rw [NoTickBefore] at h ⊢
  simp only [hphase] at h ⊢
  exact ⟨h.1, Nat.le_refl _⟩

theorem due_le_tickAfter (interval due taken : Nat) : due ≤ tickAfter interval due taken := by
  rw [tickAfter]
  split <;> omega

/-- A tick that is taken up makes the next one due at most so much earlier than a whole interval later. -/
theorem taken_add_le_tickAfter (interval due taken : Nat) :
    taken + interval ≤ tickAfter interval due taken + tickSlack := by
  rw [tickAfter]
  split <;> omega

theorem NoTickBefore.next (h : NoTickBefore time s) (htimed : Timed interval s) (hinterval : interval ≠ 0)
    (step : SchedulerStep) : NoTickBefore time (s.next step) := by
  have hmove := s.next_timerMove step
  cases htick : s.tick? step with
  | none =>
    rw [htick] at hmove
    exact h.move hmove ((htimed.next hinterval step).interval.trans htimed.interval.symm)
  | some tick =>
    rw [htick] at hmove
    obtain ⟨htime, -, hnext, hfrom⟩ := h.take hmove
    have hle : tick.due ≤ tick.next := by
      rw [hnext]
      exact due_le_tickAfter s.interval tick.due tick.taken
    exact hfrom.mono (Nat.le_trans htime hle)

/-! ### Runs -/

theorem NoTickBefore.run (h : NoTickBefore time s) (htimed : Timed interval s) (hinterval : interval ≠ 0)
    (steps : List SchedulerStep) : NoTickBefore time (s.run steps) :=
  (run_induction (P := fun s => NoTickBefore time s ∧ Timed interval s)
    (fun _ step h => ⟨h.1.next h.2 hinterval step, h.2.next hinterval step⟩) ⟨h, htimed⟩ steps).1

theorem StartFirst.run (h : StartFirst s) (steps : List SchedulerStep) : StartFirst (s.run steps) :=
  run_induction (fun s step h => h.move (s.next_timerMove step)) h steps

/-- What holds of the ticks that a run takes up, when none can be taken up before a time. -/
structure TickedFrom (interval time : Nat) (ticks : List Tick) : Prop where
  /-- Each is due then or later. -/
  later : ∀ tick ∈ ticks, time ≤ tick.due
  /-- Each is due when it is taken up. -/
  due : ∀ tick ∈ ticks, tick.due ≤ tick.taken
  /-- Each decides when the next one is due. -/
  next : ∀ tick ∈ ticks, tick.next = tickAfter interval tick.due tick.taken
  /-- Any later one is due no earlier. -/
  ordered : ticks.Pairwise fun a b => a.next ≤ b.due

theorem NoTickBefore.tickedFrom (h : NoTickBefore time s) (htimed : Timed interval s) (hinterval : interval ≠ 0)
    (steps : List SchedulerStep) : TickedFrom interval time (s.ticks steps) := by
  induction steps generalizing s time with
  | nil => exact ⟨by simp [ticks], by simp [ticks], by simp [ticks], .nil⟩
  | cons step rest ih =>
    have hmove := s.next_timerMove step
    have htimed' := htimed.next hinterval step
    have hlater := ih (h.next htimed hinterval step) htimed'
    rw [ticks]
    cases htick : s.tick? step with
    | none => exact hlater
    | some tick =>
      rw [htick] at hmove
      obtain ⟨htime, hdue, hnext, hfrom⟩ := h.take hmove
      rw [htimed.interval] at hnext
      rw [Option.toList_some, List.singleton_append]
      exact
        { later := List.forall_mem_cons.mpr ⟨htime, hlater.later⟩
          due := List.forall_mem_cons.mpr ⟨hdue, hlater.due⟩
          next := List.forall_mem_cons.mpr ⟨hnext, hlater.next⟩
          ordered := List.pairwise_cons.mpr ⟨(ih hfrom htimed').later, hlater.ordered⟩ }

theorem TimerMove.timerStarts (h : TimerMove s s' tick) :
    s'.timerStarts = s.timerStarts ++ (tick.map Tick.taken).toList := by
  cases h with
  | rests phase now first same => simp [same.timerStarts]
  | starts before phase now same => simp [same.timerStarts]
  | readies before phase now activity same => simp [same.timerStarts]
  | _ => simp [*]

/-- The cycles that the timer begins are those for which its ticks are taken up. -/
theorem timerStarts_run (s : Scheduler) (steps : List SchedulerStep) :
    (s.run steps).timerStarts = s.timerStarts ++ (s.ticks steps).map Tick.taken := by
  induction steps generalizing s with
  | nil => simp [ticks]
  | cons step rest ih =>
    rw [run_cons, ih, (s.next_timerMove step).timerStarts, ticks, List.map_append, List.append_assoc]
    cases s.tick? step <;> rfl

theorem TimerMove.now_le (h : TimerMove s s' tick) : s.now ≤ s'.now := by
  cases h with
  | rests phase now first same => exact now
  | _ => simp [*]

/-- Ticks are taken up while a run lasts. -/
theorem taken_mem_ticks (s : Scheduler) (steps : List SchedulerStep) :
    s.now ≤ (s.run steps).now ∧ ∀ tick ∈ s.ticks steps, s.now ≤ tick.taken ∧ tick.taken ≤ (s.run steps).now := by
  induction steps generalizing s with
  | nil => simp [ticks]
  | cons step rest ih =>
    have hmove := s.next_timerMove step
    have hnow := hmove.now_le
    obtain ⟨hrun, hrest⟩ := ih (s.next step)
    rw [run_cons, ticks]
    refine ⟨Nat.le_trans hnow hrun, fun tick htick => ?_⟩
    rcases List.mem_append.mp htick with htick | htick
    · rw [Option.mem_toList.mp htick] at hmove
      cases hmove with
      | takes => exact ⟨Nat.le_refl _, Nat.le_trans hnow hrun⟩
    · obtain ⟨hfirst, hlast⟩ := hrest tick htick
      exact ⟨Nat.le_trans hnow hfirst, hlast⟩

/-- Cycles that the timer begins are an interval apart, but for what its ticks make the next one due too early. -/
theorem pairwise_map_taken {slack : Nat} {ticks : List Tick} (h : TickedFrom interval time ticks)
    (hslack : ∀ tick ∈ ticks, tick.taken + interval ≤ tick.next + slack) :
    (ticks.map Tick.taken).Pairwise fun t u => t + interval ≤ u + slack := by
  refine List.pairwise_map.mpr (h.ordered.imp_of_mem fun {a b} ha hb hab => ?_)
  have hfirst := hslack a ha
  have hsecond := h.due b hb
  omega

/-! ### The pace -/

/-- The pace at which the timer of a new scheduler begins cycles in a run. -/
structure Paced (interval : Nat) (s : Scheduler) (steps : List SchedulerStep) : Prop where
  /-- Each of the cycles is begun by a tick that was due, at the time at which that is taken up. -/
  begun : (s.run steps).timerStarts = (s.ticks steps).map Tick.taken ∧ ∀ tick ∈ s.ticks steps, tick.due ≤ tick.taken
  /-- Any two begin at least an interval apart. -/
  apart : (s.run steps).timerStarts.Pairwise fun t u => t + interval ≤ u
  /-- None begins less than an interval after the first cycle has come to its end. -/
  afterStart : ∀ before step after outcome, steps = before ++ step :: after →
    ((s.run before).next step).journal = (s.run before).journal ++ [.finished .startup outcome] →
      ∀ t ∈ (s.run steps).timerStarts, (s.run before).now + interval ≤ t
  /-- However long a cycle has lasted, at most one begins in less than an interval from then on. -/
  single : ∀ before middle after, steps = before ++ middle ++ after →
    (s.run (before ++ middle)).now < (s.run before).now + interval →
      (s.run (before ++ middle)).timerStarts.length ≤ (s.run before).timerStarts.length + 1

/-- Among times an interval apart there is one at most in less than an interval. -/
theorem length_le_one_of_within {times : List Nat} (h : times.Pairwise fun t u => t + interval ≤ u) {first last : Nat}
    (hwithin : ∀ t ∈ times, first ≤ t ∧ t ≤ last) (hshort : last < first + interval) : times.length ≤ 1 := by
  cases h with
  | nil => exact Nat.zero_le _
  | @cons t rest hfirst hrest =>
    cases rest with
    | nil => exact Nat.le_refl _
    | cons u rest =>
      have hapart := hfirst u List.mem_cons_self
      have hbegin := hwithin t (by simp)
      have hend := hwithin u (by simp)
      omega

section

variable (interval now : Nat) (cache : DocumentCache) (events : EventQueue) (metrics : Metrics)
  (steps : List SchedulerStep)

theorem tickedFrom_fresh (hinterval : interval ≠ 0) :
    TickedFrom interval (now + interval) ((fresh interval now cache events metrics).ticks steps) :=
  (noTickBefore_fresh interval now cache events metrics).tickedFrom
    (timed_fresh interval now cache events metrics) hinterval steps

/-- **Whatever its ticks do**, the timer begins cycles an interval apart, up to the lateness that does not count. -/
theorem timerStarts_nearly_apart (hinterval : interval ≠ 0) :
    ((fresh interval now cache events metrics).run steps).timerStarts.Pairwise
      fun t u => t + interval ≤ u + tickSlack := by
  have hticks := tickedFrom_fresh interval now cache events metrics steps hinterval
  rw [timerStarts_run]
  refine pairwise_map_taken hticks fun tick htick => ?_
  rw [hticks.next tick htick]
  exact taken_add_le_tickAfter interval tick.due tick.taken

/-- **The timer keeps its pace**, if each tick that is taken up makes the next one due a whole interval later: its
cycles never bunch up. -/
theorem timer_paced (hinterval : 0 < interval)
    (hdelay : ∀ tick ∈ (fresh interval now cache events metrics).ticks steps, tick.next = tick.taken + interval) :
    Paced interval (fresh interval now cache events metrics) steps := by
  have hne : interval ≠ 0 := Nat.ne_of_gt hinterval
  have hticks := tickedFrom_fresh interval now cache events metrics steps hne
  have hbegun : ((fresh interval now cache events metrics).run steps).timerStarts =
      ((fresh interval now cache events metrics).ticks steps).map Tick.taken := timerStarts_run _ steps
  have hapart : ((fresh interval now cache events metrics).run steps).timerStarts.Pairwise
      fun t u => t + interval ≤ u := by
    have hslack : ∀ tick ∈ (fresh interval now cache events metrics).ticks steps,
        tick.taken + interval ≤ tick.next + 0 := fun tick htick => Nat.le_of_eq (hdelay tick htick).symm
    rw [hbegun]
    exact pairwise_map_taken hticks hslack
  constructor
  case begun => exact ⟨hbegun, hticks.due⟩
  case apart => exact hapart
  case afterStart =>
    rintro before step after outcome rfl hjournal t ht
    have hfirst := (startFirst_fresh interval now cache events metrics).run before
    have htimed := (timed_fresh interval now cache events metrics).run hne before
    have hstarting := hfirst.starting_of_finished hjournal
    have hfrom := ((noTickBefore_fresh interval now cache events metrics).run
      (timed_fresh interval now cache events metrics) hne before).of_starting hstarting
    rw [htimed.interval] at hfrom
    have hlater := hfrom.tickedFrom htimed hne (step :: after)
    rw [run_append, timerStarts_run, hfirst.unbegun (.inr (.inl hstarting)), List.nil_append] at ht
    obtain ⟨tick, htick, rfl⟩ := List.mem_map.mp ht
    exact Nat.le_trans (hlater.later tick htick) (hlater.due tick htick)
  case single =>
    rintro before middle after rfl hshort
    have hwithin := (taken_mem_ticks ((fresh interval now cache events metrics).run before) middle).2
    rw [run_append, timerStarts_run] at hapart
    rw [run_append] at hapart hshort ⊢
    rw [timerStarts_run] at hapart ⊢
    have hnew := (List.pairwise_append.mp (List.pairwise_append.mp hapart).1).2.1
    rw [List.length_append]
    refine Nat.add_le_add_left (length_le_one_of_within hnew ?_ hshort) _
    rintro t ht
    obtain ⟨tick, htick, rfl⟩ := List.mem_map.mp ht
    exact hwithin tick htick

end

/-- A run in which the first cycle of the timer lasts for three intervals and a half, with the next tick taken up at its
end and another one in time. -/
def longCycleSteps : List SchedulerStep :=
  [.start, .discovered (.ok {}), .conclude, .beginLoop, .pass 1000, .tick, .wake, .pass 3500, .tick,
    .discovered (.ok {}), .conclude, .wake, .tick, .discovered (.ok {}), .conclude, .wake, .pass 1000, .tick, .wake]

theorem timer_paced_of_long_cycle : 0 < 1000 ∧
    (∀ tick ∈ (fresh 1000 0 {} {} {}).ticks longCycleSteps, tick.next = tick.taken + 1000) ∧
    ((fresh 1000 0 {} {} {}).run longCycleSteps).timerStarts = [1000, 4500, 5500] ∧
    Paced 1000 (fresh 1000 0 {} {} {}) longCycleSteps :=
  have hdelay : ∀ tick ∈ (fresh 1000 0 {} {} {}).ticks longCycleSteps, tick.next = tick.taken + 1000 := by decide
  ⟨by decide, hdelay, by decide, timer_paced 1000 0 {} {} {} longCycleSteps (by decide) hdelay⟩

/-- A tick that is taken up 3 ms late makes the next one due as if it had been in time. -/
example : ((fresh 1000 0 {} {} {}).run [.start, .discovered (.ok {}), .conclude, .beginLoop, .pass 1003, .tick, .wake,
    .discovered (.ok {}), .conclude, .pass 997, .tick, .wake]).timerStarts = [1003, 2000] := by decide

end Scheduler

end LogTagger
