import LogTagger.Proofs.Scheduler.Lifecycle

/-!
# The timer of a scheduler

A loop that begins with a timer without an interval breaks at once. The interval is given to the
scheduler when it is made and no step changes it, so a scheduler with an interval never breaks
(**`Timed.run`**).
-/

namespace LogTagger

namespace Scheduler

variable {interval : Nat} {s : Scheduler}

/-- The timer has its interval, and the loop has not broken. -/
structure Timed (interval : Nat) (s : Scheduler) : Prop where
  interval : s.interval = interval
  unbroken : s.phase ≠ .broken

theorem timed_fresh (interval now : Nat) (cache : DocumentCache) (events : EventQueue) (metrics : Metrics) :
    Timed interval (fresh interval now cache events metrics) := ⟨rfl, by simp [fresh]⟩

theorem Timed.conclude (h : Timed interval s) : Timed interval s.conclude := by
  rcases s.conclude_cases with ⟨trigger, outcome, -, hends⟩ | ⟨-, hsame⟩
  · obtain ⟨-, -, -, -, hphase⟩ := s.endCycle_leaves trigger outcome
    refine ⟨s.conclude_sameLoop.interval.trans h.interval, ?_⟩
    rw [hends, hphase]
    split
    · simp
    · exact h.unbroken
  · rwa [hsame]

theorem Timed.continueCycle (h : Timed interval s) (metrics : Metrics) (trigger : SyncTrigger) (r : Reconciliation) :
    Timed interval ({ s with metrics }.continueCycle trigger r) := by
  rw [Scheduler.continueCycle]
  split <;> exact ⟨h.interval, h.unbroken⟩

/-- Only a timer without an interval breaks the loop. -/
theorem Timed.next (h : Timed interval s) (hinterval : interval ≠ 0) (step : SchedulerStep) :
    Timed interval (s.next step) := by
  have hsame : Timed interval s := h
  obtain ⟨hi, hunbroken⟩ := h
  cases step with
  | start =>
    cases hstart : s.start with
    | error e => rwa [next_start_of_error hstart]
    | ok s' =>
      obtain ⟨-, rfl⟩ := start_eq_ok_iff.mp hstart
      rw [next_start_of_ok hstart]
      exact ⟨hi, by simp [beginCycle, note]⟩
  | stop =>
    cases hstop : s.stop with
    | error e => rwa [next_stop_of_error hstop]
    | ok s' =>
      obtain ⟨-, rfl⟩ := stop_eq_ok_iff.mp hstop
      rw [next_stop_of_ok hstop]
      exact ⟨s.conclude_sameLoop.interval.trans hi, by simp⟩
  | request => exact ⟨hi, hunbroken⟩
  | look => exact hsame
  | pass time => exact ⟨hi, hunbroken⟩
  | tick =>
    rw [Scheduler.next, fireTimer]
    split
    · exact ⟨hi, hunbroken⟩
    · exact hsame
  | offer item =>
    rw [Scheduler.next, offer]
    split
    · exact ⟨hi, hunbroken⟩
    · exact hsame
  | endEvents => exact ⟨hi, hunbroken⟩
  | beginLoop =>
    rw [Scheduler.next, beginLoop]
    split
    case isFalse => exact hsame
    case isTrue =>
      rw [if_neg (hi ▸ hinterval)]
      exact ⟨hi, by simp⟩
  | wake =>
    cases hwake : s.wake with
    | none =>
      rw [Scheduler.next, hwake, Option.getD_none, listen]
      split
      · exact ⟨hi, hunbroken⟩
      · exact hsame
    | some s' =>
      rw [Scheduler.next, hwake, Option.getD_some]
      obtain ⟨-, -, ⟨-, rfl⟩ | ⟨-, requests, -, rfl⟩ | ⟨-, -, item, rest, -, rfl⟩⟩ := wake_cases hwake
      · exact ⟨hi, hunbroken⟩
      · exact ⟨hi, hunbroken⟩
      · rw [takeEvent]
        split <;> exact ⟨hi, hunbroken⟩
  | discovered answer =>
    rw [Scheduler.next, discovered]
    split
    case h_2 => exact hsame
    case h_1 trigger _ =>
      cases answer with
      | ok target => exact hsame.continueCycle s.metrics trigger _
      | error cause => exact ⟨hi, hunbroken⟩
  | fetched answer =>
    rw [Scheduler.next, fetched]
    split
    case h_2 => exact hsame
    case h_1 trigger r _ => exact hsame.continueCycle _ trigger _
  | conclude => exact hsame.conclude

/-- **A scheduler with an interval never breaks.** -/
theorem Timed.run (h : Timed interval s) (hinterval : interval ≠ 0) (steps : List SchedulerStep) :
    Timed interval (s.run steps) :=
  run_induction (fun _ step h => h.next hinterval step) h steps

end Scheduler

end LogTagger
