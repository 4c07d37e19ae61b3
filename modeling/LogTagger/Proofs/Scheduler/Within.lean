import LogTagger.Proofs.Scheduler.Steps

/-!
# Between the start and the stop

What happens to a scheduler without its being started or stopped (`MovesOn`): requests come, time
passes, the loop goes round and answers arrive. Such steps lead it from the start to its end and make the
loop begin, and no more: they neither start it nor stop it (`MovesOn.advance`).
-/

namespace LogTagger

/-- Whether a step is neither a start nor a stop. -/
def SchedulerStep.isInner : SchedulerStep → Bool
  | .start | .stop => false
  | .request | .look | .pass _ | .tick | .offer _ | .endEvents | .beginLoop | .wake | .discovered _ | .fetched _
  | .conclude => true

/-- What becomes of the stage without a start or a stop. -/
inductive SchedulerPhase.Advance (before after : SchedulerPhase) : Prop
  /-- It stays. -/
  | stays (same : after = before)
  /-- The start comes to its end, or the loop begins. -/
  | goesOn (begun : before = .starting ∨ before = .ready) (started : after.isStarted = true)

theorem SchedulerPhase.Advance.trans {p q r : SchedulerPhase} (h : p.Advance q) (h' : q.Advance r) : p.Advance r := by
  cases h with
  | stays same => exact same ▸ h'
  | goesOn begun started =>
    cases h' with
    | stays same => exact .goesOn begun (same ▸ started)
    | goesOn begun' started' => exact .goesOn begun started'

namespace Scheduler

variable {s s' s'' : Scheduler}

/-! ### One step -/

theorem conclude_advance (s : Scheduler) : s.phase.Advance s.conclude.phase := by
  rcases s.conclude_cases with ⟨trigger, outcome, -, hends⟩ | ⟨-, hsame⟩
  · obtain ⟨-, -, -, -, hphase⟩ := s.endCycle_leaves trigger outcome
    rw [hends, hphase]
    split
    case isTrue hstarting => exact .goesOn (.inl hstarting) rfl
    case isFalse => exact .stays rfl
  · rw [hsame]
    exact .stays rfl

theorem phase_continueCycle (s : Scheduler) (trigger : SyncTrigger) (r : Reconciliation) :
    (s.continueCycle trigger r).phase = s.phase := by
  rw [continueCycle]
  split <;> rfl

/-- A step that neither starts nor stops. -/
theorem next_advance (s : Scheduler) {step : SchedulerStep} (h : step.isInner = true) :
    s.phase.Advance (s.next step).phase := by
  cases step with
  | start => cases h
  | stop => cases h
  | request => exact .stays rfl
  | look => exact .stays rfl
  | pass time => exact .stays rfl
  | tick =>
    rw [next, fireTimer]
    split <;> exact .stays rfl
  | offer item =>
    rw [next, offer]
    split <;> exact .stays rfl
  | endEvents => exact .stays rfl
  | beginLoop =>
    rw [next, beginLoop]
    split
    case isFalse => exact .stays rfl
    case isTrue hready => split <;> exact .goesOn (.inr hready) rfl
  | wake =>
    cases hwake : s.wake with
    | none =>
      rw [next, hwake]
      exact .stays s.listen_agrees.phase
    | some s' =>
      rw [next, hwake]
      obtain ⟨-, -, ⟨-, rfl⟩ | ⟨-, requests, -, rfl⟩ | ⟨-, -, item, rest, -, rfl⟩⟩ := wake_cases hwake
      · exact .stays rfl
      · exact .stays rfl
      · rw [takeEvent]
        split <;> exact .stays rfl
  | discovered answer =>
    rw [next, discovered]
    split
    case h_2 => exact .stays rfl
    case h_1 =>
      cases answer with
      | ok target => exact .stays (phase_continueCycle s _ _)
      | error cause => exact .stays rfl
  | fetched answer =>
    rw [next, fetched]
    split
    case h_2 => exact .stays rfl
    case h_1 => exact .stays (phase_continueCycle _ _ _)
  | conclude => exact conclude_advance s

/-! ### Any number of steps -/

/-- Steps that neither start nor stop lead from one state to the other. -/
def MovesOn (s s' : Scheduler) : Prop := ∃ steps, (∀ step ∈ steps, step.isInner = true) ∧ s' = s.run steps

namespace MovesOn

theorem refl (s : Scheduler) : s.MovesOn s := ⟨[], by simp, rfl⟩

theorem next (s : Scheduler) (step : SchedulerStep) (h : step.isInner = true) : s.MovesOn (s.next step) :=
  ⟨[step], by simpa using h, rfl⟩

theorem trans (h : s.MovesOn s') (h' : s'.MovesOn s'') : s.MovesOn s'' := by
  obtain ⟨steps, hinner, rfl⟩ := h
  obtain ⟨steps', hinner', rfl⟩ := h'
  refine ⟨steps ++ steps', ?_, (run_append s steps steps').symm⟩
  simp only [List.mem_append]
  rintro step (hstep | hstep)
  · exact hinner step hstep
  · exact hinner' step hstep

/-- **They neither start nor stop.** -/
theorem advance (h : s.MovesOn s') : s.phase.Advance s'.phase := by
  obtain ⟨steps, hinner, rfl⟩ := h
  induction steps generalizing s with
  | nil => exact .stays rfl
  | cons step rest ih =>
    rw [List.forall_mem_cons] at hinner
    exact (s.next_advance hinner.1).trans (ih hinner.2)

end MovesOn

end Scheduler

end LogTagger
