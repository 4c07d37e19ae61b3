import LogTagger.Proofs.Scheduler.Lifecycle
import LogTagger.Proofs.Scheduler.Within
import LogTagger.Scheduler.Rehearsal

/-!
# Rehearsals are runs

Whatever a rehearsal does, its scheduler goes through steps: collaborators and the clock decide only
which (`reaches_act`). So what holds in every state of every run holds after every rehearsal, and in
particular the order of a scheduler's life (`rehearse_orderly`).
-/

namespace LogTagger

/-! ### Runs that follow each other -/

/-- Some steps lead from one state to the other. -/
def Scheduler.Reaches (s s' : Scheduler) : Prop := ∃ steps, s' = s.run steps

namespace Scheduler.Reaches

variable {s s' s'' : Scheduler}

theorem refl (s : Scheduler) : s.Reaches s := ⟨[], rfl⟩

theorem next (s : Scheduler) (step : SchedulerStep) : s.Reaches (s.next step) := ⟨[step], rfl⟩

theorem trans (h : s.Reaches s') (h' : s'.Reaches s'') : s.Reaches s'' := by
  obtain ⟨steps, rfl⟩ := h
  obtain ⟨steps', rfl⟩ := h'
  exact ⟨steps ++ steps', (run_append s steps steps').symm⟩

theorem of_movesOn (h : s.MovesOn s') : s.Reaches s' := by
  obtain ⟨steps, -, heq⟩ := h
  exact ⟨steps, heq⟩

theorem orderly (h : s.Reaches s') (horderly : s.Orderly) : s'.Orderly := by
  obtain ⟨steps, rfl⟩ := h
  exact horderly.run steps

end Scheduler.Reaches

namespace Rehearsal

open Scheduler (MovesOn Reaches)

/-! ### Exchanging answers -/

/-- Asking is no step: what is asked for is settled outside. -/
theorem scheduler_ask (r : Rehearsal) : r.ask.scheduler = r.scheduler := by
  rw [ask]
  split
  · rfl
  · split <;> rfl
  · rfl

theorem movesOn_deliver (s : Scheduler) (flight : Flight) : s.MovesOn (deliver s flight) := by
  cases flight with
  | discovery answer => exact (MovesOn.next s (.discovered answer) rfl).trans (.next _ .conclude rfl)
  | document answer => exact (MovesOn.next s (.fetched answer) rfl).trans (.next _ .conclude rfl)

theorem movesOn_receive (r : Rehearsal) : r.scheduler.MovesOn r.receive.scheduler := by
  rw [receive]
  split
  · exact movesOn_deliver _ _
  · split
    · exact movesOn_deliver _ _
    · exact .refl _
  · exact .refl _

theorem movesOn_jump (r : Rehearsal) : r.scheduler.MovesOn r.jump.scheduler := by
  rw [jump]
  split
  · exact .next _ (.pass _) rfl
  · exact .refl _

theorem movesOn_exchange (n : Nat) (r : Rehearsal) : r.scheduler.MovesOn (r.exchange n).scheduler := by
  induction n generalizing r with
  | zero => exact .refl _
  | succ n ih =>
    have hask := movesOn_receive r.ask
    rw [scheduler_ask] at hask
    exact hask.trans (ih _)

theorem movesOn_exchangeInTime (n : Nat) (r : Rehearsal) : r.scheduler.MovesOn (r.exchangeInTime n).scheduler := by
  induction n generalizing r with
  | zero => exact .refl _
  | succ n ih =>
    have hjump := movesOn_jump r.ask
    rw [scheduler_ask] at hjump
    exact (hjump.trans (movesOn_receive _)).trans (ih _)

theorem movesOn_proceed (r : Rehearsal) : r.scheduler.MovesOn r.proceed.scheduler :=
  (movesOn_exchange 1 r).trans (movesOn_exchange _ _)

theorem movesOn_complete (r : Rehearsal) : r.scheduler.MovesOn r.complete.scheduler :=
  (movesOn_exchangeInTime 1 r).trans (movesOn_exchangeInTime _ _)

/-! ### Settling and the clock -/

theorem movesOn_wake {s s' : Scheduler} (h : s.wake = some s') : s.MovesOn s' := by
  have hnext : s.next .wake = s' := by rw [Scheduler.next, h, Option.getD_some]
  rw [← hnext]
  exact .next s .wake rfl

theorem movesOn_rouse (n : Nat) (r : Rehearsal) : r.scheduler.MovesOn (rouse n r).scheduler := by
  induction n generalizing r with
  | zero => exact movesOn_proceed r
  | succ n ih =>
    rw [rouse]
    cases h : r.proceed.scheduler.wake with
    | none => exact movesOn_proceed r
    | some s =>
      exact ((movesOn_proceed r).trans (movesOn_wake h)).trans (ih { r.proceed with scheduler := s })

theorem movesOn_listen (s : Scheduler) : s.MovesOn s.listen := by
  cases h : s.wake with
  | none =>
    have hnext : s.next .wake = s.listen := by rw [Scheduler.next, h, Option.getD_none]
    rw [← hnext]
    exact .next s .wake rfl
  | some s' =>
    have hsame : s.listen = s := by simp [Scheduler.listen, h]
    rw [hsame]
    exact .refl s

theorem movesOn_settle (r : Rehearsal) : r.scheduler.MovesOn r.settle.scheduler :=
  ((MovesOn.next _ .beginLoop rfl).trans (movesOn_rouse _ _)).trans (movesOn_listen _)

theorem movesOn_look (r : Rehearsal) : r.scheduler.MovesOn r.look.scheduler := .next _ .tick rfl

theorem movesOn_advance (r : Rehearsal) (time : Nat) : r.scheduler.MovesOn (r.advance time).scheduler := by
  have hpass : r.scheduler.MovesOn (r.scheduler.pass time) := .next _ (.pass time) rfl
  exact ((hpass.trans (movesOn_settle _)).trans (movesOn_look _)).trans (movesOn_settle _)

theorem movesOn_waitUntil (fuel target : Nat) (r : Rehearsal) :
    r.scheduler.MovesOn (waitUntil fuel target r).scheduler := by
  induction fuel generalizing r with
  | zero => exact .refl _
  | succ fuel ih =>
    rw [waitUntil]
    split
    · split
      · exact (movesOn_advance r _).trans (ih _)
      · exact movesOn_advance r _
    · exact movesOn_advance r _

/-! ### Whole rehearsals -/

theorem movesOn_change (r : Rehearsal) (change : Change) : r.scheduler.MovesOn (r.change change).scheduler := by
  cases change with
  | discovery answer => exact .refl _
  | document url answer => exact .refl _
  | event item => exact .next _ (.offer item) rfl
  | endEvents => exact .next _ .endEvents rfl

theorem movesOn_request (n : Nat) (r : Rehearsal) : r.scheduler.MovesOn (request n r).scheduler := by
  induction n generalizing r with
  | zero => exact .refl _
  | succ n ih =>
    have hrequest : r.scheduler.MovesOn r.scheduler.request := .next _ .request rfl
    exact hrequest.trans (ih _)

/-- What one does in a rehearsal. -/
inductive Act where
  /-- Starts the scheduler. -/
  | start
  /-- Stops the scheduler. -/
  | stop
  /-- Lets it do all that takes no time. -/
  | settle
  /-- Lets the clock jump. -/
  | advance (time : Nat)
  /-- Lets time pass. -/
  | wait (time : Nat)
  /-- Requests so many synchronisations. -/
  | request (n : Nat)
  /-- Makes a change in what surrounds the scheduler. -/
  | change (change : Change)

/-- The rehearsal after an act. A call that is rejected leaves it as it was. -/
def act (r : Rehearsal) : Act → Rehearsal
  | .start => r.start.toOption.getD r
  | .stop => r.stop.toOption.getD r
  | .settle => r.settle
  | .advance time => r.advance time
  | .wait time => r.wait time
  | .request n => request n r
  | .change change => r.change change

theorem reaches_start (r : Rehearsal) : r.scheduler.Reaches (r.act .start).scheduler := by
  rw [act, start]
  cases h : r.scheduler.start with
  | error e => exact .refl _
  | ok s =>
    have hnext := Reaches.next r.scheduler .start
    rw [Scheduler.next_start_of_ok h] at hnext
    exact hnext.trans (.of_movesOn (movesOn_complete { r with scheduler := s }))

theorem reaches_stop (r : Rehearsal) : r.scheduler.Reaches (r.act .stop).scheduler := by
  rw [act, stop]
  cases h : r.scheduler.stop with
  | error e => exact .refl _
  | ok s =>
    have hnext := Reaches.next r.scheduler .stop
    rw [Scheduler.next_stop_of_ok h] at hnext
    exact hnext

theorem reaches_act (r : Rehearsal) (a : Act) : r.scheduler.Reaches (r.act a).scheduler := by
  cases a with
  | start => exact reaches_start r
  | stop => exact reaches_stop r
  | settle => exact .of_movesOn (movesOn_settle r)
  | advance time => exact .of_movesOn (movesOn_advance r time)
  | wait time => exact .of_movesOn (movesOn_waitUntil _ _ r)
  | request n => exact .of_movesOn (movesOn_request n r)
  | change change => exact .of_movesOn (movesOn_change r change)

/-- **Every rehearsal keeps the order of its scheduler's life**, whatever the collaborators answer and
however long they take. -/
theorem rehearse_orderly (acts : List Act) {r : Rehearsal} (h : r.scheduler.Orderly) :
    (acts.foldl act r).scheduler.Orderly := by
  induction acts generalizing r with
  | nil => exact h
  | cons a rest ih => exact ih ((reaches_act r a).orderly h)

end Rehearsal

end LogTagger
