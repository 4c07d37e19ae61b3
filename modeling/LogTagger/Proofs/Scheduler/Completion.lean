import LogTagger.Proofs.Scheduler.Rehearsal

/-!
# The start comes to its end

In a rehearsal every answer arrives after some time. So the first cycle of a scheduler comes to its end,
and with it the start (`complete_of_discovering`): with the endpoints it is known how many documents are
missing (`Starting`), and each answer makes one fewer.
-/

namespace LogTagger

namespace Scheduler

variable {s : Scheduler}

/-- A start whose cycle still waits for some documents; without any it has come to its end. -/
inductive Starting : Nat → Scheduler → Prop
  /-- It has come to its end. -/
  | rested {s : Scheduler} (phase : s.phase = .ready) (activity : s.activity = .waiting) : Starting 0 s
  /-- It waits for the first of the documents. -/
  | fetching {s : Scheduler} {n : Nat} {trigger : SyncTrigger} {r : Reconciliation} (phase : s.phase = .starting)
      (activity : s.activity = .fetching trigger r) (missing : r.missing.length = n + 1) : Starting (n + 1) s

/-- The cycle that has come to its outcome tells it, and with that the start has come to its end. -/
theorem starting_of_concluding (h : s.phase = .starting) {trigger : SyncTrigger}
    {outcome : Except SourceError ReconcileStats} (hactivity : s.activity = .concluding trigger outcome) :
    Starting 0 s.conclude := by
  obtain ⟨hwaits, -, -, -, hphase⟩ := s.endCycle_leaves trigger outcome
  rw [conclude_of_concluding hactivity]
  exact .rested (by rw [hphase, if_pos h]) hwaits

theorem starting_continueCycle (h : s.phase = .starting) (trigger : SyncTrigger) (r : Reconciliation) :
    Starting r.missing.length (s.continueCycle trigger r).conclude := by
  rw [continueCycle]
  split
  case h_1 hmissing =>
    rw [hmissing]
    exact starting_of_concluding h rfl
  case h_2 id url rest hmissing =>
    rw [hmissing, List.length_cons]
    exact .fetching h rfl (by rw [hmissing, List.length_cons])

theorem Starting.missingCount {n : Nat} (h : Starting n s) : s.missingCount = n := by
  cases h with
  | rested phase activity => simp only [Scheduler.missingCount, activity]
  | fetching phase activity missing => simp only [Scheduler.missingCount, activity, missing]

theorem Starting.pass {n : Nat} (h : Starting n s) (time : Nat) : Starting n (s.pass time) := by
  cases h with
  | rested phase activity => exact .rested phase activity
  | fetching phase activity missing => exact .fetching phase activity missing

/-- Each document that arrives, or fails, makes one fewer. -/
theorem Starting.fetched {n : Nat} (h : Starting (n + 1) s) (answer : Except FetchError Json) :
    Starting n (s.fetched answer).conclude := by
  cases h with
  | @fetching _ _ trigger r phase activity missing =>
    have hone : (r.record answer).missing.length = n := by
      cases hmissing : r.missing with
      | nil => rw [hmissing] at missing; cases missing
      | cons e rest =>
        rw [hmissing] at missing
        cases answer <;> simpa [Reconciliation.record, hmissing] using missing
    rw [Scheduler.fetched, activity, ← hone]
    exact starting_continueCycle (s := { s with metrics := s.metrics.countFetch answer }) phase trigger _

theorem starting_discovered (h : s.phase = .starting) {trigger : SyncTrigger}
    (hactivity : s.activity = .discovering trigger) (answer : Except SourceError EndpointSet) :
    ∃ n, Starting n (s.discovered answer).conclude := by
  rw [discovered, hactivity]
  cases answer with
  | ok target => exact ⟨_, starting_continueCycle h trigger _⟩
  | error cause => exact ⟨0, starting_of_concluding h rfl⟩

end Scheduler

namespace Rehearsal

open Scheduler (Starting)

/-- An answer that is waited for arrives after its time. -/
theorem receive_launch {α : Type} (r : Rehearsal) (answer : Delayed α) (flight : α → Flight) :
    (r.launch answer flight).jump.receive.flight = none ∧ ∃ time,
      (r.launch answer flight).jump.receive.scheduler = deliver (r.scheduler.pass time) (flight answer.value) := by
  by_cases hdelay : answer.delay = 0
  · simp only [launch, hdelay, if_true, jump, receive]
    exact ⟨trivial, 0, rfl⟩
  · simp only [launch, hdelay, if_false, jump, receive, Nat.le_max_right, if_true]
    exact ⟨trivial, _, rfl⟩

/-- The answer to a request for a document. -/
theorem exchange_of_fetching {r : Rehearsal} {n : Nat} (hflight : r.flight = none) (h : Starting (n + 1) r.scheduler) :
    r.ask.jump.receive.flight = none ∧ Starting n r.ask.jump.receive.scheduler := by
  obtain ⟨answer, hask⟩ : ∃ answer, r.ask = r.launch answer .document := by
    cases h with
    | @fetching _ _ trigger rec phase activity missing =>
      cases hmissing : rec.missing with
      | nil => rw [hmissing] at missing; cases missing
      | cons e rest =>
        refine ⟨r.document e.2, ?_⟩
        simp only [ask, hflight, activity, hmissing]
  obtain ⟨hflight', time, hscheduler⟩ := r.receive_launch answer .document
  rw [hask]
  refine ⟨hflight', ?_⟩
  rw [hscheduler]
  exact (h.pass time).fetched answer.value

theorem exchangeInTime_of_starting {r : Rehearsal} {n : Nat} (hflight : r.flight = none) (h : Starting n r.scheduler) :
    (r.exchangeInTime n).flight = none ∧ Starting 0 (r.exchangeInTime n).scheduler := by
  induction n generalizing r with
  | zero => exact ⟨hflight, h⟩
  | succ n ih =>
    obtain ⟨hflight', hnext⟩ := exchange_of_fetching hflight h
    exact ih hflight' hnext

/-- **The start comes to its end**, whatever the collaborators answer and however long they take. -/
theorem complete_of_discovering (r : Rehearsal) (hflight : r.flight = none) (hphase : r.scheduler.phase = .starting)
    {trigger : SyncTrigger} (hactivity : r.scheduler.activity = .discovering trigger) :
    r.complete.flight = none ∧ r.complete.scheduler.phase = .ready := by
  have hask : r.ask = r.launch r.discovery .discovery := by simp only [ask, hflight, hactivity]
  obtain ⟨hflight', time, hscheduler⟩ := r.receive_launch r.discovery .discovery
  rw [← hask] at hflight' hscheduler
  obtain ⟨n, hstarting⟩ := Scheduler.starting_discovered (s := r.scheduler.pass time) hphase hactivity r.discovery.value
  have hstarting : Starting n (r.exchangeInTime 1).scheduler := by
    rw [exchangeInTime, exchangeInTime, hscheduler]
    exact hstarting
  rw [complete]
  simp only [hstarting.missingCount]
  obtain ⟨hlast, hover⟩ := exchangeInTime_of_starting (r := r.exchangeInTime 1) hflight' hstarting
  refine ⟨hlast, ?_⟩
  cases hover with
  | rested phase activity => exact phase

end Rehearsal

end LogTagger
