import LogTagger.Proofs.Scheduler.Lifecycle
import Mathlib.Data.List.Induction

/-!
# Requests of a cycle

No request is lost: until a cycle has begun after it, something is left to take up, and a loop for
which nothing is left to take up is one that has begun a cycle since. Nor do requests multiply: each
cycle that a request begins takes one of them up, and a request that comes to one that is kept adds
nothing.

Requests that come before the loop takes one up do not all count as one, though. The first that finds
the loop waiting wakes it, and the next one is kept beside it. `Doubled` says when this happens, and
**`requests_honoured`** that it happens in no other way: between two points at which the loop takes up
a request, the requests that come give one cycle, and one more exactly if they are doubled.

`next_requestMove` says all that a step can do to the requests and to the cycles that have begun.
-/

namespace LogTagger

/-- Whether a step is a request. -/
def SchedulerStep.isRequest : SchedulerStep → Bool
  | .request => true
  | _ => false

/-! ### Pending requests -/

namespace PendingRequests

variable {p q : PendingRequests}

theorem take?_eq_none_iff : p.take? = none ↔ p.woken = false ∧ p.kept = false := by
  cases hw : p.woken <;> cases hk : p.kept <;> simp [take?, hw, hk]

theorem count_eq_zero_iff : p.count = 0 ↔ p.woken = false ∧ p.kept = false := by
  cases hw : p.woken <;> cases hk : p.kept <;> simp [count, hw, hk]

/-- One request fewer is left when one is taken up. -/
theorem count_of_take? (h : p.take? = some q) : p.count = q.count + 1 := by
  cases hw : p.woken <;> cases hk : p.kept <;> simp [take?, hw, hk] at h <;> subst h <;> simp [count, hw, hk]

theorem count_postpone_le (p : PendingRequests) : p.postpone.count ≤ p.count := by
  cases hw : p.woken <;> cases hk : p.kept <;> simp [postpone, count, hw, hk]

/-- To postpone requests is not to lose them. -/
theorem count_postpone_pos (h : 0 < p.count) : 0 < p.postpone.count := by
  cases hw : p.woken <;> cases hk : p.kept <;> simp [postpone, count, hw, hk] at h ⊢

theorem count_add_le (p : PendingRequests) : p.add.count ≤ p.count + 1 := by
  cases ha : p.awaited <;> cases hw : p.woken <;> cases hk : p.kept <;> simp [add, count, ha, hw, hk]

/-- After a request the loop waits no longer. -/
theorem awaited_add (p : PendingRequests) : p.add.awaited = false := by
  cases ha : p.awaited <;> simp [add, ha]

theorem awaited_of_take? (h : p.take? = some q) : q.awaited = p.awaited := by
  cases hw : p.woken <;> cases hk : p.kept <;> simp [take?, hw, hk] at h <;> subst h <;> rfl

/-- What is left when a request is taken up has not woken the loop, and is left only if one had. -/
theorem of_take? (h : p.take? = some q) : q.woken = false ∧ (q.kept = true ↔ p.woken = true ∧ p.kept = true) := by
  cases hw : p.woken <;> cases hk : p.kept <;> simp [take?, hw, hk] at h <;> subst h <;> simp

theorem count_add_pos (p : PendingRequests) : 0 < p.add.count := by
  cases ha : p.awaited <;> cases hw : p.woken <;> cases hk : p.kept <;> simp [add, count, ha, hw, hk]

end PendingRequests

namespace Scheduler

variable {s s' : Scheduler} {step : SchedulerStep}

/-! ### Cycles that have begun -/

/-- The triggers of the cycles that have begun, in order. -/
def triggers (s : Scheduler) : List SyncTrigger :=
  s.journal.filterMap (fun e => match e with
    | .discovery trigger _ => some trigger
    | _ => none)

/-- The number of cycles that a request has begun. -/
def manualCount (s : Scheduler) : Nat := s.triggers.count .manual

theorem triggers_of_journal (later : List JournalEntry) (h : s'.journal = s.journal ++ later) :
    s'.triggers = s.triggers ++ later.filterMap (fun e => match e with
      | .discovery trigger _ => some trigger
      | _ => none) := by
  rw [triggers, h, List.filterMap_append, triggers]

theorem length_triggers (s : Scheduler) : s.triggers.length = s.discoveryCount := by
  rw [triggers, discoveryCount]
  induction s.journal with
  | nil => rfl
  | cons e rest ih => cases e <;> simp [ih]

/-! ### What a step can do -/

/-- All that a step can do to the requests and to the cycles that have begun. -/
inductive RequestMove (s s' : Scheduler) : SchedulerStep → Prop
  /-- It concerns neither. -/
  | rests (step : SchedulerStep) (other : step.isRequest = false) (requests : s'.requests = s.requests)
      (triggers : s'.triggers = s.triggers) : RequestMove s s' step
  /-- It adds a request. -/
  | adds (requests : s'.requests = s.requests.add) (triggers : s'.triggers = s.triggers) : RequestMove s s' .request
  /-- The loop waits for a request. -/
  | awaits (phase : s'.phase = .running) (empty : s.requests.take? = none)
      (requests : s'.requests = { s.requests with awaited := true }) (triggers : s'.triggers = s.triggers) :
      RequestMove s s' .wake
  /-- The loop takes up a request. -/
  | takes (tick : s.tickDue = false) (taken : s.requests.take? = some s'.requests) (phase : s'.phase = .running)
      (activity : s'.activity = .discovering .manual) (tick' : s'.tickDue = false)
      (triggers : s'.triggers = s.triggers ++ [.manual]) : RequestMove s s' .wake
  /-- The loop takes up the timer. -/
  | ticks (requests : s'.requests = s.requests.postpone) (triggers : s'.triggers = s.triggers ++ [.interval]) :
      RequestMove s s' .wake
  /-- The loop takes up an item of the stream of container events, as there is no request. -/
  | passes (empty : s.requests.take? = none) (requests : s'.requests = s.requests.postpone)
      (triggers : s'.triggers = s.triggers ∨ s'.triggers = s.triggers ++ [.event]) : RequestMove s s' .wake
  /-- The first cycle begins. -/
  | starts (phase : s.phase = .idle) (requests : s'.requests = s.requests)
      (triggers : s'.triggers = s.triggers ++ [.startup]) : RequestMove s s' .start

/-- To begin a cycle adds its trigger. -/
theorem triggers_beginCycle (s : Scheduler) (trigger : SyncTrigger) :
    (s.beginCycle trigger).triggers = s.triggers ++ [trigger] :=
  triggers_of_journal [.discovery trigger s.now] rfl

theorem triggers_endCycle (s : Scheduler) (trigger : SyncTrigger) (outcome : Except SourceError ReconcileStats) :
    (s.endCycle trigger outcome).triggers = s.triggers := by
  rw [triggers_of_journal (s := s) [.finished trigger outcome]]
  · simp
  · rw [endCycle]
    split <;> rfl

theorem triggers_conclude (s : Scheduler) : s.conclude.triggers = s.triggers := by
  rcases s.conclude_cases with ⟨trigger, outcome, -, hends⟩ | ⟨-, hsame⟩
  · rw [hends, triggers_endCycle]
  · rw [hsame]

theorem triggers_continueCycle (s : Scheduler) (trigger : SyncTrigger) (r : Reconciliation) :
    (s.continueCycle trigger r).triggers = s.triggers := by
  rw [continueCycle]
  split
  case h_1 => rfl
  case h_2 id url rest hmissing =>
    rw [triggers_of_journal (s := s) [.fetch id url] rfl]
    simp

theorem wake_requestMove (s : Scheduler) : RequestMove s (s.next .wake) .wake := by
  cases h : s.wake with
  | none =>
    rw [next, h, Option.getD_none, listen]
    split
    case isFalse => exact .rests _ rfl rfl rfl
    case isTrue hlistens =>
      rw [Bool.and_eq_true] at hlistens
      refine .awaits (isListening_iff.mp hlistens.1).1 ?_ rfl rfl
      -- A request that is left would have been taken up.
      rw [wake, hlistens.1] at h
      cases htake : s.requests.take? with
      | none => rfl
      | some requests =>
        rw [htake] at h
        simp only [Bool.not_true, Bool.false_eq_true, if_false] at h
        split at h <;> cases h
  | some s' =>
    rw [next, h, Option.getD_some]
    obtain ⟨hphase, -, ⟨-, rfl⟩ | ⟨htick, requests, htake, rfl⟩ | ⟨-, htake, item, rest, -, rfl⟩⟩ := wake_cases h
    · exact .ticks rfl (triggers_beginCycle _ _)
    · exact .takes htick htake hphase rfl htick (triggers_beginCycle _ _)
    · rw [takeEvent]
      split
      · exact .passes htake rfl (.inr (triggers_beginCycle _ _))
      · exact .passes htake rfl (.inl rfl)

/-- **All that a step can do to the requests and to the cycles that have begun.** -/
theorem next_requestMove (s : Scheduler) (step : SchedulerStep) : RequestMove s (s.next step) step := by
  cases step with
  | start =>
    cases h : s.start with
    | error e =>
      rw [next_start_of_error h]
      exact .rests _ rfl rfl rfl
    | ok s' =>
      obtain ⟨hidle, rfl⟩ := start_eq_ok_iff.mp h
      rw [next_start_of_ok h]
      exact .starts hidle rfl (triggers_beginCycle _ _)
  | stop =>
    cases h : s.stop with
    | error e =>
      rw [next_stop_of_error h]
      exact .rests _ rfl rfl rfl
    | ok s' =>
      obtain ⟨-, rfl⟩ := stop_eq_ok_iff.mp h
      rw [next_stop_of_ok h]
      exact .rests _ rfl s.conclude_sameLoop.requests s.triggers_conclude
  | request => exact .adds rfl rfl
  | look => exact .rests _ rfl rfl rfl
  | pass time => exact .rests _ rfl rfl rfl
  | tick =>
    rw [next, fireTimer]
    split <;> exact .rests _ rfl rfl rfl
  | offer item =>
    rw [next, offer]
    split <;> exact .rests _ rfl rfl rfl
  | endEvents => exact .rests _ rfl rfl rfl
  | beginLoop =>
    rw [next, beginLoop]
    split
    · split <;> exact .rests _ rfl rfl rfl
    · exact .rests _ rfl rfl rfl
  | wake => exact wake_requestMove s
  | discovered answer =>
    rw [next, discovered]
    split
    case h_2 => exact .rests _ rfl rfl rfl
    case h_1 trigger hactivity =>
      cases answer with
      | ok target => exact .rests _ rfl (continueCycle_sameLoop s _ trigger _).requests (triggers_continueCycle _ _ _)
      | error cause => exact .rests _ rfl rfl rfl
  | fetched answer =>
    rw [next, fetched]
    split
    case h_2 => exact .rests _ rfl rfl rfl
    case h_1 trigger r hactivity =>
      exact .rests _ rfl (continueCycle_sameLoop s _ trigger _).requests (triggers_continueCycle _ _ _)
  | conclude => exact .rests _ rfl s.conclude_sameLoop.requests s.triggers_conclude

/-! ### No request is lost -/

namespace RequestMove

theorem discoveryCount_le (h : RequestMove s s' step) : s.discoveryCount ≤ s'.discoveryCount := by
  rw [← length_triggers, ← length_triggers]
  cases h with
  | passes empty requests triggers => rcases triggers with triggers | triggers <;> simp [triggers]
  | _ => simp [*]

/-- As long as no cycle begins something is left to take up. -/
theorem pending (h : RequestMove s s' step) (hpending : 0 < s.requests.count) :
    0 < s'.requests.count ∨ s.discoveryCount < s'.discoveryCount := by
  rw [← length_triggers, ← length_triggers]
  cases h with
  | rests step other requests triggers => exact .inl (by rwa [requests])
  | adds requests triggers => exact .inl (by rw [requests]; exact s.requests.count_add_pos)
  | awaits phase empty requests triggers => exact .inl (by rwa [requests])
  | takes tick taken phase activity tick' triggers => exact .inr (by simp [triggers])
  | ticks requests triggers => exact .inr (by simp [triggers])
  | passes empty requests triggers => exact .inl (by rw [requests]; exact PendingRequests.count_postpone_pos hpending)
  | starts phase requests triggers => exact .inl (by rwa [requests])

/-- Only a request adds to the cycles that requests have begun and can still begin. -/
theorem manualCount_add_count_le (h : RequestMove s s' step) :
    s'.manualCount + s'.requests.count ≤ s.manualCount + s.requests.count + [step].countP (·.isRequest) := by
  rw [manualCount, manualCount]
  cases h with
  | rests step other requests triggers => simp [requests, triggers]
  | adds requests triggers =>
    have hadd := s.requests.count_add_le
    rw [requests, triggers]
    simp only [SchedulerStep.isRequest, List.countP_singleton, if_true]
    omega
  | awaits phase empty requests triggers => simp [requests, triggers, PendingRequests.count]
  | takes tick taken phase activity tick' triggers =>
    have htake := PendingRequests.count_of_take? taken
    rw [triggers, List.count_append, List.count_singleton_self]
    omega
  | ticks requests triggers =>
    have hpostpone := s.requests.count_postpone_le
    rw [requests, triggers, List.count_append, List.count_singleton]
    exact Nat.le_trans (Nat.add_le_add_left hpostpone _) (Nat.le_add_right _ _)
  | passes empty requests triggers =>
    have hpostpone := s.requests.count_postpone_le
    rcases triggers with triggers | triggers
    · rw [requests, triggers]
      omega
    · rw [requests, triggers, List.count_append]
      simp
      omega
  | starts phase requests triggers => simp [requests, triggers]

end RequestMove

theorem run_discoveryCount_le (s : Scheduler) (steps : List SchedulerStep) :
    s.discoveryCount ≤ (s.run steps).discoveryCount :=
  run_induction (P := fun s' => s.discoveryCount ≤ s'.discoveryCount)
    (fun s' step h => Nat.le_trans h (next_requestMove s' step).discoveryCount_le) (Nat.le_refl _) steps

theorem run_pending (h : 0 < s.requests.count) (steps : List SchedulerStep) :
    0 < (s.run steps).requests.count ∨ s.discoveryCount < (s.run steps).discoveryCount := by
  induction steps generalizing s with
  | nil => exact .inl h
  | cons step rest ih =>
    have hmove := next_requestMove s step
    rcases hmove.pending h with hpending | hbegun
    · exact (ih hpending).imp id (Nat.lt_of_le_of_lt hmove.discoveryCount_le)
    · exact .inr (Nat.lt_of_lt_of_le hbegun (run_discoveryCount_le _ rest))

theorem run_manualCount_add_count_le (s : Scheduler) (steps : List SchedulerStep) :
    (s.run steps).manualCount + (s.run steps).requests.count ≤
      s.manualCount + s.requests.count + steps.countP (·.isRequest) := by
  induction steps generalizing s with
  | nil => exact Nat.le_refl _
  | cons step rest ih =>
    have hstep := (next_requestMove s step).manualCount_add_count_le
    have hrest := ih (s.next step)
    rw [run_cons, ← List.singleton_append, List.countP_append]
    omega

/-- The loop has no cycle to run and nothing to take up. -/
structure Rests (s : Scheduler) : Prop where
  phase : s.phase = .running
  activity : s.activity = .waiting
  tick : s.tickDue = false
  requests : s.requests.count = 0
  events : s.events.items = []

/-! ### Requests that count as one -/

/-- The loop takes up a request if it wakes. -/
def TakesRequest (s : Scheduler) : Prop := (s.next .wake).triggers = s.triggers ++ [.manual]

/-- Among some steps a request finds the loop waiting, and another one comes before the loop has taken
anything up. -/
def Doubled (s : Scheduler) (steps : List SchedulerStep) : Prop :=
  ∃ before between after, steps = before ++ .request :: between ++ .request :: after ∧
    (s.run before).requests.awaited = true ∧ (s.run steps).discoveryCount = (s.run before).discoveryCount

/-- The loop waits for a request only while none is left, and not before the start. -/
structure Attentive (s : Scheduler) : Prop where
  empty : s.requests.awaited = true → s.requests.woken = false ∧ s.requests.kept = false
  idle : s.phase = .idle → s.requests.awaited = false ∧ s.requests.woken = false

theorem attentive_fresh (interval now : Nat) (cache : DocumentCache) (events : EventQueue) (metrics : Metrics) :
    Attentive (fresh interval now cache events metrics) where
  empty h := by cases h
  idle _ := ⟨rfl, rfl⟩

theorem Attentive.next (h : Attentive s) (step : SchedulerStep) : Attentive (s.next step) := by
  have hidle : (s.next step).phase = .idle → s.requests.awaited = false ∧ s.requests.woken = false := by
    intro hphase
    refine h.idle (Classical.byContradiction fun hne => ?_)
    exact (next_move s step).phase_ne_idle hne hphase
  cases next_requestMove s step with
  | rests step other requests triggers =>
    rw [← requests] at hidle
    exact ⟨by rw [requests]; exact h.empty, hidle⟩
  | adds requests triggers =>
    refine ⟨fun ha => ?_, fun hphase => ?_⟩
    · rw [requests, PendingRequests.awaited_add] at ha
      cases ha
    · obtain ⟨ha, hw⟩ := hidle hphase
      simp [requests, PendingRequests.add, ha, hw]
  | awaits phase empty requests triggers =>
    refine ⟨fun _ => ?_, fun hphase => absurd (phase.symm.trans hphase) (by simp)⟩
    obtain ⟨hw, hk⟩ := PendingRequests.take?_eq_none_iff.mp empty
    exact ⟨by rw [requests, hw], by rw [requests, hk]⟩
  | takes tick taken phase activity tick' triggers =>
    refine ⟨fun ha => ?_, fun hphase => absurd (phase.symm.trans hphase) (by simp)⟩
    rw [PendingRequests.awaited_of_take? taken] at ha
    rw [PendingRequests.take?_eq_none_iff.mpr (h.empty ha)] at taken
    cases taken
  | ticks requests triggers =>
    exact ⟨by simp [requests, PendingRequests.postpone], by simp [requests, PendingRequests.postpone]⟩
  | passes empty requests triggers =>
    exact ⟨by simp [requests, PendingRequests.postpone], by simp [requests, PendingRequests.postpone]⟩
  | starts phase requests triggers =>
    rw [← requests] at hidle
    exact ⟨by rw [requests]; exact h.empty, hidle⟩

theorem Attentive.run (h : Attentive s) (steps : List SchedulerStep) : Attentive (s.run steps) :=
  run_induction (fun _ step h => h.next step) h steps

/-- A request that has woken the loop, and with it one that is kept, is left as long as no cycle begins. -/
theorem run_woken (hwoken : s.requests.woken = true) (hawaited : s.requests.awaited = false)
    (steps : List SchedulerStep) (hcount : (s.run steps).discoveryCount = s.discoveryCount) :
    (s.run steps).requests.woken = true ∧ (s.run steps).requests.awaited = false ∧
      (s.requests.kept = true → (s.run steps).requests.kept = true) := by
  induction steps generalizing s with
  | nil => exact ⟨hwoken, hawaited, id⟩
  | cons step rest ih =>
    have hmove := next_requestMove s step
    have hle := hmove.discoveryCount_le
    have hrest := run_discoveryCount_le (s.next step) rest
    rw [run_cons] at hcount ⊢
    have hsame : (s.next step).discoveryCount = s.discoveryCount := by omega
    have hsomething : s.requests.take? ≠ none := by simp [PendingRequests.take?_eq_none_iff, hwoken]
    have hgo : ∀ kept, (s.next step).requests = { s.requests with kept } → (s.requests.kept = true → kept = true) →
        ((s.next step).run rest).requests.woken = true ∧ ((s.next step).run rest).requests.awaited = false ∧
          (s.requests.kept = true → ((s.next step).run rest).requests.kept = true) := by
      intro kept hrequests hkept
      obtain ⟨hw, ha, hk⟩ := ih (by rw [hrequests, hwoken]) (by rw [hrequests, hawaited]) (by omega)
      exact ⟨hw, ha, fun h => hk (by rw [hrequests, hkept h])⟩
    rw [← length_triggers, ← length_triggers] at hsame
    cases hmove with
    | rests step other requests triggers => exact hgo _ requests id
    | adds requests triggers => exact hgo true (by simp [requests, PendingRequests.add, hawaited]) fun _ => rfl
    | awaits phase empty requests triggers => exact absurd empty hsomething
    | takes tick taken phase activity tick' triggers => simp [triggers] at hsame
    | ticks requests triggers => simp [triggers] at hsame
    | passes empty requests triggers => exact absurd empty hsomething
    | starts phase requests triggers => simp [triggers] at hsame

/-- Doubled requests are both left. -/
theorem Doubled.left {steps : List SchedulerStep} (h : Doubled s steps) :
    (s.run steps).requests.woken = true ∧ (s.run steps).requests.kept = true := by
  obtain ⟨before, between, after, rfl, hawaited, hcount⟩ := h
  have hsplit : s.run (before ++ .request :: between ++ .request :: after) =
      ((((s.run before).next .request).run between).next .request).run after := by
    simp [run_append]
  rw [hsplit] at hcount ⊢
  generalize s.run before = s₁ at hawaited hcount ⊢
  have hadd : (s₁.next .request).requests = { s₁.requests with awaited := false, woken := true } := by
    simp [next, request, PendingRequests.add, hawaited]
  -- The number of cycles is the same at both ends, and so all the way.
  have hle₁ := (next_requestMove s₁ .request).discoveryCount_le
  have hle₂ := run_discoveryCount_le (s₁.next .request) between
  have hle₃ := (next_requestMove ((s₁.next .request).run between) .request).discoveryCount_le
  have hle₄ := run_discoveryCount_le (((s₁.next .request).run between).next .request) after
  obtain ⟨hwoken, hawaited', -⟩ := run_woken (by rw [hadd]) (by rw [hadd]) between (by omega)
  generalize (s₁.next .request).run between = s₂ at hwoken hawaited' hle₂ hle₃ hle₄ hcount ⊢
  have hkept : (s₂.next .request).requests = { s₂.requests with kept := true } := by
    simp [next, request, PendingRequests.add, hawaited']
  obtain ⟨hwoken', -, hkept'⟩ := run_woken (by rw [hkept, hwoken]) (by rw [hkept, hawaited']) after (by omega)
  exact ⟨hwoken', hkept' (by rw [hkept])⟩

theorem Doubled.concat {steps : List SchedulerStep} (h : Doubled s steps)
    (hcount : (s.run (steps ++ [step])).discoveryCount = (s.run steps).discoveryCount) :
    Doubled s (steps ++ [step]) := by
  obtain ⟨before, between, after, rfl, hawaited, hsame⟩ := h
  exact ⟨before, between, after ++ [step], by simp, hawaited, hcount.trans hsame⟩

/-- If a request is left that has woken the loop, it found it waiting and no cycle has begun since; if
one is kept beside it, the two are doubled. -/
theorem Attentive.doubled_of_left (h : Attentive s) (hwoken : s.requests.woken = false)
    (steps : List SchedulerStep) (hleft : (s.run steps).requests.woken = true) :
    (∃ before after, steps = before ++ .request :: after ∧ (s.run before).requests.awaited = true ∧
      (s.run steps).discoveryCount = (s.run before).discoveryCount) ∧
    ((s.run steps).requests.kept = true → Doubled s steps) := by
  induction steps using List.reverseRecOn with
  | nil =>
    rw [run_nil, hwoken] at hleft
    cases hleft
  | append_singleton earlier step ih =>
    have hrun : s.run (earlier ++ [step]) = (s.run earlier).next step := by simp [run_append]
    have hattentive := h.run earlier
    have hconcat : Doubled s earlier → _ → Doubled s (earlier ++ [step]) := Doubled.concat
    rw [hrun] at hleft hconcat ⊢
    generalize hreached : s.run earlier = s₁ at hleft hconcat hattentive ih ⊢
    have hmove := next_requestMove s₁ step
    cases hmove with
    | rests step other requests triggers =>
      have hcount : (s₁.next step).discoveryCount = s₁.discoveryCount := by
        rw [← length_triggers, triggers, length_triggers]
      rw [requests] at hleft ⊢
      obtain ⟨⟨before, after, rfl, hawaited, hsame⟩, hdoubled⟩ := ih hleft
      exact ⟨⟨before, after ++ [step], by simp, hawaited, hcount.trans hsame⟩,
        fun hkept => hconcat (hdoubled hkept) hcount⟩
    | adds requests triggers =>
      have hcount : (s₁.next .request).discoveryCount = s₁.discoveryCount := by
        rw [← length_triggers, triggers, length_triggers]
      rw [requests] at hleft ⊢
      cases hawaited : s₁.requests.awaited with
      | true =>
        -- This request is the one that wakes the loop, and none is kept beside it.
        refine ⟨⟨earlier, [], by simp, by rw [hreached, hawaited], by rw [hreached, hcount]⟩, fun hkept => ?_⟩
        simp [PendingRequests.add, hawaited, (hattentive.empty hawaited).2] at hkept
      | false =>
        simp only [PendingRequests.add, hawaited, Bool.false_eq_true, if_false] at hleft
        obtain ⟨⟨before, after, rfl, hfound, hsame⟩, -⟩ := ih hleft
        refine ⟨⟨before, after ++ [.request], by simp, hfound, hcount.trans hsame⟩, fun _ => ?_⟩
        refine ⟨before, after, [], by simp, hfound, ?_⟩
        rw [run_append, hreached]
        exact hcount.trans hsame
    | awaits phase empty requests triggers =>
      rw [requests, (PendingRequests.take?_eq_none_iff.mp empty).1] at hleft
      cases hleft
    | takes tick taken phase activity tick' triggers =>
      rw [(PendingRequests.of_take? taken).1] at hleft
      cases hleft
    | ticks requests triggers =>
      rw [requests] at hleft
      cases hleft
    | passes empty requests triggers =>
      rw [requests] at hleft
      cases hleft
    | starts phase requests triggers =>
      rw [requests, (hattentive.idle phase).2] at hleft
      cases hleft

/-! ### Between two takings -/

/-- What it means that the loop takes up a request. -/
theorem TakesRequest.requestMove (h : TakesRequest s) :
    s.requests.take? = some (s.next .wake).requests ∧ (s.next .wake).phase = .running ∧
      (s.next .wake).activity = .discovering .manual ∧ (s.next .wake).tickDue = false := by
  rw [TakesRequest] at h
  cases next_requestMove s .wake with
  | rests step other requests triggers => simp [triggers] at h
  | awaits phase empty requests triggers => simp [triggers] at h
  | takes tick taken phase activity tick' triggers => exact ⟨taken, phase, activity, tick'⟩
  | ticks requests triggers => simp [triggers] at h
  | passes empty requests triggers => rcases triggers with triggers | triggers <;> simp [triggers] at h

theorem takesRequest_of_waiting (hphase : s.phase = .running) (hactivity : s.activity = .waiting)
    (htick : s.tickDue = false) (hleft : 0 < s.requests.count) : TakesRequest s := by
  cases htake : s.requests.take? with
  | none =>
    rw [PendingRequests.count_eq_zero_iff.mpr (PendingRequests.take?_eq_none_iff.mp htake)] at hleft
    exact absurd hleft (Nat.lt_irrefl 0)
  | some requests =>
    have hwake : s.wake = some ({ s with requests }.beginCycle .manual) := by
      simp [wake, isListening_iff.mpr ⟨hphase, hactivity⟩, htick, htake]
    rw [TakesRequest, next, hwake, Option.getD_some]
    exact triggers_beginCycle _ _

theorem TakesRequest.manualCount (h : TakesRequest s) : (s.next .wake).manualCount = s.manualCount + 1 := by
  rw [Scheduler.manualCount, h, List.count_append, List.count_singleton_self, Scheduler.manualCount]

/-- The loop takes up no request in the steps between, and takes one up after them; before them it has
just taken one up, unless they are the first. -/
structure Window (first : Scheduler) (before between : List SchedulerStep) : Prop where
  opened : before = [] ∨ ∃ earlier, before = earlier ++ [.wake] ∧ (first.run earlier).TakesRequest
  untaken : (first.run (before ++ between)).manualCount = (first.run before).manualCount
  closed : (first.run (before ++ between)).TakesRequest

/-- The requests of a window give at most so many cycles: there are no more, however the run goes on
without further requests. -/
def GivesAtMost (first : Scheduler) (before between : List SchedulerStep) (n : Nat) : Prop :=
  ∀ later : List SchedulerStep, later.countP (·.isRequest) = 0 →
    (((first.run (before ++ between)).next .wake).run later).manualCount ≤ (first.run before).manualCount + n

theorem run_discovered_error {trigger : SyncTrigger} (h : s.activity = .discovering trigger) (cause : SourceError) :
    s.run [.discovered (.error cause), .conclude] = s.endCycle trigger (.error cause) := by
  rw [run_cons, next, discovered, h]
  rfl

/-- If the loop takes up one of two requests, the other follows as soon as the cycle has ended. -/
theorem TakesRequest.again (h : TakesRequest s) (hleft : 0 < (s.next .wake).requests.count) (cause : SourceError) :
    ((s.next .wake).run ([.discovered (.error cause), .conclude] ++ [.wake])).manualCount = s.manualCount + 2 := by
  obtain ⟨-, hphase, hactivity, htick⟩ := h.requestMove
  have hended := run_discovered_error hactivity cause
  have hsame := triggers_endCycle (s.next .wake) .manual (.error cause)
  have hagain : TakesRequest ((s.next .wake).endCycle .manual (.error cause)) := by
    refine takesRequest_of_waiting ?_ ?_ ?_ ?_
    · simp [endCycle, note, hphase]
    · simp [endCycle, note, hphase]
    · simp [endCycle, note, hphase, htick]
    · rwa [(endCycle_sameLoop _ _ _).requests]
  rw [run_append, hended, run_cons, run_nil, hagain.manualCount, Scheduler.manualCount, hsame, ← Scheduler.manualCount,
    h.manualCount]

namespace Window

variable {first : Scheduler} {before between : List SchedulerStep}

/-- No request that has woken the loop is left where a window opens. -/
theorem woken_opened (h : Window first before between) (hfirst : first.requests.woken = false) :
    (first.run before).requests.woken = false := by
  rcases h.opened with rfl | ⟨earlier, rfl, htakes⟩
  · exact hfirst
  · rw [run_append, run_cons, run_nil]
    exact (PendingRequests.of_take? htakes.requestMove.1).1

/-- A request is left where a window closes exactly if two of its requests are doubled. -/
theorem left_iff (h : Window first before between) (hfirst : Attentive first) (hwoken : first.requests.woken = false) :
    0 < ((first.run (before ++ between)).next .wake).requests.count ↔ Doubled (first.run before) between := by
  obtain ⟨hnone, hkept⟩ := PendingRequests.of_take? h.closed.requestMove.1
  rw [Nat.pos_iff_ne_zero, ne_eq, PendingRequests.count_eq_zero_iff, not_and, Bool.not_eq_false]
  rw [run_append] at hnone hkept ⊢
  constructor
  · intro hleft
    obtain ⟨hw, hk⟩ := hkept.mp (hleft hnone)
    exact ((hfirst.run before).doubled_of_left (h.woken_opened hwoken) between hw).2 hk
  · exact fun hdoubled _ => hkept.mpr hdoubled.left

theorem manualCount_closed (h : Window first before between) :
    ((first.run (before ++ between)).next .wake).manualCount = (first.run before).manualCount + 1 := by
  rw [h.closed.manualCount, h.untaken]

/-- The requests of a window give one cycle, and one more exactly if two of them are doubled. -/
theorem once_iff (h : Window first before between) (hfirst : Attentive first) (hwoken : first.requests.woken = false) :
    GivesAtMost first before between 1 ↔ ¬ Doubled (first.run before) between := by
  rw [← h.left_iff hfirst hwoken]
  constructor
  · intro hgives hleft
    have hagain := h.closed.again hleft (.dockerApi "")
    have honce := hgives ([.discovered (.error (.dockerApi "")), .conclude] ++ [.wake]) rfl
    rw [hagain, h.untaken] at honce
    omega
  · intro hleft later hquiet
    have hrun := run_manualCount_add_count_le ((first.run (before ++ between)).next .wake) later
    rw [h.manualCount_closed, hquiet] at hrun
    omega

/-- The requests of a window never give more than two cycles. -/
theorem twice (h : Window first before between) : GivesAtMost first before between 2 := by
  intro later hquiet
  have hrun := run_manualCount_add_count_le ((first.run (before ++ between)).next .wake) later
  have hnone := (PendingRequests.of_take? h.closed.requestMove.1).1
  have hone : ((first.run (before ++ between)).next .wake).requests.count ≤ 1 := by
    rw [PendingRequests.count, hnone, Bool.toNat_false, Nat.zero_add]
    exact Bool.toNat_le _
  rw [h.manualCount_closed, hquiet] at hrun
  omega

end Window

/-! ### Requests are honoured -/

/-- What becomes of the requests of a run. -/
structure Honoured (first : Scheduler) (steps : List SchedulerStep) : Prop where
  /-- No request is lost: where the loop has nothing to take up, a cycle has begun since. -/
  kept : ∀ before after, steps = before ++ .request :: after → (first.run steps).Rests →
    (first.run before).discoveryCount < (first.run steps).discoveryCount
  /-- Requests do not multiply. -/
  bounded : (first.run steps).manualCount ≤ steps.countP (·.isRequest)
  /-- The requests that come between two takings give one cycle, unless two of them are doubled. -/
  merged : ∀ before between, steps = before ++ between → Window first before between →
    (GivesAtMost first before between 1 ↔ ¬ Doubled (first.run before) between) ∧
      GivesAtMost first before between 2

/-- A request that has been made is taken up, or something is left to take up. -/
theorem discoveryCount_lt_of_rests {before after : List SchedulerStep} (s : Scheduler)
    (hrests : (s.run (before ++ .request :: after)).Rests) :
    (s.run before).discoveryCount < (s.run (before ++ .request :: after)).discoveryCount := by
  have hsplit : s.run (before ++ .request :: after) = ((s.run before).next .request).run after := by
    simp [run_append]
  rw [hsplit] at hrests ⊢
  have hpending : 0 < ((s.run before).next .request).requests.count := (s.run before).requests.count_add_pos
  rcases run_pending hpending after with hleft | hbegun
  · rw [hrests.requests] at hleft
    exact absurd hleft (Nat.lt_irrefl 0)
  · exact hbegun

/-- **Requests are honoured** in every run of a new scheduler. -/
theorem requests_honoured (interval now : Nat) (cache : DocumentCache) (events : EventQueue) (metrics : Metrics)
    (steps : List SchedulerStep) : Honoured (fresh interval now cache events metrics) steps where
  kept before after hsteps hrests := by
    subst hsteps
    exact discoveryCount_lt_of_rests _ hrests
  bounded := by
    have hrun := run_manualCount_add_count_le (fresh interval now cache events metrics) steps
    simp only [fresh, manualCount, triggers, List.filterMap_nil, List.count_nil, PendingRequests.count,
      Bool.toNat_false, Nat.zero_add] at hrun
    exact Nat.le_trans (Nat.le_add_right _ _) hrun
  merged before between hsteps hwindow :=
    ⟨hwindow.once_iff (attentive_fresh _ _ _ _ _) rfl, hwindow.twice⟩

/-- Two requests that come while the loop waits give two cycles: the one wakes it, the other is kept. -/
theorem exists_requests_doubled : ¬ ∀ (interval now : Nat) (cache : DocumentCache) (events : EventQueue)
    (metrics : Metrics) (before between : List SchedulerStep),
      Window (fresh interval now cache events metrics) before between →
        GivesAtMost (fresh interval now cache events metrics) before between 1 := by
  intro hgives
  have hwindow : Window (fresh 60000 0 {} {} {})
      [.start, .discovered (.ok {}), .conclude, .beginLoop, .wake, .request, .wake]
      [.discovered (.ok {}), .conclude, .wake, .request, .request] :=
    ⟨.inr ⟨[.start, .discovered (.ok {}), .conclude, .beginLoop, .wake, .request], rfl, rfl⟩, rfl, rfl⟩
  have honce := hgives _ _ _ _ _ _ _ hwindow [.discovered (.ok {}), .conclude, .wake] rfl
  exact absurd honce (by decide)

end Scheduler

end LogTagger
