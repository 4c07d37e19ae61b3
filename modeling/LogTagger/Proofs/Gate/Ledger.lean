import LogTagger.Proofs.Cache.Reconciliation
import LogTagger.Proofs.Gate.Basic

/-!
# The ledger of a cache

The ledger holds the cache and what is told of it outside: the counts of evictions and of cycles, the
number of cached documents and the failure of the last cycle. Fetches are counted elsewhere.

A commit changes the cache, the evictions and the number, the end of a cycle the other two, and nothing
else changes any of them: `ledger_continueCycle` and `ledger_visited` say what becomes of the ledger when
a call goes on, `next_quiet` what the steps without an answer do to it.

A cycle that has come to its outcome has still to tell it, and others can commit before it does. What
the ledger will be then (`Scheduler.told`) is moved by their commits as the ledger is, as the two change
different parts of it.
-/

namespace LogTagger

/-- The cache, with what is told of it outside. -/
structure Ledger where
  /-- The cache. -/
  cache : DocumentCache
  /-- The count of documents that were evicted. -/
  evictions : Nat
  /-- The number of cached documents, as it is shown. -/
  cached : Option Nat
  /-- The counts of cycles, by their triggers and by whether they succeeded. -/
  cycles : SyncTrigger → Bool → Nat
  /-- The failure of the last cycle. -/
  lastError : Option String

namespace Ledger

/-- The ledger after a commit. -/
def commit (l : Ledger) (c : Commit) : Ledger :=
  let (cache, stats) := (c.call.reconciliation l.cache).commit l.cache
  { l with cache, evictions := l.evictions + stats.evicted, cached := some stats.cached }

/-- The ledger after the end of a cycle. -/
def endCycle (l : Ledger) (trigger : SyncTrigger) (outcome : Except SourceError ReconcileStats) : Ledger :=
  { l with
    cycles := fun t ok => if t = trigger ∧ ok = outcome.isOk then l.cycles t ok + 1 else l.cycles t ok
    lastError := failureText outcome }

/-- A commit and the end of a cycle change different parts. -/
theorem commit_endCycle (l : Ledger) (trigger : SyncTrigger) (outcome : Except SourceError ReconcileStats)
    (c : Commit) : (l.endCycle trigger outcome).commit c = (l.commit c).endCycle trigger outcome := rfl

end Ledger

namespace Scheduler

/-- The ledger of a scheduler. -/
def ledger (s : Scheduler) : Ledger where
  cache := s.cache
  evictions := s.metrics.count .evictions
  cached := s.metrics.get? .cachedContainers
  cycles trigger ok := s.metrics.count (.syncCycles trigger ok)
  lastError := s.lastError

/-- The ledger does not tell of fetches. -/
theorem ledger_countFetch (s : Scheduler) (answer : Except FetchError Json) :
    (s.withMetrics (s.metrics.countFetch answer)).ledger = s.ledger := by
  simp only [ledger, withMetrics, Metrics.countFetch, Metrics.count_add, reduceCtorEq, if_false]
  simp only [Metrics.add, Metrics.get?_set, reduceCtorEq, if_false]

theorem ledger_commit (s : Scheduler) {r : Reconciliation} {c : Commit} (h : c.call.reconciliation s.cache = r) :
    { s with cache := (r.commit s.cache).1, metrics := s.metrics.countCommit (r.commit s.cache).2 }.ledger =
      s.ledger.commit c := by
  subst h
  simp only [ledger, Ledger.commit, Metrics.countCommit, Metrics.get?_set, if_true]
  simp only [Metrics.count_set_of_ne _ _ (show Series.evictions ≠ .cachedContainers by simp), Metrics.count_add,
    if_true]
  simp only [Metrics.count_set_of_ne _ _ (show Series.syncCycles _ _ ≠ .cachedContainers by simp), Metrics.count_add,
    reduceCtorEq, if_false]

theorem ledger_endCycle (s : Scheduler) (trigger : SyncTrigger) (outcome : Except SourceError ReconcileStats) :
    (s.endCycle trigger outcome).ledger = s.ledger.endCycle trigger outcome := by
  have h : ∀ s' : Scheduler, s'.cache = s.cache → s'.metrics = s.metrics.add (.syncCycles trigger outcome.isOk) 1 →
      s'.lastError = failureText outcome → s'.ledger = s.ledger.endCycle trigger outcome := by
    intro s' hcache hmetrics herror
    simp only [ledger, Ledger.endCycle, hcache, hmetrics, herror, Metrics.count_add, reduceCtorEq, if_false,
      Series.syncCycles.injEq]
    simp only [Metrics.add, Metrics.get?_set, reduceCtorEq, if_false]
    congr
    funext t ok
    split
    case isTrue htrigger => rw [htrigger.1, htrigger.2]
    case isFalse => rfl
  rw [endCycle]
  split <;> exact h _ rfl rfl rfl

/-- A call of another user is a step of the ledger if it is committed, and none if it is not. -/
theorem ledger_visited (s : Scheduler) {c : Commit} {r : Reconciliation} (h : c.call.reconciliation s.cache = r) :
    (s.visited r).ledger = if r.missing = [] then s.ledger.commit c else s.ledger := by
  rw [visited]
  split
  case h_1 hmissing => rw [if_pos hmissing, ← ledger_commit s h]
  case h_2 hmissing => rw [if_neg (by simp [hmissing])]

/-- When the cycle goes on with the reconciliation of a call, that is committed if nothing is left to fetch. -/
theorem ledger_continueCycle (s : Scheduler) (trigger : SyncTrigger) {c : Commit} {r : Reconciliation}
    (h : c.call.reconciliation s.cache = r) :
    (s.continueCycle trigger r).ledger = if r.missing = [] then s.ledger.commit c else s.ledger := by
  rw [continueCycle]
  split
  case h_1 hmissing =>
    rw [if_pos hmissing, ← ledger_commit s h]
    rfl
  case h_2 hmissing =>
    rw [if_neg (by simp [hmissing])]
    rfl

/-- A search for endpoints that fails is the outcome of the cycle that waits for them. -/
theorem discovered_error_cases (s : Scheduler) (cause : SourceError) :
    s.discovered (.error cause) = s ∨
      ∃ trigger, s.activity = .discovering trigger ∧
        s.discovered (.error cause) = { s with activity := .concluding trigger (.error cause) } := by
  rw [discovered]
  split
  case h_1 trigger hactivity => exact .inr ⟨trigger, hactivity, rfl⟩
  case h_2 => exact .inl rfl

theorem discoveryCount_continueCycle (s : Scheduler) (trigger : SyncTrigger) (r : Reconciliation) :
    (s.continueCycle trigger r).discoveryCount = s.discoveryCount := by
  rw [continueCycle]
  split
  · rfl
  · simp [note, discoveryCount]

/-- A cycle that goes on comes to its outcome, or fetches. -/
theorem activity_continueCycle (s : Scheduler) (trigger : SyncTrigger) (r : Reconciliation) :
    (s.continueCycle trigger r).activity =
      if r.missing = [] then .concluding trigger (r.outcome (r.commit s.cache).2) else .fetching trigger r := by
  rw [continueCycle]
  split
  case h_1 hmissing =>
    rw [if_pos hmissing]
    rfl
  case h_2 hmissing =>
    rw [if_neg (by simp [hmissing])]
    rfl

theorem cache_continueCycle_of_missing_ne_nil (s : Scheduler) (trigger : SyncTrigger) {r : Reconciliation}
    (h : r.missing ≠ []) : (s.continueCycle trigger r).cache = s.cache := by
  rw [continueCycle]
  split
  case h_1 hmissing => exact absurd hmissing h
  case h_2 => rfl

theorem cache_visited_of_missing_ne_nil (s : Scheduler) {r : Reconciliation} (h : r.missing ≠ []) :
    (s.visited r).cache = s.cache := by
  rw [visited]
  split
  case h_1 hmissing => exact absurd hmissing h
  case h_2 => rfl

theorem discoveryCount_visited (s : Scheduler) (r : Reconciliation) :
    (s.visited r).discoveryCount = s.discoveryCount := by
  rw [visited]
  split <;> rfl

theorem activity_visited (s : Scheduler) (r : Reconciliation) : (s.visited r).activity = s.activity := by
  rw [visited]
  split <;> rfl

/-! ### What will be told -/

/-- The ledger when the cycle under way has told the outcome to which it has come. -/
def told (s : Scheduler) : Ledger := s.conclude.ledger

theorem told_of_concluding {s : Scheduler} {trigger : SyncTrigger} {outcome : Except SourceError ReconcileStats}
    (h : s.activity = .concluding trigger outcome) : s.told = s.ledger.endCycle trigger outcome := by
  rw [told, conclude_of_concluding h, ledger_endCycle]

theorem told_of_ne {s : Scheduler} (h : ∀ trigger outcome, s.activity ≠ .concluding trigger outcome) :
    s.told = s.ledger := by
  rw [told, conclude_of_ne h]

theorem told_of_waiting {s : Scheduler} (h : s.activity = .waiting) : s.told = s.ledger := told_of_ne (by simp [h])

/-- A cycle that waits for an answer has come to no outcome. -/
theorem told_of_awaiting {s : Scheduler} {trigger : SyncTrigger} (h : s.activity.awaiting? = some trigger) :
    s.told = s.ledger := by
  refine told_of_ne fun t outcome hactivity => ?_
  rw [hactivity, Activity.awaiting?] at h
  cases h

/-- What will be told is told from the ledger and from what the scheduler is doing. -/
theorem told_congr {s s' : Scheduler} (hactivity : s'.activity = s.activity) (hledger : s'.ledger = s.ledger) :
    s'.told = s.told := by
  rcases s.conclude_cases with ⟨trigger, outcome, hconcluding, -⟩ | ⟨hne, -⟩
  · rw [told_of_concluding hconcluding, told_of_concluding (hactivity.trans hconcluding), hledger]
  · rw [told_of_ne hne, told_of_ne (by rwa [hactivity]), hledger]

theorem told_cache (s : Scheduler) : s.told.cache = s.cache := s.conclude_cache

/-- To tell it does not change it. -/
theorem told_conclude (s : Scheduler) : s.conclude.told = s.told := by
  rcases s.conclude_cases with ⟨trigger, outcome, -, hends⟩ | ⟨-, hsame⟩
  · rw [told_of_waiting (by rw [hends]; exact (s.endCycle_leaves trigger outcome).1), told]
  · rw [hsame]

/-- The commit of another user changes what will be told as it changes the ledger. -/
theorem told_visited (s : Scheduler) {c : Commit} {r : Reconciliation} (h : c.call.reconciliation s.cache = r) :
    (s.visited r).told = if r.missing = [] then s.told.commit c else s.told := by
  have hactivity := s.activity_visited r
  have hledger := s.ledger_visited h
  rcases s.conclude_cases with ⟨trigger, outcome, hconcluding, -⟩ | ⟨hne, -⟩
  · rw [told_of_concluding hconcluding, told_of_concluding (hactivity.trans hconcluding), hledger, Ledger.commit_endCycle]
    split <;> rfl
  · rw [told_of_ne hne, told_of_ne (by rwa [hactivity]), hledger]

/-! ### Steps without an answer -/

/-- A cycle that tells its outcome does not wait for an answer, before and after. -/
theorem conclude_awaiting (s : Scheduler) : s.conclude.activity.awaiting? = s.activity.awaiting? := by
  rcases s.conclude_cases with ⟨trigger, outcome, hactivity, hends⟩ | ⟨-, hsame⟩
  · rw [hends, (s.endCycle_leaves trigger outcome).1, hactivity, Activity.awaiting?, Activity.awaiting?]
  · rw [hsame]

theorem discoveryCount_conclude (s : Scheduler) : s.conclude.discoveryCount = s.discoveryCount := by
  rcases s.conclude_cases with ⟨trigger, outcome, -, hends⟩ | ⟨-, hsame⟩
  · obtain ⟨-, -, -, hjournal, -⟩ := s.endCycle_leaves trigger outcome
    rw [hends, discoveryCount, hjournal]
    simp [discoveryCount]
  · rw [hsame]

/-- What a step does that brings no answer and does not stop the scheduler. -/
inductive QuietMove (s s' : Scheduler) : Prop
  /-- The cycle under way tells its outcome, if it has come to one. -/
  | concludes (same : s' = s.conclude)
  /-- No cycle begins or ends. -/
  | rests (ledger : s'.ledger = s.ledger) (activity : s'.activity = s.activity) (journal : s'.journal = s.journal)
  /-- A cycle begins. -/
  | begins (trigger : SyncTrigger) (before : s.phase = .idle ∨ s.activity = .waiting) (ledger : s'.ledger = s.ledger)
      (activity : s'.activity = .discovering trigger) (journal : s'.journal = s.journal ++ [.discovery trigger s.now])

theorem wake_quiet {s s' : Scheduler} (h : s.wake = some s') : QuietMove s s' := by
  rw [wake] at h
  by_cases hlistening : s.isListening = true
  case neg => simp [hlistening] at h
  obtain ⟨-, hwaits⟩ := isListening_iff.mp hlistening
  simp only [hlistening, Bool.not_true, Bool.false_eq_true, if_false] at h
  split at h
  · obtain rfl := Option.some.inj h
    exact .begins .interval (.inr hwaits) rfl rfl rfl
  · split at h
    · obtain rfl := Option.some.inj h
      exact .begins .manual (.inr hwaits) rfl rfl rfl
    · obtain rfl := Option.some.inj h
      rw [takeEvent]
      split
      · exact .begins .event (.inr hwaits) rfl rfl rfl
      · exact .rests rfl rfl rfl
    · cases h

theorem next_quiet (s : Scheduler) {step : SchedulerStep} (hdiscovered : ∀ answer, step ≠ .discovered answer)
    (hfetched : ∀ answer, step ≠ .fetched answer) (hstop : step ≠ .stop) : QuietMove s (s.next step) := by
  cases step with
  | start =>
    cases h : s.start with
    | error e =>
      rw [next_start_of_error h]
      exact .rests rfl rfl rfl
    | ok s' =>
      obtain ⟨hidle, rfl⟩ := start_eq_ok_iff.mp h
      rw [next_start_of_ok h]
      exact .begins .startup (.inl hidle) rfl rfl rfl
  | stop => exact absurd rfl hstop
  | request => exact .rests rfl rfl rfl
  | look => exact .rests rfl rfl rfl
  | pass time => exact .rests rfl rfl rfl
  | tick =>
    rw [next, fireTimer]
    split <;> exact .rests rfl rfl rfl
  | offer item =>
    rw [next, offer]
    split <;> exact .rests rfl rfl rfl
  | endEvents => exact .rests rfl rfl rfl
  | beginLoop =>
    rw [next, beginLoop]
    split
    · split <;> exact .rests rfl rfl rfl
    · exact .rests rfl rfl rfl
  | wake =>
    cases h : s.wake with
    | none =>
      rw [next, h, Option.getD_none, listen]
      split <;> exact .rests rfl rfl rfl
    | some s' =>
      rw [next, h]
      exact wake_quiet h
  | discovered answer => exact absurd rfl (hdiscovered answer)
  | fetched answer => exact absurd rfl (hfetched answer)
  | conclude => exact .concludes rfl

end Scheduler

end LogTagger
