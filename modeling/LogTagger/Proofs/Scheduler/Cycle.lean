import LogTagger.Proofs.Cache.SyncRun
import LogTagger.Proofs.Scheduler.Steps

/-!
# Cycles of the scheduler

A scheduler goes through a cycle step by step, one answer at a time, and may be stopped in between.
When it is not, the cycle is one of synchronisation (`run_cycle`): the steps together leave the cache
and the metrics as `DocumentCache.syncOnce` does, with the same outcome, and the journal tells of the
same fetches. So what is proved of runs of synchronisation holds of the cycles of a scheduler.
-/

namespace LogTagger

/-- The steps by which a cycle is answered that begins with a cache, and by which it comes to its end. -/
def CycleAnswers.steps (a : CycleAnswers) (cache : DocumentCache) : List SchedulerStep :=
  match a.discovery with
  | .error cause => [.discovered (.error cause), .conclude]
  | .ok target =>
    .discovered (.ok target) :: ((a.answersFrom 0 (Reconciliation.missingFrom cache target)).map .fetched ++ [.conclude])

namespace Scheduler

/-- The entry of the journal for a fetch. -/
def fetchEntry (e : String × String) : JournalEntry := .fetch e.1 e.2

/-- With an answer for each container that is missing, a reconciliation comes to its commit. -/
theorem run_continueCycle (trigger : SyncTrigger) (answers : List (Except FetchError Json)) (s : Scheduler)
    (r : Reconciliation) (h : r.missing.length = answers.length) :
    (s.continueCycle trigger r).run (answers.map .fetched) =
      { s with
        metrics := answers.foldl Metrics.countFetch s.metrics
        journal := s.journal ++ r.missing.map fetchEntry }.commitCycle trigger
          (answers.foldl Reconciliation.record r) := by
  induction answers generalizing s r with
  | nil =>
    have hmissing : r.missing = [] := List.length_eq_zero_iff.mp h
    simp [continueCycle, hmissing]
  | cons answer rest ih =>
    obtain ⟨target, missing, fetched, failure⟩ := r
    cases missing with
    | nil => cases h
    | cons e left =>
      have hstep : ∀ r' : Reconciliation, r' = ⟨target, e :: left, fetched, failure⟩ →
          (s.continueCycle trigger r').next (.fetched answer) =
            { s with
              activity := .fetching trigger r'
              metrics := s.metrics.countFetch answer
              journal := s.journal ++ [fetchEntry e] }.continueCycle trigger (r'.record answer) := by
        rintro r' rfl
        rfl
      have hrecord : (Reconciliation.record ⟨target, e :: left, fetched, failure⟩ answer).missing = left := by
        cases answer <;> rfl
      rw [List.map_cons, run_cons, hstep _ rfl, ih _ _ (by rw [hrecord]; exact Nat.succ.inj h), hrecord]
      simp only [List.foldl_cons, List.map_cons, List.append_assoc, List.singleton_append]
      rfl

/-- **A cycle that is not cut short is one of synchronisation.** -/
theorem run_cycle (s : Scheduler) (a : CycleAnswers) {trigger : SyncTrigger} (h : s.activity = .discovering trigger) :
    s.run (a.steps s.cache) =
      let fetches := match a.discovery with
        | .error _ => []
        | .ok target => (Reconciliation.missingFrom s.cache target).map fetchEntry
      let left := ((s.cache.syncOnce (pure a.discovery) a.ask s.metrics).run []).1
      { s with cache := left.1.1, metrics := left.1.2, journal := s.journal ++ fetches }.endCycle trigger left.2 := by
  cases hd : a.discovery with
  | error cause =>
    rw [← hd, a.run_syncOnce_of_error s.cache s.metrics hd, CycleAnswers.steps, hd, run_cons, run_cons, run_nil, next,
      discovered, h]
    simp only [List.append_nil]
    rfl
  | ok target =>
    rw [← hd, a.run_syncOnce_of_ok s.cache s.metrics hd, CycleAnswers.steps, hd, run_cons, next, discovered, h]
    simp only [run_append]
    rw [run_continueCycle trigger _ s (.begin s.cache target) (by simp [Reconciliation.begin])]
    rfl

end Scheduler

end LogTagger
