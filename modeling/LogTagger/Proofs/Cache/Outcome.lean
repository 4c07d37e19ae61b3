import LogTagger.Proofs.Cache.Reconciliation
import Mathlib

/-!
# All that one reconciliation does

**`exists_asked_reconcile`** is the whole account of a reconciliation, for a service with a state of its own that may
answer the same question differently each time. It says what is asked and in which order, which documents and agents
the cache holds in the end, whether it succeeds or fails, with what result and what the metrics show.

The service is asked through `Asked`: each question finds it as the one before has left it. All else is a function of
the questions and their answers (`Reconciliation.Account`), and is shown of `reconciledBy`, which that function is.
-/

namespace LogTagger

/-- Fetches from a service, one after the other: each finds the service as the one before it has left it. -/
inductive Asked {σ : Type} (fetch : String → StateM σ (Except FetchError Json)) : σ → List FetchCall → σ → Prop
  /-- Nothing is asked. -/
  | nothing (s : σ) : Asked fetch s [] s
  /-- One fetch is made, and then the others. -/
  | call {s s' s'' : σ} {call : FetchCall} {calls : List FetchCall} :
      (fetch call.url).run s = (call.answer, s') → Asked fetch s' calls s'' → Asked fetch s (call :: calls) s''

/-- What one reconciliation does, given the fetches that it made. -/
structure Reconciliation.Account (cache : DocumentCache) (metrics : Metrics) (target : EndpointSet)
    (calls : List FetchCall) (after : DocumentCache) (metrics' : Metrics)
    (outcome : Except SourceError ReconcileStats) : Prop where
  /-- It makes one fetch for each container that is listed and not cached. -/
  missing : calls.map (·.id) = target.endpoints.keys.filter (fun id => !cache.contains id)
  /-- The fetches are made by ascending id. -/
  ascending : (calls.map (·.id)).Pairwise (· < ·)
  /-- Each is made from the first address of its container. -/
  preferred : ∀ call ∈ calls, target.primary? call.id = some call.url
  /-- They do not depend on the order in which the containers are listed. -/
  anyOrder : ∀ listing : List (String × UrlList), listing.Perm target.endpoints.entries →
    ((listing.filter (fun e => !cache.contains e.1)).map (fun e => (e.1, e.2.first))).mergeSort
      (fun a b => a.1 ≤ b.1) = calls.map (fun call => (call.id, call.url))
  /-- In the end the cache holds the documents of listed containers that it held, and those that were fetched. -/
  documents : after.documents.entries.Perm
    (cache.documents.entries.filter (fun e => target.contains e.1) ++ calls.filterMap FetchCall.entry?)
  /-- The agents are those of the set. -/
  agents : after.agents = target.agents
  /-- It fails if a fetch failed, and tells of the one with the smallest id. -/
  failed : ∀ cause, outcome = .error cause ↔ ∃ call ∈ calls, ∃ reason, call.answer = .error reason ∧
    cause = .fetch call.id call.url reason.message ∧ ∀ other ∈ calls, other.answer.isOk = false → call.id ≤ other.id
  /-- Else it counts the documents that were fetched, those that were evicted and those that there are. -/
  succeeded : ∀ stats, outcome = .ok stats ↔ (∀ call ∈ calls, call.answer.isOk = true) ∧ stats =
    { fetched := calls.countP (·.answer.isOk)
      evicted := cache.ids.countP (fun id => !target.contains id)
      cached := after.size }
  /-- The number of documents is shown, whether it succeeds or fails. -/
  shown : metrics'.get? .cachedContainers = some after.size
  /-- So are the documents that were evicted. -/
  evictions : metrics'.get? .evictions =
    some (metrics.count .evictions + cache.ids.countP (fun id => !target.contains id))
  /-- Every fetch is counted. -/
  fetches : ∀ success, metrics'.count (.fetches success) =
    metrics.count (.fetches success) + calls.countP (fun call => call.answer.isOk == success)
  /-- No other metric changes. -/
  otherMetrics : ∀ series, series ≠ .cachedContainers → series ≠ .evictions → (∀ success, series ≠ .fetches success) →
    metrics'.get? series = metrics.get? series

/-! ### Metrics -/

namespace Metrics

theorem get?_add (m : Metrics) (s t : Series) (n : Nat) :
    (m.add s n).get? t = if t = s then some (m.count s + n) else m.get? t := by
  rw [add, get?_set]

theorem count_foldl_countFetch (m : Metrics) (answers : List (Except FetchError Json)) (success : Bool) :
    (answers.foldl countFetch m).count (.fetches success) =
      m.count (.fetches success) + answers.countP (fun answer => answer.isOk == success) := by
  induction answers generalizing m with
  | nil => rfl
  | cons answer rest ih =>
    rw [List.foldl_cons, ih, countFetch, count_add, List.countP_cons]
    cases hok : answer.isOk <;> cases success <;> simp <;> omega

theorem get?_foldl_countFetch {series : Series} (h : ∀ success, series ≠ .fetches success) (m : Metrics)
    (answers : List (Except FetchError Json)) : (answers.foldl countFetch m).get? series = m.get? series := by
  induction answers generalizing m with
  | nil => rfl
  | cons answer rest ih => rw [List.foldl_cons, ih, countFetch, get?_add, if_neg (h _)]

theorem get?_countCommit (m : Metrics) (stats : ReconcileStats) (series : Series) :
    (m.countCommit stats).get? series =
      if series = .cachedContainers then some stats.cached
      else if series = .evictions then some (m.count .evictions + stats.evicted) else m.get? series := by
  rw [countCommit, get?_set, get?_add]

end Metrics

/-! ### Failures -/

namespace FetchCall

theorem failure?_eq_some_iff {call : FetchCall} {cause : SourceError} :
    call.failure? = some cause ↔
      ∃ reason, call.answer = .error reason ∧ cause = .fetch call.id call.url reason.message := by
  obtain ⟨id, url, answer⟩ := call
  cases answer <;> simp [eq_comm]

theorem failure?_eq_none_iff {call : FetchCall} : call.failure? = none ↔ call.answer.isOk = true := by
  obtain ⟨id, url, answer⟩ := call
  cases answer <;> simp [Except.isOk, Except.toBool]

/-- Of fetches by ascending id, the first that failed is the one with the smallest id. -/
theorem findSome?_failure?_eq_some_iff {calls : List FetchCall} {cause : SourceError}
    (h : (calls.map (·.id)).Pairwise (· < ·)) :
    calls.findSome? failure? = some cause ↔
      ∃ call ∈ calls, call.failure? = some cause ∧ ∀ other ∈ calls, other.answer.isOk = false → call.id ≤ other.id := by
  induction calls with
  | nil => simp
  | cons first rest ih =>
    rw [List.map_cons, List.pairwise_cons, List.forall_mem_map] at h
    obtain ⟨hfirst, hrest⟩ := h
    rw [List.findSome?_cons]
    cases hfailure : first.failure? with
    | some cause' =>
      dsimp only
      -- No other that failed has a smaller id.
      have hleast : ∀ other ∈ first :: rest, first.id ≤ other.id := by
        intro other hother
        rcases List.mem_cons.mp hother with rfl | hother
        · exact le_rfl
        · exact (hfirst other hother).le
      have hfailed : first.answer.isOk = false := by
        rw [← Bool.not_eq_true, ← failure?_eq_none_iff, hfailure]
        simp
      constructor
      · rintro ⟨rfl⟩
        exact ⟨first, List.mem_cons_self, hfailure, fun other hother _ => hleast other hother⟩
      · rintro ⟨call, hcall, hcause, hsmallest⟩
        rcases List.mem_cons.mp hcall with rfl | hcall
        · rw [← hfailure, hcause]
        · exact absurd (hsmallest first List.mem_cons_self hfailed) (not_le.mpr (hfirst call hcall))
    | none =>
      have hok : first.answer.isOk = true := failure?_eq_none_iff.mp hfailure
      simp [ih hrest, hfailure, hok]

theorem findSome?_failure?_eq_none_iff {calls : List FetchCall} :
    calls.findSome? failure? = none ↔ ∀ call ∈ calls, call.answer.isOk = true := by
  simp only [List.findSome?_eq_none_iff, failure?_eq_none_iff]

/-- A document was found by each fetch that succeeded. -/
theorem length_filterMap_entry? (calls : List FetchCall) :
    (calls.filterMap entry?).length = calls.countP (·.answer.isOk) := by
  rw [List.length_filterMap_eq_countP]
  refine List.countP_congr fun call _ => ?_
  obtain ⟨id, url, answer⟩ := call
  cases answer <;> simp [Except.isOk, Except.toBool]

end FetchCall

namespace Reconciliation

variable (cache : DocumentCache) (target : EndpointSet) {answers : List (Except FetchError Json)}

/-! ### Fetches -/

/-- The entries of a list ascend if their names do. -/
theorem pairwise_keyBefore_iff {α : Type} {l : List (String × α)} :
    l.Pairwise KeyBefore ↔ (l.map Prod.fst).Pairwise (· < ·) := by
  rw [List.pairwise_map]
  rfl

theorem pairwise_missingFrom : (missingFrom cache target).Pairwise KeyBefore := by
  rw [pairwise_keyBefore_iff, map_fst_missingFrom]
  exact target.endpoints.pairwise_keys.filter _

theorem map_id_callsOf (h : answers.length = (missingFrom cache target).length) :
    (callsOf (missingFrom cache target) answers).map (·.id) = (missingFrom cache target).map Prod.fst := by
  conv_rhs => rw [← map_container_callsOf h, List.map_map]
  rfl

theorem pairwise_id_callsOf (h : answers.length = (missingFrom cache target).length) :
    ((callsOf (missingFrom cache target) answers).map (·.id)).Pairwise (· < ·) := by
  rw [map_id_callsOf cache target h, ← pairwise_keyBefore_iff]
  exact pairwise_missingFrom cache target

/-- However the containers of a set are listed, those without a document are the same, sorted by id. -/
theorem mergeSort_missing {listing : List (String × UrlList)} (h : listing.Perm target.endpoints.entries) :
    ((listing.filter (fun e => !cache.contains e.1)).map (fun e => (e.1, e.2.first))).mergeSort
      (fun a b => a.1 ≤ b.1) = missingFrom cache target := by
  have htrans (a b c : String × String) (hab : decide (a.1 ≤ b.1) = true) (hbc : decide (b.1 ≤ c.1) = true) :
      decide (a.1 ≤ c.1) = true :=
    decide_eq_true (le_trans (of_decide_eq_true hab) (of_decide_eq_true hbc))
  have htotal (a b : String × String) : (decide (a.1 ≤ b.1) || decide (b.1 ≤ a.1)) = true := by
    simpa using le_total a.1 b.1
  have hsorted := List.pairwise_mergeSort htrans htotal
    ((listing.filter (fun e => !cache.contains e.1)).map (fun e => (e.1, e.2.first)))
  have hperm := (List.mergeSort_perm _ fun a b : String × String => decide (a.1 ≤ b.1)).trans
    ((h.filter fun e => !cache.contains e.1).map fun e : String × UrlList => (e.1, e.2.first))
  refine hperm.eq_of_pairwise ?_ hsorted
    ((pairwise_missingFrom cache target).imp fun hlt => decide_eq_true (le_of_lt hlt))
  intro a b ha hb hab hba
  have hid : a.1 = b.1 := le_antisymm (of_decide_eq_true hab) (of_decide_eq_true hba)
  exact List.inj_on_of_nodup_map (nodup_missingFrom cache target) (hperm.mem_iff.mp ha) hb hid

/-! ### Documents -/

/-- The documents that were fetched stand by ascending id. -/
theorem pairwise_fetched (h : answers.length = (missingFrom cache target).length) :
    ((callsOf (missingFrom cache target) answers).filterMap FetchCall.entry?).Pairwise KeyBefore := by
  rw [pairwise_keyBefore_iff]
  exact (pairwise_id_callsOf cache target h).sublist (FetchCall.map_fst_entries_sublist _)

/-- What is fetched is listed and was not there. -/
theorem of_mem_fetched (h : answers.length = (missingFrom cache target).length) {e : String × Json}
    (he : e ∈ (callsOf (missingFrom cache target) answers).filterMap FetchCall.entry?) :
    target.contains e.1 = true ∧ cache.get? e.1 = none := by
  obtain ⟨call, hcall, hentry⟩ := List.mem_filterMap.mp he
  have hid : call.id ∈ (missingFrom cache target).map Prod.fst := by
    rw [← map_id_callsOf cache target h]
    exact List.mem_map_of_mem hcall
  rw [FetchCall.fst_of_entry? hentry, map_fst_missingFrom, List.mem_filter, SortedMap.mem_keys_iff,
    Bool.not_eq_true'] at hid
  exact ⟨hid.1, SortedMap.contains_eq_false_iff.mp hid.2⟩

theorem mem_entries_commit_iff {r : Reconciliation} {e : String × Json} (hsorted : r.fetched.Pairwise KeyBefore) :
    e ∈ (r.commit cache).1.documents.entries ↔
      r.target.contains e.1 = true ∧ (e ∈ cache.documents.entries ∨ cache.get? e.1 = none ∧ e ∈ r.fetched) := by
  obtain ⟨id, document⟩ := e
  rw [← SortedMap.get?_eq_some_iff, ← SortedMap.get?_eq_some_iff, ← SortedMap.lookup_eq_some_iff hsorted]
  change (r.commit cache).1.get? id = some document ↔ _
  rw [get?_commit]
  split
  case isTrue hlisted => simp [hlisted, DocumentCache.get?, Option.or_eq_some_iff]
  case isFalse hlisted => simp [hlisted]

/-- **A commit keeps what is listed and enters what was fetched**, and nothing else. -/
theorem perm_entries_commit (h : answers.length = (missingFrom cache target).length) {r : Reconciliation}
    (hr : r = answers.foldl record (.begin cache target)) :
    (r.commit cache).1.documents.entries.Perm (cache.documents.entries.filter (fun e => target.contains e.1) ++
      (callsOf (missingFrom cache target) answers).filterMap FetchCall.entry?) := by
  have hfetched : r.fetched = (callsOf (missingFrom cache target) answers).filterMap FetchCall.entry? := by
    rw [hr, foldl_record]
    rfl
  have htarget : r.target = target := by
    rw [hr, foldl_record]
    rfl
  have hsorted := pairwise_fetched cache target h
  have hkept : (cache.documents.entries.filter fun e => target.contains e.1).Pairwise KeyBefore :=
    cache.documents.sorted.filter _
  rw [List.perm_ext_iff_of_nodup ((SortedMap.nodup_of_pairwise (r.commit cache).1.documents.sorted).of_map _)]
  · intro e
    rw [mem_entries_commit_iff cache (hfetched ▸ hsorted), hfetched, htarget, List.mem_append, List.mem_filter]
    constructor
    · rintro ⟨hlisted, hthere | ⟨-, hnew⟩⟩
      · exact .inl ⟨hthere, hlisted⟩
      · exact .inr hnew
    · rintro (⟨hthere, hlisted⟩ | hnew)
      · exact ⟨hlisted, .inl hthere⟩
      · obtain ⟨hlisted, hnone⟩ := of_mem_fetched cache target h hnew
        exact ⟨hlisted, .inr ⟨hnone, hnew⟩⟩
  · -- Nothing that is fetched was there.
    refine List.nodup_append'.mpr
      ⟨(SortedMap.nodup_of_pairwise hkept).of_map _, (SortedMap.nodup_of_pairwise hsorted).of_map _, ?_⟩
    intro e hthere hnew
    have hnone := (of_mem_fetched cache target h hnew).2
    have hsome : cache.get? e.1 = some e.2 := SortedMap.get?_eq_some_iff.mpr (List.mem_filter.mp hthere).1
    rw [hnone] at hsome
    cases hsome

/-- The documents that are evicted are those of containers that are not listed. -/
theorem evicted_commit (h : answers.length = (missingFrom cache target).length) {r : Reconciliation}
    (hr : r = answers.foldl record (.begin cache target)) :
    (r.commit cache).2.evicted = cache.ids.countP (fun id => !target.contains id) := by
  have hsize := size_commit cache target h hr
  have hafter : (r.commit cache).1.size = _ := (perm_entries_commit cache target h hr).length_eq
  have hfetched : r.fetched = (callsOf (missingFrom cache target) answers).filterMap FetchCall.entry? := by
    rw [hr, foldl_record]
    rfl
  have hsplit := List.length_eq_countP_add_countP (fun e : String × Json => target.contains e.1)
    (l := cache.documents.entries)
  have hids : cache.ids.countP (fun id => !target.contains id) =
      cache.documents.entries.countP (fun e => !target.contains e.1) := by
    rw [DocumentCache.ids, SortedMap.keys, List.countP_map]
    rfl
  rw [List.length_append, ← List.countP_eq_length_filter, ← hfetched] at hafter
  simp only [Bool.not_eq_true, Bool.decide_eq_false] at hsplit
  rw [DocumentCache.size, SortedMap.size] at hsize
  omega

end Reconciliation

/-! ### The account -/

section

variable (cache : DocumentCache) (metrics : Metrics) (target : EndpointSet)

/-- A reconciliation succeeds if none of its fetches failed. -/
theorem DocumentCache.outcome_reconciledBy_eq_ok_iff (answers : List (Except FetchError Json))
    {stats : ReconcileStats} :
    (cache.reconciledBy metrics target answers).2 = .ok stats ↔
      (Reconciliation.callsOf (Reconciliation.missingFrom cache target) answers).findSome? FetchCall.failure? = none ∧
        stats = ((answers.foldl Reconciliation.record (.begin cache target)).commit cache).2 := by
  simp only [reconciledBy, Reconciliation.foldl_record, Reconciliation.outcome, Reconciliation.begin, Option.none_or]
  cases (Reconciliation.callsOf (Reconciliation.missingFrom cache target) answers).findSome? FetchCall.failure? <;>
    simp [eq_comm]

theorem DocumentCache.get?_metrics_reconciledBy (answers : List (Except FetchError Json)) (series : Series) :
    (cache.reconciledBy metrics target answers).1.2.get? series =
      if series = .cachedContainers then some (cache.reconciledBy metrics target answers).1.1.size
      else if series = .evictions then
        some ((answers.foldl Metrics.countFetch metrics).count .evictions +
          ((answers.foldl Reconciliation.record (.begin cache target)).commit cache).2.evicted)
      else (answers.foldl Metrics.countFetch metrics).get? series :=
  Metrics.get?_countCommit _ _ _

/-- What is left when every fetch is answered. -/
theorem account_reconciledBy {answers : List (Except FetchError Json)}
    (h : answers.length = (Reconciliation.missingFrom cache target).length) :
    Reconciliation.Account cache metrics target
      (Reconciliation.callsOf (Reconciliation.missingFrom cache target) answers)
      (cache.reconciledBy metrics target answers).1.1 (cache.reconciledBy metrics target answers).1.2
      (cache.reconciledBy metrics target answers).2 := by
  have hascending := Reconciliation.pairwise_id_callsOf cache target h
  have hcounted (success : Bool) :
      (Reconciliation.callsOf (Reconciliation.missingFrom cache target) answers).countP
        (fun call => call.answer.isOk == success) = answers.countP (fun answer => answer.isOk == success) := by
    conv_rhs => rw [← Reconciliation.map_answer_callsOf h, List.countP_map]
    rfl
  have hevicted := Reconciliation.evicted_commit cache target h rfl
  constructor
  case missing => rw [Reconciliation.map_id_callsOf cache target h, Reconciliation.map_fst_missingFrom]
  case ascending => exact hascending
  case preferred =>
    intro call hcall
    have hmem : (call.id, call.url) ∈ Reconciliation.missingFrom cache target := by
      rw [← Reconciliation.map_container_callsOf h]
      exact List.mem_map_of_mem hcall
    exact (Reconciliation.mem_missingFrom_iff.mp hmem).2
  case anyOrder =>
    intro listing hlisting
    rw [Reconciliation.map_container_callsOf h]
    exact Reconciliation.mergeSort_missing cache target hlisting
  case documents => exact Reconciliation.perm_entries_commit cache target h rfl
  case agents => exact cache.agents_reconciledBy metrics target answers
  case failed =>
    intro cause
    rw [cache.outcome_reconciledBy, FetchCall.findSome?_failure?_eq_some_iff hascending]
    simp only [FetchCall.failure?_eq_some_iff]
    constructor
    · rintro ⟨call, hcall, ⟨reason, hanswer, hcause⟩, hleast⟩
      exact ⟨call, hcall, reason, hanswer, hcause, hleast⟩
    · rintro ⟨call, hcall, reason, hanswer, hcause, hleast⟩
      exact ⟨call, hcall, ⟨reason, hanswer, hcause⟩, hleast⟩
  case succeeded =>
    intro stats
    have hfetched := Reconciliation.fetched_commit cache target h
    rw [FetchCall.length_filterMap_entry?] at hfetched
    rw [cache.outcome_reconciledBy_eq_ok_iff, FetchCall.findSome?_failure?_eq_none_iff, ← hfetched, ← hevicted]
    rfl
  case shown => rw [cache.get?_metrics_reconciledBy, if_pos rfl]
  case evictions =>
    rw [cache.get?_metrics_reconciledBy, if_neg (by decide), if_pos rfl, hevicted, Metrics.count,
      Metrics.get?_foldl_countFetch (by decide), ← Metrics.count]
  case fetches =>
    intro success
    rw [hcounted, ← Metrics.count_foldl_countFetch, Metrics.count, cache.get?_metrics_reconciledBy, if_neg (by simp),
      if_neg (by simp), ← Metrics.count]
  case otherMetrics =>
    intro series hcached hevictions hfetches
    rw [cache.get?_metrics_reconciledBy, if_neg hcached, if_neg hevictions, Metrics.get?_foldl_countFetch hfetches]

end

section

variable {σ : Type} (fetch : String → StateM σ (Except FetchError Json)) (cache : DocumentCache) (metrics : Metrics)
  (target : EndpointSet)

theorem exists_asked_mapM (missing : List (String × String)) (s : σ) :
    ∃ answers s', (missing.mapM (fun e => fetch e.2)).run s = (answers, s') ∧ answers.length = missing.length ∧
      Asked fetch s (Reconciliation.callsOf missing answers) s' := by
  induction missing generalizing s with
  | nil => exact ⟨[], s, rfl, rfl, .nothing s⟩
  | cons e rest ih =>
    cases hfirst : (fetch e.2).run s with
    | mk answer s' =>
      obtain ⟨answers, s'', hrun, hlength, hasked⟩ := ih s'
      refine ⟨answer :: answers, s'', ?_, congrArg (· + 1) hlength, .call hfirst hasked⟩
      rw [List.mapM_cons, StateT.run_bind, hfirst]
      change (rest.mapM (fun e => fetch e.2) >>= fun answers => pure (answer :: answers)).run s' = _
      rw [StateT.run_bind, hrun]
      rfl

/-- **All that a reconciliation does**, whatever the service answers. -/
theorem exists_asked_reconcile (s : σ) : ∃ calls s' after metrics' outcome, Asked fetch s calls s' ∧
    (cache.reconcile fetch metrics target).run s = (((after, metrics'), outcome), s') ∧
      Reconciliation.Account cache metrics target calls after metrics' outcome := by
  obtain ⟨answers, s', hrun, hlength, hasked⟩ :=
    exists_asked_mapM fetch (Reconciliation.missingFrom cache target) s
  refine ⟨_, s', _, _, _, hasked, ?_, account_reconciledBy cache metrics target hlength⟩
  rw [DocumentCache.reconcile_eq, StateT.run_bind, hrun]
  rfl

end

end LogTagger
