import LogTagger.Cache.Reconciliation
import LogTagger.Proofs.SortedMap
import Mathlib.Data.List.Nodup

/-!
# What a reconciliation does

`reconcile_eq`: whatever the effects of a fetch are, a reconciliation makes one fetch for each
container that is listed and not cached, by ascending id, and what it leaves is a function of the
answers alone. `get?_commit` says what each look-up finds afterwards, and `foldl_record` what the
answers leave behind: the documents of those that succeeded, and the first failure.
-/

namespace LogTagger

/-- A fetch that was made for a container, with its answer. -/
structure FetchCall where
  /-- The container. -/
  id : String
  /-- The address. -/
  url : String
  /-- The answer. -/
  answer : Except FetchError Json

namespace FetchCall

/-- The document that a fetch found, with its container. -/
def entry? (c : FetchCall) : Option (String × Json) := c.answer.toOption.map (c.id, ·)

/-- The failure of a fetch. -/
def failure? (c : FetchCall) : Option SourceError :=
  match c.answer with
  | .ok _ => none
  | .error cause => some (.fetch c.id c.url cause.message)

@[simp] theorem entry?_ok (id url : String) (document : Json) : entry? ⟨id, url, .ok document⟩ = some (id, document) := rfl

@[simp] theorem entry?_error (id url : String) (cause : FetchError) : entry? ⟨id, url, .error cause⟩ = none := rfl

@[simp] theorem failure?_ok (id url : String) (document : Json) : failure? ⟨id, url, .ok document⟩ = none := rfl

@[simp] theorem failure?_error (id url : String) (cause : FetchError) :
    failure? ⟨id, url, .error cause⟩ = some (.fetch id url cause.message) := rfl

theorem fst_of_entry? {c : FetchCall} {e : String × Json} (h : c.entry? = some e) : c.id = e.1 := by
  obtain ⟨document, -, rfl⟩ := Option.map_eq_some_iff.mp h
  rfl

/-- Documents were found for some of the containers, in their order. -/
theorem map_fst_entries_sublist (calls : List FetchCall) :
    ((calls.filterMap entry?).map Prod.fst).Sublist (calls.map (·.id)) := by
  induction calls with
  | nil => exact .slnil
  | cons c rest ih =>
    rw [List.map_cons]
    cases hentry : c.entry? with
    | none =>
      rw [List.filterMap_cons_none hentry]
      exact ih.cons _
    | some e =>
      rw [List.filterMap_cons_some hentry, List.map_cons, fst_of_entry? hentry]
      exact ih.cons_cons _

/-- The document that the first successful fetch for a container found. -/
def firstDocument (id : String) (calls : List FetchCall) : Option Json :=
  calls.findSome? (fun c => if c.id = id then c.answer.toOption else none)

theorem firstDocument_append (id : String) (l r : List FetchCall) :
    firstDocument id (l ++ r) = (firstDocument id l).or (firstDocument id r) := by
  rw [firstDocument, List.findSome?_append]
  rfl

theorem exists_of_firstDocument {id : String} {calls : List FetchCall} {document : Json}
    (h : firstDocument id calls = some document) : ∃ c ∈ calls, c.id = id ∧ c.answer = .ok document := by
  obtain ⟨c, hc, hdoc⟩ := List.exists_of_findSome?_eq_some h
  split at hdoc
  case isTrue hid =>
    refine ⟨c, hc, hid, ?_⟩
    cases ha : c.answer <;> simp_all [Except.toOption]
  case isFalse => cases hdoc

/-- Some document was found if some fetch for the container succeeded. -/
theorem isSome_firstDocument_iff {id : String} {calls : List FetchCall} :
    (firstDocument id calls).isSome = true ↔ ∃ c ∈ calls, c.id = id ∧ c.answer.isOk = true := by
  rw [firstDocument, List.findSome?_isSome_iff]
  refine exists_congr fun c => and_congr_right fun _ => ?_
  split
  case isTrue hid => cases c.answer <;> simp [hid, Except.toOption, Except.isOk, Except.toBool]
  case isFalse hid => simp [hid]

/-- The first document for a container is the first one among those found. -/
theorem lookup_filterMap_entry? (id : String) (calls : List FetchCall) :
    SortedMap.lookup id (calls.filterMap entry?) = firstDocument id calls := by
  induction calls with
  | nil => rfl
  | cons c rest ih =>
    obtain ⟨k, url, answer⟩ := c
    rw [firstDocument, List.findSome?_cons, ← firstDocument, ← ih]
    cases answer with
    | error cause => simp [List.filterMap_cons, Except.toOption]
    | ok document =>
      by_cases h : k = id
      · simp [Except.toOption, SortedMap.lookup, h]
      · simp [SortedMap.lookup, h, Ne.symm h]

end FetchCall

namespace Reconciliation

/-! ### Taking the answers -/

/-- The fetches for containers with their addresses, when the answers come in their order. -/
def callsOf (missing : List (String × String)) (answers : List (Except FetchError Json)) : List FetchCall :=
  (missing.zip answers).map (fun p => ⟨p.1.1, p.1.2, p.2⟩)

@[simp] theorem callsOf_nil (missing : List (String × String)) : callsOf missing [] = [] := by
  simp [callsOf]

/-- One more answer is that of the fetch for the next container. -/
theorem callsOf_concat {missing : List (String × String)} {answers : List (Except FetchError Json)} {id url : String}
    (h : missing[answers.length]? = some (id, url)) (answer : Except FetchError Json) :
    callsOf missing (answers ++ [answer]) = callsOf missing answers ++ [⟨id, url, answer⟩] := by
  induction answers generalizing missing with
  | nil =>
    cases missing with
    | nil => cases h
    | cons e rest =>
      obtain rfl := Option.some.inj h
      simp [callsOf]
  | cons first others ih =>
    cases missing with
    | nil => cases h
    | cons e rest => exact congrArg (⟨e.1, e.2, first⟩ :: ·) (ih h)

/-- When every fetch is answered, there is one for each container, from its address. -/
theorem map_container_callsOf {missing : List (String × String)} {answers : List (Except FetchError Json)}
    (h : answers.length = missing.length) : (callsOf missing answers).map (fun c => (c.id, c.url)) = missing := by
  rw [callsOf, List.map_map]
  exact List.map_fst_zip (Nat.le_of_eq h.symm)

/-- When every fetch is answered, each answer is that of one fetch. -/
theorem map_answer_callsOf {missing : List (String × String)} {answers : List (Except FetchError Json)}
    (h : answers.length = missing.length) : (callsOf missing answers).map (·.answer) = answers := by
  rw [callsOf, List.map_map]
  exact List.map_snd_zip (Nat.le_of_eq h)

theorem foldl_record (r : Reconciliation) (answers : List (Except FetchError Json)) :
    answers.foldl record r =
      { r with
        missing := r.missing.drop answers.length
        fetched := r.fetched ++ (callsOf r.missing answers).filterMap FetchCall.entry?
        failure := r.failure.or ((callsOf r.missing answers).findSome? FetchCall.failure?) } := by
  induction answers generalizing r with
  | nil => cases h : r.missing <;> simp [callsOf, ← h]
  | cons answer rest ih =>
    obtain ⟨target, missing, fetched, failure⟩ := r
    rw [List.foldl_cons, ih]
    cases missing with
    | nil => simp [record, callsOf]
    | cons e left =>
      cases answer with
      | ok document => simp [record, callsOf, List.findSome?_cons]
      | error cause =>
        cases failure <;> simp [record, callsOf, List.filterMap_cons, List.findSome?_cons]

/-- After some answers those containers are left that come after as many. -/
theorem missing_foldl_record (cache : DocumentCache) (target : EndpointSet) (answers : List (Except FetchError Json)) :
    (answers.foldl record (.begin cache target)).missing = (missingFrom cache target).drop answers.length := by
  rw [foldl_record]
  rfl

/-! ### Committing -/

/-- Documents of containers that are new and distinct are all entered. -/
theorem snd_foldl_enter {entries : List (String × Json)} {found : SortedMap Json × Nat}
    (hnew : ∀ e ∈ entries, found.1.contains e.1 = false) (hdistinct : (entries.map Prod.fst).Nodup) :
    (entries.foldl enter found).2 = found.2 + entries.length := by
  induction entries generalizing found with
  | nil => rfl
  | cons e rest ih =>
    rw [List.map_cons, List.nodup_cons] at hdistinct
    rw [List.forall_mem_cons] at hnew
    have hentered : enter found e = (found.1.insert e.1 e.2, found.2 + 1) := by
      rw [enter, hnew.1]
      rfl
    have hrest : ∀ e' ∈ rest, (found.1.insert e.1 e.2).contains e'.1 = false := by
      intro e' he'
      have hne : e'.1 ≠ e.1 := fun heq => hdistinct.1 (heq ▸ List.mem_map_of_mem he')
      rw [SortedMap.contains_eq_false_iff, SortedMap.get?_insert, if_neg hne]
      exact SortedMap.contains_eq_false_iff.mp (hnew.2 e' he')
    rw [List.foldl_cons, hentered, ih hrest hdistinct.2, List.length_cons]
    omega

/-- What is entered is counted. -/
theorem size_foldl_enter (entries : List (String × Json)) (found : SortedMap Json × Nat) :
    (entries.foldl enter found).1.size + found.2 = found.1.size + (entries.foldl enter found).2 := by
  induction entries generalizing found with
  | nil => rfl
  | cons e rest ih =>
    have hrest := ih (enter found e)
    rw [List.foldl_cons]
    rw [enter] at hrest ⊢
    split at hrest
    case isTrue hthere =>
      rw [if_pos hthere]
      exact hrest
    case isFalse hnew =>
      rw [if_neg hnew]
      rw [SortedMap.size_insert e.2 (Bool.not_eq_true _ ▸ hnew)] at hrest
      omega

theorem get?_foldl_enter (entries : List (String × Json)) (found : SortedMap Json × Nat) (id : String) :
    (entries.foldl enter found).1.get? id = (found.1.get? id).or (SortedMap.lookup id entries) := by
  induction entries generalizing found with
  | nil => simp [SortedMap.lookup]
  | cons e rest ih =>
    obtain ⟨k, document⟩ := e
    rw [List.foldl_cons, ih, enter]
    split
    case isTrue h =>
      obtain ⟨v, hv⟩ := SortedMap.contains_eq_true_iff.mp h
      by_cases hid : id = k
      · simp [hid, hv]
      · simp [SortedMap.lookup, hid]
    case isFalse h =>
      rw [Bool.not_eq_true, SortedMap.contains_eq_false_iff] at h
      by_cases hid : id = k
      · simp_all [SortedMap.lookup]
      · simp [SortedMap.lookup, hid, SortedMap.get?_insert]

/-- After a commit a container has a document if it is in the set: the one that it had, or else the
first that was fetched for it. -/
theorem get?_commit (r : Reconciliation) (cache : DocumentCache) (id : String) :
    (r.commit cache).1.get? id =
      if r.target.contains id then (cache.get? id).or (SortedMap.lookup id r.fetched) else none := by
  have h := get?_foldl_enter r.fetched (cache.documents, 0) id
  simp only [commit, DocumentCache.get?, SortedMap.get?_filter, h]
  split
  case isTrue hc => cases (cache.documents.get? id).or (SortedMap.lookup id r.fetched) <;> simp [hc, Option.filter]
  case isFalse hc => cases (cache.documents.get? id).or (SortedMap.lookup id r.fetched) <;> simp [hc, Option.filter]

/-! ### The containers without a document -/

/-- The containers that are missing are those listed and not cached, in ascending order. -/
theorem map_fst_missingFrom (cache : DocumentCache) (target : EndpointSet) :
    (missingFrom cache target).map (·.1) = target.endpoints.keys.filter (fun id => !cache.contains id) := by
  simp only [missingFrom, SortedMap.keys, List.map_map, List.filter_map]
  rfl

theorem mem_missingFrom_iff {cache : DocumentCache} {target : EndpointSet} {id url : String} :
    (id, url) ∈ missingFrom cache target ↔ cache.contains id = false ∧ target.primary? id = some url := by
  simp only [missingFrom, EndpointSet.primary?, List.mem_map, List.mem_filter, Option.map_eq_some_iff,
    SortedMap.get?_eq_some_iff, Prod.exists, Prod.mk.injEq]
  constructor
  · rintro ⟨k, urls, ⟨hm, hc⟩, rfl, rfl⟩
    exact ⟨by simpa using hc, urls, hm, rfl⟩
  · rintro ⟨hc, urls, hm, rfl⟩
    exact ⟨id, urls, ⟨hm, by simp [hc]⟩, rfl, rfl⟩

/-- No container is missing twice. -/
theorem nodup_missingFrom (cache : DocumentCache) (target : EndpointSet) :
    ((missingFrom cache target).map Prod.fst).Nodup := by
  rw [map_fst_missingFrom]
  exact (target.endpoints.pairwise_keys.filter _).nodup

/-- **Every document that is fetched is entered**: none is there already. -/
theorem fetched_commit (cache : DocumentCache) (target : EndpointSet) {answers : List (Except FetchError Json)}
    (h : answers.length = (missingFrom cache target).length) :
    ((answers.foldl record (.begin cache target)).commit cache).2.fetched =
      ((callsOf (missingFrom cache target) answers).filterMap FetchCall.entry?).length := by
  have hmissing := map_container_callsOf h
  rw [foldl_record]
  refine (snd_foldl_enter ?_ ?_).trans (Nat.zero_add _)
  · intro e he
    obtain ⟨call, hcall, hentry⟩ := List.mem_filterMap.mp he
    have hmem : (call.id, call.url) ∈ missingFrom cache target := by
      rw [← hmissing]
      exact List.mem_map_of_mem hcall
    rw [← FetchCall.fst_of_entry? hentry]
    exact (mem_missingFrom_iff.mp hmem).1
  · have hids : ((callsOf (missingFrom cache target) answers).map (·.id)).Nodup := by
      have hnodup := nodup_missingFrom cache target
      rwa [← hmissing, List.map_map] at hnodup
    exact hids.sublist (FetchCall.map_fst_entries_sublist _)

/-- **A commit loses no document**: those that were there and those that were fetched are there in the end,
or counted as evicted. -/
theorem size_commit (cache : DocumentCache) (target : EndpointSet) {answers : List (Except FetchError Json)}
    (h : answers.length = (missingFrom cache target).length) {r : Reconciliation}
    (hr : r = answers.foldl record (.begin cache target)) :
    cache.size + r.fetched.length = (r.commit cache).1.size + (r.commit cache).2.evicted := by
  have hfetched : (r.commit cache).2.fetched = r.fetched.length := by
    rw [hr, fetched_commit cache target h, foldl_record]
    rfl
  have hentered := size_foldl_enter r.fetched (cache.documents, 0)
  have hkept : ((r.fetched.foldl enter (cache.documents, 0)).1.filter (fun id _ => r.target.contains id)).size ≤
      (r.fetched.foldl enter (cache.documents, 0)).1.size := List.length_filter_le _ _
  simp only [commit, DocumentCache.size] at hentered hfetched ⊢
  omega

/-! ### The whole of it -/

variable {m : Type → Type} [Monad m] [LawfulMonad m]

/-- The fetches are made one after the other, whatever their answers are. -/
theorem fetchAll_eq (fetch : String → m (Except FetchError Json)) (missing : List (String × String))
    (r : Reconciliation) (metrics : Metrics) :
    fetchAll fetch missing r metrics = (do
      let answers ← missing.mapM (fun e => fetch e.2)
      return (answers.foldl record r, answers.foldl Metrics.countFetch metrics)) := by
  induction missing generalizing r metrics with
  | nil => simp [fetchAll]
  | cons e rest ih => simp [fetchAll, ih]

end Reconciliation

/-- What a reconciliation leaves and how it turns out, given the answers to its fetches. -/
def DocumentCache.reconciledBy (cache : DocumentCache) (metrics : Metrics) (target : EndpointSet)
    (answers : List (Except FetchError Json)) : (DocumentCache × Metrics) × Except SourceError ReconcileStats :=
  let r := answers.foldl Reconciliation.record (.begin cache target)
  let (after, stats) := r.commit cache
  ((after, (answers.foldl Metrics.countFetch metrics).countCommit stats), r.outcome stats)

section

variable (cache : DocumentCache) (metrics : Metrics) (target : EndpointSet)
  (answers : List (Except FetchError Json))

/-- A listed container keeps its document or gets the one that was fetched for it; any other has
none. -/
theorem DocumentCache.get?_reconciledBy (id : String) :
    (cache.reconciledBy metrics target answers).1.1.get? id =
      if target.contains id then
        (cache.get? id).or
          (FetchCall.firstDocument id (Reconciliation.callsOf (Reconciliation.missingFrom cache target) answers))
      else none := by
  simp only [reconciledBy, Reconciliation.foldl_record, Reconciliation.get?_commit]
  simp [Reconciliation.begin, FetchCall.lookup_filterMap_entry?]

theorem DocumentCache.agents_reconciledBy :
    (cache.reconciledBy metrics target answers).1.1.agents = target.agents := by
  simp only [reconciledBy, Reconciliation.foldl_record]
  rfl

/-- The failure of a reconciliation is that of its first fetch that failed. -/
theorem DocumentCache.outcome_reconciledBy (cause : SourceError) :
    (cache.reconciledBy metrics target answers).2 = .error cause ↔
      (Reconciliation.callsOf (Reconciliation.missingFrom cache target) answers).findSome? FetchCall.failure? =
        some cause := by
  simp only [reconciledBy, Reconciliation.foldl_record, Reconciliation.outcome, Reconciliation.begin, Option.none_or]
  cases (Reconciliation.callsOf (Reconciliation.missingFrom cache target) answers).findSome? FetchCall.failure? <;> simp

end

/-- **A reconciliation is its fetches and a function of their answers**: it makes one fetch for each
container that is listed and not cached, from its preferred address, by ascending id. -/
theorem DocumentCache.reconcile_eq {m : Type → Type} [Monad m] [LawfulMonad m]
    (fetch : String → m (Except FetchError Json)) (cache : DocumentCache) (metrics : Metrics)
    (target : EndpointSet) :
    cache.reconcile fetch metrics target = (do
      let answers ← (Reconciliation.missingFrom cache target).mapM (fun e => fetch e.2)
      return cache.reconciledBy metrics target answers) := by
  simp only [reconcile, Reconciliation.fetchAll_eq, bind_assoc, pure_bind]
  rfl

end LogTagger
