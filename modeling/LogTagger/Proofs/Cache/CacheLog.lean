import LogTagger.Proofs.Cache.Interleaving

/-!
# The log of a cache

What can be read off the log of reconciliations at the same time: the commits, the calls that have taken the
gate and those that have returned, the requests, and what the last commit left. `Told` says what an event tells
of those before it. If a container is cached at one time and not at a later one, a commit in between has
evicted it (`exists_eviction`).
-/

namespace LogTagger

namespace CacheEvent

/-- The commit that an event is. -/
@[simp] def commit? : CacheEvent → Option CommitRecord
  | .committed c => some c
  | _ => none

/-- The call that takes the gate in an event. -/
@[simp] def entered? : CacheEvent → Option Nat
  | .entered call => some call
  | _ => none

/-- The call that returns in an event, with its outcome. -/
@[simp] def returned? : CacheEvent → Option (Nat × Except SourceError ReconcileStats)
  | .returned call outcome => some (call, outcome)
  | _ => none

/-- The fetch that is answered in an event. -/
@[simp] def fetch? : CacheEvent → Option FetchCall
  | .fetched _ f => some f
  | _ => none

/-- The fetch of a call that is answered in an event. -/
@[simp] def fetchOf? (call : Nat) : CacheEvent → Option FetchCall
  | .fetched call' f => if call' = call then some f else none
  | _ => none

end CacheEvent

namespace CacheLog

/-- The commits. -/
def commits (log : List CacheEvent) : List CommitRecord := log.filterMap CacheEvent.commit?

/-- The calls that have taken the gate, in order. -/
def entered (log : List CacheEvent) : List Nat := log.filterMap CacheEvent.entered?

/-- The calls that have returned with their outcomes, in order. -/
def returned (log : List CacheEvent) : List (Nat × Except SourceError ReconcileStats) :=
  log.filterMap CacheEvent.returned?

/-- The requests that have been answered, in order. -/
def requests (log : List CacheEvent) : List Request := (log.filterMap CacheEvent.fetch?).map FetchCall.request

/-- The fetches of a call that have been answered, in order. -/
def fetchesOf (call : Nat) (log : List CacheEvent) : List FetchCall := log.filterMap (CacheEvent.fetchOf? call)

/-- What the last commit left, or what there was at first. -/
def lastState (start : DocumentCache × Metrics) (log : List CacheEvent) : DocumentCache × Metrics :=
  lastLeft start ((commits log).map CommitRecord.reconciled)

variable {start : DocumentCache × Metrics} {log : List CacheEvent} {e : CacheEvent}

@[simp] theorem commits_append (l r : List CacheEvent) : commits (l ++ r) = commits l ++ commits r :=
  List.filterMap_append

@[simp] theorem entered_append (l r : List CacheEvent) : entered (l ++ r) = entered l ++ entered r :=
  List.filterMap_append

@[simp] theorem returned_append (l r : List CacheEvent) : returned (l ++ r) = returned l ++ returned r :=
  List.filterMap_append

@[simp] theorem requests_append (l r : List CacheEvent) : requests (l ++ r) = requests l ++ requests r := by
  rw [requests, List.filterMap_append, List.map_append, requests, requests]

@[simp] theorem fetchesOf_append (call : Nat) (l r : List CacheEvent) :
    fetchesOf call (l ++ r) = fetchesOf call l ++ fetchesOf call r := List.filterMap_append

@[simp] theorem commits_singleton : commits [e] = e.commit?.toList := by
  cases e <;> rfl

@[simp] theorem entered_singleton : entered [e] = e.entered?.toList := by
  cases e <;> rfl

@[simp] theorem returned_singleton : returned [e] = e.returned?.toList := by
  cases e <;> rfl

@[simp] theorem requests_singleton : requests [e] = e.fetch?.toList.map FetchCall.request := by
  cases e <;> rfl

@[simp] theorem fetchesOf_singleton (call : Nat) : fetchesOf call [e] = (e.fetchOf? call).toList := by
  cases e with
  | fetched call' f => by_cases h : call' = call <;> simp [fetchesOf, h]
  | _ => rfl

theorem mem_fetchesOf_iff {call : Nat} {f : FetchCall} : f ∈ fetchesOf call log ↔ .fetched call f ∈ log := by
  rw [fetchesOf, List.mem_filterMap]
  constructor
  · rintro ⟨e, he, hf⟩
    cases e with
    | fetched call' f' =>
      rw [CacheEvent.fetchOf?] at hf
      split at hf
      case isTrue hcall => exact hcall ▸ Option.some.inj hf ▸ he
      case isFalse => cases hf
    | _ => cases hf
  · exact fun h => ⟨_, h, if_pos rfl⟩

/-- Events other than commits leave what the last commit left. -/
theorem lastState_append_of_nil {later : List CacheEvent} (h : commits later = []) :
    lastState start (log ++ later) = lastState start log := by
  rw [lastState, commits_append, h, List.append_nil, lastState]

theorem lastState_concat_committed (c : CommitRecord) : lastState start (log ++ [.committed c]) = c.left := by
  simp [lastState, CommitRecord.reconciled]

/-- What stands in a log with one more event stands before it, or is that event. -/
theorem concat_eq_append_cons {before after : List CacheEvent} {e' : CacheEvent}
    (h : log ++ [e] = before ++ e' :: after) :
    (∃ after', after = after' ++ [e] ∧ log = before ++ e' :: after') ∨ (after = [] ∧ log = before ∧ e = e') := by
  rcases List.eq_nil_or_concat after with rfl | ⟨after', last, rfl⟩
  · obtain ⟨rfl, hlast⟩ := List.append_inj' h rfl
    exact .inr ⟨rfl, rfl, List.singleton_inj.mp hlast⟩
  · rw [List.concat_eq_append, ← List.cons_append, ← List.append_assoc] at h
    obtain ⟨hlog, hlast⟩ := List.append_inj' h rfl
    exact .inl ⟨after', by rw [List.concat_eq_append, ← List.singleton_inj.mp hlast], hlog⟩

/-- If a container is cached and no longer is, a commit in between has evicted it. -/
theorem exists_eviction {id : String} {between : List CacheEvent}
    (hbefore : (lastState start log).1.contains id = true)
    (hafter : (lastState start (log ++ between)).1.contains id = false) :
    ∃ m c m', between = m ++ .committed c :: m' ∧ (lastState start (log ++ m)).1.contains id = true ∧
      c.left.1.contains id = false := by
  induction between using List.reverseRecOn with
  | nil =>
    rw [List.append_nil, hbefore] at hafter
    cases hafter
  | append_singleton m e ih =>
    cases hm : (lastState start (log ++ m)).1.contains id with
    | false =>
      obtain ⟨m₁, c, m₂, rfl, hcached, hevicted⟩ := ih hm
      exact ⟨m₁, c, m₂ ++ [e], by simp, hcached, hevicted⟩
    | true =>
      cases e with
      | committed c =>
        rw [← List.append_assoc, lastState_concat_committed] at hafter
        exact ⟨m, c, [], rfl, hm, hafter⟩
      | _ =>
        rw [← List.append_assoc, lastState_append_of_nil rfl, hm] at hafter
        cases hafter

/-- Events that are nothing but look-ups. -/
structure Quiet (later : List CacheEvent) : Prop where
  commits : commits later = []
  entered : entered later = []
  returned : returned later = []
  requests : requests later = []
  fetchesOf : ∀ call, fetchesOf call later = []

theorem Quiet.nil : Quiet [] := ⟨rfl, rfl, rfl, rfl, fun _ => rfl⟩

theorem Quiet.found (id : String) (document : Option Json) : Quiet [.found id document] :=
  ⟨rfl, rfl, rfl, rfl, fun _ => rfl⟩

theorem Quiet.agent (id : String) (isAgent : Bool) : Quiet [.agent id isAgent] := ⟨rfl, rfl, rfl, rfl, fun _ => rfl⟩

/-- What an event tells of what was before it. -/
def Told (start : DocumentCache × Metrics) (before : List CacheEvent) : CacheEvent → Prop
  -- A look-up finds what the last commit left.
  | .found id document => document = (lastState start before).1.get? id
  | .agent id isAgent => isAgent = (lastState start before).1.isAgent id
  -- A commit enters every document that was fetched, and none of them was there.
  | .committed c => c.stats.fetched = ((fetchesOf c.call before).filterMap FetchCall.entry?).length ∧
      ∀ f ∈ fetchesOf c.call before, ∀ document, f.answer = .ok document →
        (lastState start before).1.contains f.id = false ∧ c.left.1.get? f.id = some document
  -- A container for which another call has fetched a document has been evicted since by a commit.
  | .fetched call f => ∀ earlier call' f' between, before = earlier ++ .fetched call' f' :: between → call' ≠ call →
      f'.id = f.id → f'.answer.isOk = true →
        ∃ m c m', between = m ++ .committed c :: m' ∧
          (lastState start (earlier ++ .fetched call' f' :: m)).1.contains f.id = true ∧ c.left.1.contains f.id = false
  | .entered _ | .returned _ _ => True

end CacheLog

end LogTagger
