import LogTagger.Proofs.Cache.SyncRun

/-!
# Reconciliations one after the other

Several reconciliations of one cache, each beginning where the one before it ended
(`DocumentCache.reconcileAll`). When the fetches take their answers from a list, one after the other, each
reconciliation takes as many as there are containers that it misses (`Script.run_reconcile`), and one more
reconciliation goes on with the answers that are left (`Script.run_reconcileAll_concat`).
-/

namespace LogTagger

/-- What a reconciliation leaves, and its outcome. -/
abbrev Reconciled := (DocumentCache × Metrics) × Except SourceError ReconcileStats

/-- Reconciliations one after the other. -/
def DocumentCache.reconcileAll {m : Type → Type} [Monad m] (fetch : String → m (Except FetchError Json)) :
    DocumentCache × Metrics → List EndpointSet → m (List Reconciled)
  | _, [] => return []
  | start, target :: rest => do
    let left ← start.1.reconcile fetch start.2 target
    let later ← reconcileAll fetch left.1 rest
    return left :: later

/-- What the last of some reconciliations left, or what there was before them. -/
def lastLeft (start : DocumentCache × Metrics) (done : List Reconciled) : DocumentCache × Metrics :=
  (done.getLast?.map Prod.fst).getD start

theorem lastLeft_cons (start : DocumentCache × Metrics) (left : Reconciled) (done : List Reconciled) :
    lastLeft start (left :: done) = lastLeft left.1 done := by
  cases done with
  | nil => rfl
  | cons next rest => simp [lastLeft, List.getLast?_cons]

@[simp] theorem lastLeft_concat (start : DocumentCache × Metrics) (done : List Reconciled) (left : Reconciled) :
    lastLeft start (done ++ [left]) = left.1 := by
  simp [lastLeft]

/-- Answers that are still to be given, with the requests that have been answered. -/
structure Script where
  /-- The answers that are left. -/
  answers : List (Except FetchError Json)
  /-- The requests, in order. -/
  requests : List Request := []

namespace Script

/-- Answers a fetch by the first answer that is left, and writes the request down. -/
def ask (url : String) : StateM Script (Except FetchError Json) := do
  match ← get with
  | ⟨[], _⟩ => return .error (.request "no answer is left")
  | ⟨answer :: rest, requests⟩ =>
    set (Script.mk rest (requests ++ [(url, answer)]))
    return answer

theorem run_mapM_ask (missing : List (String × String)) {answers : List (Except FetchError Json)}
    (h : answers.length = missing.length) (later : List (Except FetchError Json)) (requests : List Request) :
    (missing.mapM (fun e => ask e.2)).run ⟨answers ++ later, requests⟩ =
      (answers, ⟨later, requests ++ (Reconciliation.callsOf missing answers).map FetchCall.request⟩) := by
  induction missing generalizing answers requests with
  | nil =>
    obtain rfl := List.length_eq_zero_iff.mp h
    simp [Reconciliation.callsOf]
    rfl
  | cons e rest ih =>
    obtain ⟨answer, left, rfl⟩ := List.exists_cons_of_length_eq_add_one h
    rw [List.mapM_cons]
    change (let p := (rest.mapM (fun e => ask e.2)).run ⟨left ++ later, requests ++ [(e.2, answer)]⟩
      (answer :: p.1, p.2)) = _
    rw [ih (Nat.succ.inj h)]
    simp [Reconciliation.callsOf, FetchCall.request]

/-- A reconciliation takes an answer for each container that it misses. -/
theorem run_reconcile (cache : DocumentCache) (metrics : Metrics) (target : EndpointSet)
    {answers : List (Except FetchError Json)} (h : answers.length = (Reconciliation.missingFrom cache target).length)
    (later : List (Except FetchError Json)) (requests : List Request) :
    (cache.reconcile ask metrics target).run ⟨answers ++ later, requests⟩ =
      (cache.reconciledBy metrics target answers,
        ⟨later, requests ++
          (Reconciliation.callsOf (Reconciliation.missingFrom cache target) answers).map FetchCall.request⟩) := by
  rw [DocumentCache.reconcile_eq]
  change (let p := ((Reconciliation.missingFrom cache target).mapM (fun e => ask e.2)).run ⟨answers ++ later, requests⟩
    (cache.reconciledBy metrics target p.1, p.2)) = _
  rw [run_mapM_ask _ h]

/-- One more reconciliation goes on where the others have ended. -/
theorem run_reconcileAll_concat (start : DocumentCache × Metrics) (targets : List EndpointSet) (target : EndpointSet)
    (script : Script) :
    (DocumentCache.reconcileAll ask start (targets ++ [target])).run script =
      let done := (DocumentCache.reconcileAll ask start targets).run script
      let left := ((lastLeft start done.1).1.reconcile ask (lastLeft start done.1).2 target).run done.2
      (done.1 ++ [left.1], left.2) := by
  induction targets generalizing start script with
  | nil => rfl
  | cons first rest ih =>
    have hcons : ∀ targets : List EndpointSet, (DocumentCache.reconcileAll ask start (first :: targets)).run script =
        (let left := (start.1.reconcile ask start.2 first).run script
        let later := (DocumentCache.reconcileAll ask left.1.1 targets).run left.2
        (left.1 :: later.1, later.2)) := fun _ => rfl
    simp only [List.cons_append, hcons, ih, lastLeft_cons]

end Script

end LogTagger
