import LogTagger.Proofs.Cache.Reconciliation
import Mathlib.Data.List.DropRight

/-!
# Runs of synchronisation

A cycle of synchronisation asks for the endpoints and, if it gets them, reconciles the cache with
them. This module runs any number of cycles from the empty cache, with any answers: each search for
endpoints gives any set or fails, and each fetch gives any document or fails, also otherwise than a
fetch from the same address before. Every cycle is written down with the requests that it made.

**`ofAnswers_consistent`** says what holds after every such run (`SyncRun.Consistent`). Its core is
`SyncRun.Consistent.provenance`: the cache is a function of the history, for each container the first
document that was fetched for it since it last appeared. That is kept by a cycle
(`provenance_of_append`), because a cycle never fetches what is cached, and a container that is not
listed loses both its document and its history.
-/

namespace LogTagger

/-- One cycle of synchronisation. Without endpoints nothing changes. -/
def DocumentCache.syncOnce {m : Type → Type} [Monad m] (discover : m (Except SourceError EndpointSet))
    (fetch : String → m (Except FetchError Json)) (cache : DocumentCache) (metrics : Metrics) :
    m ((DocumentCache × Metrics) × Except SourceError ReconcileStats) := do
  match ← discover with
  | .error cause => return ((cache, metrics), .error cause)
  | .ok target => cache.reconcile fetch metrics target

/-- A request for a document, with its answer. -/
abbrev Request := String × Except FetchError Json

/-- The request of a fetch. -/
def FetchCall.request (c : FetchCall) : Request := (c.url, c.answer)

/-- What a cycle is answered. -/
structure CycleAnswers where
  /-- What the search for endpoints gives. -/
  discovery : Except SourceError EndpointSet
  /-- What a fetch gives, by its place among those of the cycle and by the address. -/
  fetch : Nat → String → Except FetchError Json

namespace CycleAnswers

/-- Answers a fetch and writes the request down. -/
def ask (a : CycleAnswers) (url : String) : StateM (List Request) (Except FetchError Json) := do
  let requests ← get
  let answer := a.fetch requests.length url
  set (requests ++ [(url, answer)])
  return answer

/-- The answers to the fetches for some containers, of which the first has place `n`. -/
def answersFrom (a : CycleAnswers) : Nat → List (String × String) → List (Except FetchError Json)
  | _, [] => []
  | n, e :: rest => a.fetch n e.2 :: a.answersFrom (n + 1) rest

@[simp] theorem length_answersFrom (a : CycleAnswers) (n : Nat) (missing : List (String × String)) :
    (a.answersFrom n missing).length = missing.length := by
  induction missing generalizing n with
  | nil => rfl
  | cons e rest ih => simp [answersFrom, ih]

/-- Fetches made one after the other get these answers and are written down in order. -/
theorem run_mapM_ask (a : CycleAnswers) (missing : List (String × String)) (requests : List Request) :
    (missing.mapM (fun e => a.ask e.2)).run requests =
      let answers := a.answersFrom requests.length missing
      (answers, requests ++ (Reconciliation.callsOf missing answers).map FetchCall.request) := by
  induction missing generalizing requests with
  | nil => simp [answersFrom, Reconciliation.callsOf]; rfl
  | cons e rest ih =>
    have hrest := ih (requests ++ [(e.2, a.fetch requests.length e.2)])
    rw [List.length_append, List.length_singleton] at hrest
    rw [List.mapM_cons]
    change (let p := (rest.mapM (fun e => a.ask e.2)).run (requests ++ [(e.2, a.fetch requests.length e.2)])
      (a.fetch requests.length e.2 :: p.1, p.2)) = _
    rw [hrest]
    simp [answersFrom, Reconciliation.callsOf, FetchCall.request]

/-- Without endpoints a cycle asks for nothing. -/
theorem run_syncOnce_of_error (a : CycleAnswers) (cache : DocumentCache) (metrics : Metrics) {cause : SourceError}
    (h : a.discovery = .error cause) :
    (cache.syncOnce (pure a.discovery) a.ask metrics).run [] = (((cache, metrics), .error cause), []) := by
  rw [DocumentCache.syncOnce, h]
  rfl

/-- With endpoints it makes one fetch for each container that is missing. -/
theorem run_syncOnce_of_ok (a : CycleAnswers) (cache : DocumentCache) (metrics : Metrics) {target : EndpointSet}
    (h : a.discovery = .ok target) :
    (cache.syncOnce (pure a.discovery) a.ask metrics).run [] =
      let missing := Reconciliation.missingFrom cache target
      let answers := a.answersFrom 0 missing
      (cache.reconciledBy metrics target answers, (Reconciliation.callsOf missing answers).map FetchCall.request) := by
  have hrun : (cache.reconcile a.ask metrics target).run [] =
      (let p := ((Reconciliation.missingFrom cache target).mapM (fun e => a.ask e.2)).run []
      (cache.reconciledBy metrics target p.1, p.2)) := by
    rw [DocumentCache.reconcile_eq]
    rfl
  rw [DocumentCache.syncOnce, h, pure_bind]
  change (cache.reconcile a.ask metrics target).run [] = _
  rw [hrun, run_mapM_ask]
  simp

end CycleAnswers

/-! ### Histories -/

/-- A cycle as it went. -/
structure SyncCycle where
  /-- The cache at its beginning. -/
  before : DocumentCache
  /-- What the search for endpoints gave. -/
  discovery : Except SourceError EndpointSet
  /-- The requests for documents, in the order in which they were made. -/
  requests : List Request
  /-- How it turned out. -/
  outcome : Except SourceError ReconcileStats
  /-- The cache at its end. -/
  after : DocumentCache

namespace SyncCycle

/-- The fetches of a cycle with the containers for which they were made: the first request was for the
first container that was missing, and so on. -/
def calls (c : SyncCycle) : List FetchCall :=
  match c.discovery with
  | .error _ => []
  | .ok target => Reconciliation.callsOf (Reconciliation.missingFrom c.before target) (c.requests.map (·.2))

/-- Whether a container stays present in a cycle: a search for endpoints that fails says nothing. -/
def keeps (id : String) (c : SyncCycle) : Bool :=
  match c.discovery with
  | .error _ => true
  | .ok target => target.contains id

end SyncCycle

/-- Cycles of synchronisation, and what they have come to. -/
structure SyncRun where
  /-- The cache. -/
  cache : DocumentCache := {}
  /-- The metrics. -/
  metrics : Metrics := {}
  /-- The cycles so far, in order. -/
  cycles : List SyncCycle := []

namespace SyncRun

/-- The run with one more cycle. -/
def next (run : SyncRun) (a : CycleAnswers) : SyncRun :=
  let (((cache, metrics), outcome), requests) :=
    (run.cache.syncOnce (pure a.discovery) a.ask run.metrics).run []
  let cycle := { before := run.cache, discovery := a.discovery, requests, outcome, after := cache }
  { cache, metrics, cycles := run.cycles ++ [cycle] }

/-- The run from the empty cache whose cycles are answered in turn. -/
def ofAnswers (answers : List CycleAnswers) : SyncRun := answers.foldl next {}

/-- The set that the last successful search for endpoints gave. -/
def lastFound (run : SyncRun) : Option EndpointSet :=
  run.cycles.foldl (fun found c => c.discovery.toOption.or found) none

/-- The fetches for any container in the cycles since the given one last appeared: in the longest
closing stretch of cycles in which it stayed present. -/
def callsSinceAppearance (run : SyncRun) (id : String) : List FetchCall :=
  (run.cycles.rtakeWhile (SyncCycle.keeps id)).flatMap SyncCycle.calls

/-! ### One cycle -/

/-- Without endpoints a cycle leaves everything as it was. -/
theorem next_of_error (run : SyncRun) {a : CycleAnswers} {cause : SourceError} (h : a.discovery = .error cause) :
    run.next a =
      { run with cycles := run.cycles ++ [⟨run.cache, .error cause, [], .error cause, run.cache⟩] } := by
  rw [next, a.run_syncOnce_of_error run.cache run.metrics h, h]

/-- With endpoints a cycle makes one fetch for each container that is missing and reconciles the cache
with the answers. -/
theorem next_of_ok (run : SyncRun) {a : CycleAnswers} {target : EndpointSet} (h : a.discovery = .ok target) :
    run.next a =
      let missing := Reconciliation.missingFrom run.cache target
      let answers := a.answersFrom 0 missing
      let left := run.cache.reconciledBy run.metrics target answers
      let requests := (Reconciliation.callsOf missing answers).map FetchCall.request
      { cache := left.1.1, metrics := left.1.2,
        cycles := run.cycles ++ [⟨run.cache, .ok target, requests, left.2, left.1.1⟩] } := by
  rw [next, a.run_syncOnce_of_ok run.cache run.metrics h, h]

end SyncRun

/-- What one cycle does. -/
structure SyncCycle.Sound (c : SyncCycle) : Prop where
  /-- Without endpoints it leaves the cache as it was, asks for nothing and fails. -/
  of_error : ∀ cause, c.discovery = .error cause →
    c.after = c.before ∧ c.requests = [] ∧ c.outcome = .error cause
  /-- Its requests are those of its fetches. -/
  requests_eq : c.requests = c.calls.map FetchCall.request
  /-- It fetches for the containers that are listed and not cached, from their preferred addresses. -/
  containers : ∀ target, c.discovery = .ok target →
    c.calls.map (fun call => (call.id, call.url)) = Reconciliation.missingFrom c.before target
  /-- It replaces the agents. -/
  agents : ∀ target, c.discovery = .ok target → c.after.agents = target.agents
  /-- It keeps, enters and evicts documents. -/
  documents : ∀ target, c.discovery = .ok target → ∀ id, c.after.get? id =
    if target.contains id then (c.before.get? id).or (FetchCall.firstDocument id c.calls) else none
  /-- It fails as its first fetch that failed. -/
  outcome : ∀ target, c.discovery = .ok target → ∀ cause,
    c.outcome = .error cause ↔ c.calls.findSome? FetchCall.failure? = some cause

namespace SyncCycle

theorem sound_of_error (cache : DocumentCache) (cause : SourceError) :
    Sound ⟨cache, .error cause, [], .error cause, cache⟩ := by
  constructor <;> simp [calls]

/-- When every fetch is answered, the fetches are what the requests say. -/
theorem calls_of_answers (cache : DocumentCache) (target : EndpointSet) {answers : List (Except FetchError Json)}
    (h : answers.length = (Reconciliation.missingFrom cache target).length)
    (outcome : Except SourceError ReconcileStats) (after : DocumentCache) :
    calls ⟨cache, .ok target,
      (Reconciliation.callsOf (Reconciliation.missingFrom cache target) answers).map FetchCall.request, outcome,
        after⟩ = Reconciliation.callsOf (Reconciliation.missingFrom cache target) answers := by
  have hsnd : (Reconciliation.callsOf (Reconciliation.missingFrom cache target) answers).map
      (Prod.snd ∘ FetchCall.request) = answers := Reconciliation.map_answer_callsOf h
  simp only [calls, List.map_map, hsnd]

/-- A cycle that fetches for each container that is missing and reconciles the cache with the answers. -/
theorem sound_of_answers (cache : DocumentCache) (metrics : Metrics) (target : EndpointSet)
    {answers : List (Except FetchError Json)}
    (h : answers.length = (Reconciliation.missingFrom cache target).length) :
    Sound ⟨cache, .ok target,
      (Reconciliation.callsOf (Reconciliation.missingFrom cache target) answers).map FetchCall.request,
      (cache.reconciledBy metrics target answers).2, (cache.reconciledBy metrics target answers).1.1⟩ := by
  have hcalls := calls_of_answers cache target h
  constructor
  · simp
  · rw [hcalls]
  · simp only [Except.ok.injEq, forall_eq', hcalls]
    exact Reconciliation.map_container_callsOf h
  · simp only [Except.ok.injEq, forall_eq']
    exact cache.agents_reconciledBy metrics target answers
  · simp only [Except.ok.injEq, forall_eq', hcalls]
    exact cache.get?_reconciledBy metrics target answers
  · simp only [Except.ok.injEq, forall_eq', hcalls]
    exact cache.outcome_reconciledBy metrics target answers

end SyncCycle

namespace SyncRun

/-- What a run does next is one sound cycle from where it stands. -/
theorem exists_cycle_next (run : SyncRun) (a : CycleAnswers) :
    ∃ c : SyncCycle, c.Sound ∧ c.before = run.cache ∧ c.discovery = a.discovery ∧
      c.after = (run.next a).cache ∧ (run.next a).cycles = run.cycles ++ [c] := by
  cases h : a.discovery with
  | error cause =>
    rw [next_of_error run h]
    exact ⟨_, SyncCycle.sound_of_error run.cache cause, rfl, rfl, rfl, rfl⟩
  | ok target =>
    rw [next_of_ok run h]
    have hlen := a.length_answersFrom 0 (Reconciliation.missingFrom run.cache target)
    exact ⟨_, SyncCycle.sound_of_answers run.cache run.metrics target hlen, rfl, rfl, rfl, rfl⟩

end SyncRun

/-! ### Cycles one after the other -/

/-- Each cycle begins with the cache with which the one before it ended. -/
def Linked : DocumentCache → List SyncCycle → DocumentCache → Prop
  | first, [], last => first = last
  | first, c :: rest, last => c.before = first ∧ Linked c.after rest last

theorem linked_append {first last : DocumentCache} {l r : List SyncCycle} :
    Linked first (l ++ r) last ↔ ∃ middle, Linked first l middle ∧ Linked middle r last := by
  induction l generalizing first with
  | nil => simp [Linked]
  | cons c rest ih => simp [Linked, ih, and_assoc]

namespace SyncCycle

variable {c : SyncCycle} {id : String} {document : Json}

/-- The fetches of a cycle are for containers without a document. -/
theorem Sound.not_cached (h : c.Sound) {call : FetchCall} (hcall : call ∈ c.calls) :
    c.before.contains call.id = false := by
  cases hd : c.discovery with
  | error cause => simp [calls, hd] at hcall
  | ok target =>
    have hm : (call.id, call.url) ∈ Reconciliation.missingFrom c.before target := by
      rw [← h.containers target hd]
      exact List.mem_map_of_mem hcall
    exact (Reconciliation.mem_missingFrom_iff.mp hm).1

/-- A cycle in which a container stays present neither changes its document nor fetches it again. -/
theorem Sound.keeps_document (h : c.Sound) (hkeeps : c.keeps id = true) (hc : c.before.get? id = some document) :
    c.after.get? id = some document ∧ ∀ call ∈ c.calls, call.id ≠ id := by
  constructor
  · cases hd : c.discovery with
    | error cause => rw [(h.of_error cause hd).1, hc]
    | ok target =>
      simp only [keeps, hd] at hkeeps
      rw [h.documents target hd, if_pos hkeeps, hc, Option.some_or]
  · rintro call hcall rfl
    have := SortedMap.contains_eq_false_iff.mp (h.not_cached hcall)
    exact absurd (hc.symm.trans this) (by simp)

/-- The same over any number of cycles. -/
theorem keeps_document_of_linked {first last : DocumentCache} {cycles : List SyncCycle}
    (hsound : ∀ c ∈ cycles, c.Sound) (hlinked : Linked first cycles last)
    (hkeeps : ∀ c ∈ cycles, c.keeps id = true) (hc : first.get? id = some document) :
    ∀ c ∈ cycles, c.after.get? id = some document ∧ ∀ call ∈ c.calls, call.id ≠ id := by
  induction cycles generalizing first with
  | nil => simp
  | cons c rest ih =>
    obtain ⟨rfl, hrest⟩ := hlinked
    simp only [List.mem_cons, forall_eq_or_imp] at hsound hkeeps ⊢
    have hnow := hsound.1.keeps_document hkeeps.1 hc
    exact ⟨hnow, ih hsound.2 hrest hkeeps.2 hnow.1⟩

end SyncCycle

namespace SyncRun

/-- What a cycle keeps, and from which all else follows. -/
structure Inv (run : SyncRun) : Prop where
  /-- Every cycle does what one cycle does. -/
  sound : ∀ c ∈ run.cycles, c.Sound
  /-- The cycles lead from the empty cache to that of the run. -/
  linked : Linked {} run.cycles run.cache
  /-- Only containers of the set that was found last have documents. -/
  listed : ∀ id, run.cache.contains id = true → ∃ target, run.lastFound = some target ∧ target.contains id = true
  /-- The agents are those of the set that was found last. -/
  agents : run.cache.agents = (run.lastFound.map (·.agents)).getD ∅
  /-- The cache is a function of the history. -/
  provenance : ∀ id, run.cache.get? id = FetchCall.firstDocument id (run.callsSinceAppearance id)

theorem Inv.empty : Inv {} where
  sound := by simp
  linked := rfl
  listed := by simp [DocumentCache.contains]
  agents := rfl
  provenance := fun _ => rfl

section

variable {run next : SyncRun} {c : SyncCycle}

theorem lastFound_of_append (h : next.cycles = run.cycles ++ [c]) :
    next.lastFound = c.discovery.toOption.or run.lastFound := by
  simp [lastFound, h]

theorem callsSinceAppearance_of_append (h : next.cycles = run.cycles ++ [c]) (id : String) :
    next.callsSinceAppearance id =
      if c.keeps id = true then run.callsSinceAppearance id ++ c.calls else [] := by
  rw [callsSinceAppearance, h, List.rtakeWhile_concat]
  split <;> simp [callsSinceAppearance]

/-- A cycle adds to the history of a container exactly what it adds to the cache. -/
theorem provenance_of_append (h : next.cycles = run.cycles ++ [c]) (hs : c.Sound) (hb : c.before = run.cache)
    (ha : c.after = next.cache) {id : String}
    (ih : run.cache.get? id = FetchCall.firstDocument id (run.callsSinceAppearance id)) :
    next.cache.get? id = FetchCall.firstDocument id (next.callsSinceAppearance id) := by
  rw [callsSinceAppearance_of_append h, ← ha]
  cases hd : c.discovery with
  | error cause =>
    have hcalls : c.calls = [] := by simp [SyncCycle.calls, hd]
    rw [(hs.of_error cause hd).1, hb, ih, hcalls]
    simp [SyncCycle.keeps, hd]
  | ok target =>
    rw [hs.documents target hd, hb, ih]
    simp only [SyncCycle.keeps, hd]
    split
    · rw [FetchCall.firstDocument_append]
    · rfl

end

/-- One more cycle keeps the invariant. -/
theorem Inv.next {run : SyncRun} (h : run.Inv) (a : CycleAnswers) : (run.next a).Inv := by
  obtain ⟨c, hs, hb, -, ha, hcycles⟩ := run.exists_cycle_next a
  have hlast := lastFound_of_append hcycles
  constructor
  case sound =>
    intro d hd
    rw [hcycles, List.mem_append, List.mem_singleton] at hd
    rcases hd with hd | rfl
    · exact h.sound d hd
    · exact hs
  case linked =>
    rw [hcycles, linked_append]
    exact ⟨run.cache, h.linked, hb, ha⟩
  case listed =>
    intro id hid
    rw [hlast]
    cases hd : c.discovery with
    | error cause =>
      rw [← ha, (hs.of_error cause hd).1, hb] at hid
      exact h.listed id hid
    | ok target =>
      refine ⟨target, rfl, ?_⟩
      obtain ⟨document, hdoc⟩ := SortedMap.contains_eq_true_iff.mp hid
      by_contra hc
      have hnone := hs.documents target hd id
      rw [if_neg hc, ha] at hnone
      exact absurd (hdoc.symm.trans hnone) (by simp)
  case agents =>
    rw [hlast, ← ha]
    cases hd : c.discovery with
    | error cause =>
      rw [(hs.of_error cause hd).1, hb]
      exact h.agents
    | ok target => exact hs.agents target hd
  case provenance => exact fun id => provenance_of_append hcycles hs hb ha (h.provenance id)

theorem inv_ofAnswers (answers : List CycleAnswers) : (ofAnswers answers).Inv := by
  induction answers using List.reverseRecOn with
  | nil => exact .empty
  | append_singleton earlier a ih =>
    rw [ofAnswers, List.foldl_append]
    exact ih.next a

/-- What holds after any number of cycles. -/
structure Consistent (run : SyncRun) : Prop where
  /-- The first cycle begins with the empty cache, each other one with the cache with which the one
  before it ended, and the cache of the run is that with which the last one ended. -/
  linked : Linked {} run.cycles run.cache
  /-- Only containers of the set that was found last have documents. -/
  listed : ∀ id, run.cache.contains id = true → ∃ target, run.lastFound = some target ∧ target.contains id = true
  /-- The agents are those of the set that was found last. -/
  agents : run.cache.agents = (run.lastFound.map (·.agents)).getD ∅
  /-- A cycle without endpoints changes nothing and asks for nothing. -/
  unfound : ∀ c ∈ run.cycles, ∀ cause, c.discovery = .error cause →
    c.after = c.before ∧ c.requests = [] ∧ c.outcome = .error cause
  /-- While a container stays present its document never changes and is never fetched again. -/
  fetched_once : ∀ earlier c later rest id document, run.cycles = earlier ++ c :: (later ++ rest) →
    c.after.get? id = some document → (∀ d ∈ later, d.keeps id = true) →
      ∀ d ∈ later, d.after.get? id = some document ∧ ∀ call ∈ d.calls, call.id ≠ id
  /-- The document of a container is the first that was fetched for it since it last appeared. -/
  provenance : ∀ id, run.cache.get? id = FetchCall.firstDocument id (run.callsSinceAppearance id)
  /-- It was fetched from the first address listed in the cycle that fetched it. -/
  source : ∀ id document, run.cache.get? id = some document →
    ∃ c ∈ run.cycles.rtakeWhile (SyncCycle.keeps id), ∃ target, c.discovery = .ok target ∧
      ∃ call ∈ c.calls, call.id = id ∧ target.primary? id = some call.url ∧ call.answer = .ok document
  /-- With endpoints a cycle requests one document for each container that is listed and not cached, by
  ascending id and from its first address, however the other requests turn out. -/
  fetches : ∀ c ∈ run.cycles, ∀ target, c.discovery = .ok target →
    c.requests = c.calls.map FetchCall.request ∧
      c.calls.map (·.id) = target.endpoints.keys.filter (fun id => !c.before.contains id) ∧
      (c.calls.map (·.id)).Pairwise (· < ·) ∧
      (∀ call ∈ c.calls, target.primary? call.id = some call.url) ∧
      (∀ id, c.after.contains id = true ↔ target.contains id = true ∧
        (c.before.contains id = true ∨ ∃ call ∈ c.calls, call.id = id ∧ call.answer.isOk = true)) ∧
      ∀ cause, c.outcome = .error cause ↔ c.calls.findSome? FetchCall.failure? = some cause

end SyncRun

namespace SyncCycle

variable {c : SyncCycle} {target : EndpointSet}

theorem Sound.primary?_of_mem (h : c.Sound) (hd : c.discovery = .ok target) {call : FetchCall}
    (hcall : call ∈ c.calls) : target.primary? call.id = some call.url := by
  have hm : (call.id, call.url) ∈ Reconciliation.missingFrom c.before target := by
    rw [← h.containers target hd]
    exact List.mem_map_of_mem hcall
  exact (Reconciliation.mem_missingFrom_iff.mp hm).2

theorem Sound.map_id_calls (h : c.Sound) (hd : c.discovery = .ok target) :
    c.calls.map (·.id) = target.endpoints.keys.filter (fun id => !c.before.contains id) := by
  rw [← Reconciliation.map_fst_missingFrom, ← h.containers target hd, List.map_map]
  rfl

theorem Sound.nodup_id_calls (h : c.Sound) (hd : c.discovery = .ok target) : (c.calls.map (·.id)).Nodup := by
  rw [h.map_id_calls hd]
  exact (target.endpoints.pairwise_keys.filter _).nodup

/-- There is one fetch for a container at most. -/
theorem Sound.eq_of_id_eq (h : c.Sound) (hd : c.discovery = .ok target) {call call' : FetchCall}
    (hcall : call ∈ c.calls) (hcall' : call' ∈ c.calls) (hid : call.id = call'.id) : call = call' :=
  List.inj_on_of_nodup_map (h.nodup_id_calls hd) hcall hcall' hid

/-- Every document that is fetched is entered and kept. -/
theorem Sound.get?_after_of_fetched (h : c.Sound) (hd : c.discovery = .ok target) {call : FetchCall}
    (hcall : call ∈ c.calls) {document : Json} (hanswer : call.answer = .ok document) :
    c.after.get? call.id = some document := by
  have hlisted : target.contains call.id = true := by
    have hid : call.id ∈ c.calls.map (·.id) := List.mem_map_of_mem hcall
    rw [h.map_id_calls hd, List.mem_filter] at hid
    exact SortedMap.mem_keys_iff.mp hid.1
  have hnew : c.before.get? call.id = none := SortedMap.contains_eq_false_iff.mp (h.not_cached hcall)
  have hfound : (FetchCall.firstDocument call.id c.calls).isSome = true :=
    FetchCall.isSome_firstDocument_iff.mpr ⟨call, hcall, rfl, by rw [hanswer]; rfl⟩
  obtain ⟨found, hfirst⟩ := Option.isSome_iff_exists.mp hfound
  obtain ⟨call', hcall', hid, hanswer'⟩ := FetchCall.exists_of_firstDocument hfirst
  obtain rfl := h.eq_of_id_eq hd hcall' hcall hid
  rw [h.documents target hd, if_pos hlisted, hnew, Option.none_or, hfirst]
  exact congrArg some (Except.ok.inj (hanswer'.symm.trans hanswer))

theorem Sound.contains_after_iff (h : c.Sound) (hd : c.discovery = .ok target) (id : String) :
    c.after.contains id = true ↔ target.contains id = true ∧
      (c.before.contains id = true ∨ ∃ call ∈ c.calls, call.id = id ∧ call.answer.isOk = true) := by
  have hget := h.documents target hd id
  change (c.after.get? id).isSome = true ↔ _ ∧ ((c.before.get? id).isSome = true ∨ _)
  rw [hget, ← FetchCall.isSome_firstDocument_iff]
  split
  case isTrue ht => simp [ht]
  case isFalse ht => simp [ht]

end SyncCycle

namespace SyncRun

/-- A document comes from a fetch of a cycle since the container last appeared. -/
theorem Inv.source {run : SyncRun} (h : run.Inv) {id : String} {document : Json}
    (hdoc : run.cache.get? id = some document) :
    ∃ c ∈ run.cycles.rtakeWhile (SyncCycle.keeps id), ∃ target, c.discovery = .ok target ∧
      ∃ call ∈ c.calls, call.id = id ∧ target.primary? id = some call.url ∧ call.answer = .ok document := by
  rw [h.provenance] at hdoc
  obtain ⟨call, hcall, hid, hanswer⟩ := FetchCall.exists_of_firstDocument hdoc
  obtain ⟨c, hc, hcall⟩ := List.mem_flatMap.mp hcall
  have hs : c.Sound := h.sound c ((List.rtakeWhile_suffix _ _).subset hc)
  cases hd : c.discovery with
  | error cause => simp [SyncCycle.calls, hd] at hcall
  | ok target =>
    have hurl := hs.primary?_of_mem hd hcall
    exact ⟨c, hc, target, hd, call, hcall, hid, hid ▸ hurl, hanswer⟩

/-- **Every run is consistent**: whatever the searches for endpoints and the fetches gave, the cache
holds for each listed container the first document that was fetched for it since it appeared, no
container is fetched while it has a document, and no failure stands in the way of another fetch. -/
theorem ofAnswers_consistent (answers : List CycleAnswers) : (ofAnswers answers).Consistent := by
  have h := inv_ofAnswers answers
  constructor
  case linked => exact h.linked
  case listed => exact h.listed
  case agents => exact h.agents
  case unfound => exact fun c hc => (h.sound c hc).of_error
  case fetched_once =>
    intro earlier c later rest id document heq hdoc hkeeps
    have hlinked := h.linked
    have hsound := h.sound
    rw [heq] at hlinked hsound
    obtain ⟨_, -, -, hrest⟩ := linked_append.mp hlinked
    obtain ⟨_, hlater, -⟩ := linked_append.mp hrest
    exact SyncCycle.keeps_document_of_linked (fun d hd => hsound d (by simp [hd])) hlater hkeeps hdoc
  case provenance => exact h.provenance
  case source => exact fun id document hdoc => h.source hdoc
  case fetches =>
    intro c hc target hd
    have hs := h.sound c hc
    have hids := hs.map_id_calls hd
    refine ⟨hs.requests_eq, hids, ?_, fun call hcall => hs.primary?_of_mem hd hcall,
      hs.contains_after_iff hd, hs.outcome target hd⟩
    rw [hids]
    exact target.endpoints.pairwise_keys.filter _

end SyncRun

end LogTagger
