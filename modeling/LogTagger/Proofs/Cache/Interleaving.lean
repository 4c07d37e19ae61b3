import LogTagger.Proofs.Cache.Serial

/-!
# Reconciliations at the same time

Any number of calls to reconcile one cache, with look-ups in between, go on step by step in any order.
Each call is a thread of its own: it takes the gate, lists the containers that are missing, fetches for
one after the other, commits, and releases the gate. All that is known of the gate is that it is taken only
while it is free; which of the waiting calls takes it is open. A look-up does not ask for the gate.
(`SharedCache` has a line before the gate, and a scheduler among those who stand in it; there a call begins,
commits and leaves in fewer steps. `SharedCache.exists_gated_run` relates the two.)

What happens is logged. `next_move` says all that a step can do.
-/

namespace LogTagger

/-- How far a call has come. -/
inductive CallStage where
  /-- It waits for the gate. -/
  | waiting
  /-- It has taken the gate. -/
  | admitted
  /-- It has listed the containers that are missing, and fetches for them. -/
  | fetching (r : Reconciliation)
  /-- It has committed. -/
  | committed (outcome : Except SourceError ReconcileStats)
  /-- It has released the gate and returned. -/
  | returned (outcome : Except SourceError ReconcileStats)

/-- Whether a call at this stage has taken the gate and not released it. -/
def CallStage.holdsGate : CallStage → Bool
  | .admitted | .fetching _ | .committed _ => true
  | .waiting | .returned _ => false

/-- A call to reconcile. -/
structure ReconcileCall where
  /-- The endpoints. -/
  target : EndpointSet
  /-- How far it has come. -/
  stage : CallStage := .waiting

/-- A commit. -/
structure CommitRecord where
  /-- The number of the call. -/
  call : Nat
  /-- Its endpoints. -/
  target : EndpointSet
  /-- What it leaves. -/
  left : DocumentCache × Metrics
  /-- What it did. -/
  stats : ReconcileStats
  /-- How it turned out. -/
  outcome : Except SourceError ReconcileStats

/-- What a commit leaves, and its outcome. -/
def CommitRecord.reconciled (c : CommitRecord) : Reconciled := (c.left, c.outcome)

/-- What happens to a cache. -/
inductive CacheEvent where
  /-- A call takes the gate. -/
  | entered (call : Nat)
  /-- A call gets the answer to its fetch for a container. -/
  | fetched (call : Nat) (fetch : FetchCall)
  /-- A call commits. -/
  | committed (c : CommitRecord)
  /-- A call releases the gate and returns. -/
  | returned (call : Nat) (outcome : Except SourceError ReconcileStats)
  /-- A look-up finds a document, or none. -/
  | found (id : String) (document : Option Json)
  /-- A look-up tells whether a container is an agent. -/
  | agent (id : String) (isAgent : Bool)

/-- A cache with the calls to reconcile it. -/
structure GatedCache where
  /-- The cache. -/
  cache : DocumentCache
  /-- The metrics. -/
  metrics : Metrics
  /-- The gate, with the number of the call that has taken it. -/
  gate : Option Nat := none
  /-- The calls, by their numbers. -/
  calls : List ReconcileCall := []
  /-- What has happened, in order. -/
  log : List CacheEvent := []

/-- A step of a call, or a look-up. -/
inductive GatedStep where
  /-- A new call. -/
  | call (target : EndpointSet)
  /-- A call takes the gate. -/
  | enter (call : Nat)
  /-- A call lists the containers that are missing. -/
  | list (call : Nat)
  /-- A call gets the answer to its next fetch. -/
  | fetch (call : Nat) (answer : Except FetchError Json)
  /-- A call commits. -/
  | commit (call : Nat)
  /-- A call releases the gate and returns. -/
  | release (call : Nat)
  /-- A look-up of a document. -/
  | get (id : String)
  /-- A look-up of an agent. -/
  | isAgent (id : String)

namespace GatedCache

variable {s s' : GatedCache} {step : GatedStep}

/-- Adds to the log. -/
def note (s : GatedCache) (e : CacheEvent) : GatedCache := { s with log := s.log ++ [e] }

/-- A call comes to a stage. -/
def put (s : GatedCache) (call : Nat) (target : EndpointSet) (stage : CallStage) : GatedCache :=
  { s with calls := s.calls.set call ⟨target, stage⟩ }

@[simp] theorem cache_note (s : GatedCache) (e : CacheEvent) : (s.note e).cache = s.cache := rfl

@[simp] theorem metrics_note (s : GatedCache) (e : CacheEvent) : (s.note e).metrics = s.metrics := rfl

@[simp] theorem gate_note (s : GatedCache) (e : CacheEvent) : (s.note e).gate = s.gate := rfl

@[simp] theorem calls_note (s : GatedCache) (e : CacheEvent) : (s.note e).calls = s.calls := rfl

@[simp] theorem log_note (s : GatedCache) (e : CacheEvent) : (s.note e).log = s.log ++ [e] := rfl

section

variable (s : GatedCache) (call : Nat) (target : EndpointSet) (stage : CallStage)

@[simp] theorem cache_put : (s.put call target stage).cache = s.cache := rfl

@[simp] theorem metrics_put : (s.put call target stage).metrics = s.metrics := rfl

@[simp] theorem gate_put : (s.put call target stage).gate = s.gate := rfl

@[simp] theorem log_put : (s.put call target stage).log = s.log := rfl

end

/-- A call takes the gate, if it waits for it and the gate is free. -/
def enter (s : GatedCache) (call : Nat) : GatedCache :=
  match s.calls[call]?, s.gate with
  | some ⟨target, .waiting⟩, none => ({ s with gate := some call }.put call target .admitted).note (.entered call)
  | _, _ => s

/-- A call that has taken the gate lists the containers that are missing. -/
def list (s : GatedCache) (call : Nat) : GatedCache :=
  match s.calls[call]? with
  | some ⟨target, .admitted⟩ => s.put call target (.fetching (.begin s.cache target))
  | _ => s

/-- A call gets the answer to its next fetch, if there is one. -/
def fetch (s : GatedCache) (call : Nat) (answer : Except FetchError Json) : GatedCache :=
  match s.calls[call]? with
  | some ⟨target, .fetching r⟩ =>
    match r.missing with
    | [] => s
    | (id, url) :: _ =>
      ({ s with metrics := s.metrics.countFetch answer }.put call target (.fetching (r.record answer))).note
        (.fetched call ⟨id, url, answer⟩)
  | _ => s

/-- The commit of a reconciliation. -/
def commitOf (s : GatedCache) (call : Nat) (target : EndpointSet) (r : Reconciliation) : CommitRecord :=
  let (cache, stats) := r.commit s.cache
  { call, target, left := (cache, s.metrics.countCommit stats), stats, outcome := r.outcome stats }

/-- A call commits, if nothing is left to fetch. -/
def commit (s : GatedCache) (call : Nat) : GatedCache :=
  match s.calls[call]? with
  | some ⟨target, .fetching r⟩ =>
    match r.missing with
    | [] =>
      let c := s.commitOf call target r
      ({ s with cache := c.left.1, metrics := c.left.2 }.put call target (.committed c.outcome)).note (.committed c)
    | _ :: _ => s
  | _ => s

/-- A call that has committed releases the gate and returns. -/
def release (s : GatedCache) (call : Nat) : GatedCache :=
  match s.calls[call]? with
  | some ⟨target, .committed outcome⟩ =>
    ({ s with gate := none }.put call target (.returned outcome)).note (.returned call outcome)
  | _ => s

/-- The state after a step. A step for which a call is not ready leaves it as it is. -/
def next (s : GatedCache) : GatedStep → GatedCache
  | .call target => { s with calls := s.calls ++ [{ target }] }
  | .enter call => s.enter call
  | .list call => s.list call
  | .fetch call answer => s.fetch call answer
  | .commit call => s.commit call
  | .release call => s.release call
  | .get id => s.note (.found id (s.cache.get? id))
  | .isAgent id => s.note (.agent id (s.cache.isAgent id))

/-- The state after steps. -/
def run (s : GatedCache) (steps : List GatedStep) : GatedCache := steps.foldl next s

/-- What a state has and every step keeps, every state of a run has. -/
theorem run_induction {P : GatedCache → Prop} (hstep : ∀ s step, P s → P (s.next step)) {s : GatedCache} (h : P s)
    (steps : List GatedStep) : P (s.run steps) := by
  induction steps generalizing s with
  | nil => exact h
  | cons step rest ih => exact ih (hstep s step h)

/-- All that a step can do. -/
inductive Move (s : GatedCache) : GatedCache → Prop
  | rests : Move s s
  | calls (target : EndpointSet) : Move s { s with calls := s.calls ++ [{ target }] }
  | enters (call : Nat) (target : EndpointSet) (stage : s.calls[call]? = some ⟨target, .waiting⟩)
      (free : s.gate = none) :
      Move s (({ s with gate := some call }.put call target .admitted).note (.entered call))
  | lists (call : Nat) (target : EndpointSet) (stage : s.calls[call]? = some ⟨target, .admitted⟩) :
      Move s (s.put call target (.fetching (.begin s.cache target)))
  | fetches (call : Nat) (target : EndpointSet) (r : Reconciliation) (id url : String) (rest : List (String × String))
      (answer : Except FetchError Json) (stage : s.calls[call]? = some ⟨target, .fetching r⟩)
      (missing : r.missing = (id, url) :: rest) :
      Move s (({ s with metrics := s.metrics.countFetch answer }.put call target (.fetching (r.record answer))).note
        (.fetched call ⟨id, url, answer⟩))
  | commits (call : Nat) (target : EndpointSet) (r : Reconciliation) (c : CommitRecord)
      (stage : s.calls[call]? = some ⟨target, .fetching r⟩) (missing : r.missing = [])
      (record : c = s.commitOf call target r) :
      Move s (({ s with cache := c.left.1, metrics := c.left.2 }.put call target (.committed c.outcome)).note
        (.committed c))
  | releases (call : Nat) (target : EndpointSet) (outcome : Except SourceError ReconcileStats)
      (stage : s.calls[call]? = some ⟨target, .committed outcome⟩) :
      Move s (({ s with gate := none }.put call target (.returned outcome)).note (.returned call outcome))
  | finds (id : String) : Move s (s.note (.found id (s.cache.get? id)))
  | tells (id : String) : Move s (s.note (.agent id (s.cache.isAgent id)))

/-- **All that a step can do** is one of the moves. -/
theorem next_move (s : GatedCache) (step : GatedStep) : Move s (s.next step) := by
  cases step with
  | call target => exact .calls target
  | enter call =>
    rw [next, enter]
    split
    · exact .enters call _ ‹_› ‹_›
    · exact .rests
  | list call =>
    rw [next, list]
    split
    · exact .lists call _ ‹_›
    · exact .rests
  | fetch call answer =>
    rw [next, fetch]
    split
    · split
      · exact .rests
      · exact .fetches call _ _ _ _ _ answer ‹_› ‹_›
    · exact .rests
  | commit call =>
    rw [next, commit]
    split
    · split
      · exact .commits call _ _ _ ‹_› ‹_› rfl
      · exact .rests
    · exact .rests
  | release call =>
    rw [next, release]
    split
    · exact .releases call _ _ ‹_›
    · exact .rests
  | get id => exact .finds id
  | isAgent id => exact .tells id

end GatedCache

end LogTagger
