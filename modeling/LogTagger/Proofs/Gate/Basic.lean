import LogTagger.Proofs.Scheduler.Lifecycle

/-!
# A cache with a gate

The cache of a scheduler can be reconciled by others as well. A gate lets in one at a time: who calls
takes the last place in a line, and has its turn at the front. Who has its turn begins with the cache
as it is, takes the answers to its requests one after the other, and commits in the same step in which
it takes the last one. Who is stopped or gives up leaves the line at once, whatever it has fetched.

The cycles of the scheduler pass the same gate. A cycle that gets its endpoints joins the line with
them, and goes on when it has its turn; all that it does, it does by the steps of `Scheduler`.
-/

namespace LogTagger

/-- Who reconciles a cache. -/
inductive CacheUser where
  /-- The scheduler, in a cycle. -/
  | scheduler
  /-- Someone else. -/
  | other (id : Nat)
  deriving DecidableEq

/-- A call to reconcile. -/
structure CacheCall where
  /-- Who calls. -/
  user : CacheUser
  /-- The endpoints. -/
  target : EndpointSet
  /-- Whether it has had its turn. -/
  begun : Bool := false
  /-- The answers to its requests so far, in order. -/
  answers : List (Except FetchError Json) := []

/-- A call that has been committed. -/
structure Commit where
  /-- The call. -/
  call : CacheCall
  /-- What it returned. -/
  outcome : Except SourceError ReconcileStats

/-- A scheduler with those who use its cache. -/
structure SharedCache where
  /-- The scheduler, with the cache. -/
  scheduler : Scheduler
  /-- The calls at the gate, in the order in which they came; the first has its turn. -/
  line : List CacheCall := []
  /-- The calls that have been committed, in order. -/
  commits : List Commit := []

/-- A step of a scheduler or of another user of its cache. -/
inductive SharedStep where
  /-- A step of the scheduler; documents come by `answer`. -/
  | own (step : SchedulerStep)
  /-- Another user calls. -/
  | call (id : Nat) (target : EndpointSet)
  /-- The call at the front begins. -/
  | begin
  /-- The call at the front gets the document that it has asked for. -/
  | answer (document : Except FetchError Json)
  /-- Another user gives up its call. -/
  | abandon (id : Nat)

/-- The documents that a step brings to the call at the front. -/
def SharedStep.documents : SharedStep → List (Except FetchError Json)
  | .answer document => [document]
  | _ => []

namespace CacheCall

/-- The call when it has its turn. -/
def opened (c : CacheCall) : CacheCall := { c with begun := true }

/-- The call with one more answer. -/
def answered (c : CacheCall) (document : Except FetchError Json) : CacheCall :=
  { c with answers := c.answers ++ [document] }

/-- The reconciliation of a call, which began with the given cache. -/
def reconciliation (c : CacheCall) (cache : DocumentCache) : Reconciliation :=
  c.answers.foldl Reconciliation.record (.begin cache c.target)

end CacheCall

namespace Scheduler

/-- The scheduler with other metrics. -/
def withMetrics (s : Scheduler) (metrics : Metrics) : Scheduler := { s with metrics }

/-- The scheduler after another user has gone on: its cache changes if nothing is left to fetch. -/
def visited (s : Scheduler) (r : Reconciliation) : Scheduler :=
  match r.missing with
  | [] => { s with cache := (r.commit s.cache).1, metrics := s.metrics.countCommit (r.commit s.cache).2 }
  | _ :: _ => s

/-- The scheduler after a call has begun. -/
def afterOpening (s : Scheduler) (call : CacheCall) : Scheduler :=
  match call.user with
  | .scheduler => s.discovered (.ok call.target)
  | .other _ => s.visited (call.reconciliation s.cache)

/-- The scheduler after a call has got a document. -/
def afterAnswer (s : Scheduler) (call : CacheCall) (document : Except FetchError Json) : Scheduler :=
  match call.user with
  | .scheduler => s.fetched document
  | .other _ => (s.withMetrics (s.metrics.countFetch document)).visited (call.reconciliation s.cache)

end Scheduler

namespace SharedCache

/-- The cache. -/
def cache (s : SharedCache) : DocumentCache := s.scheduler.cache

/-- Whether a user stands in the line. -/
def holds (s : SharedCache) (user : CacheUser) : Bool := s.line.any (·.user = user)

/-- A user takes the last place in the line, unless it stands there already. -/
def enqueue (s : SharedCache) (user : CacheUser) (target : EndpointSet) : SharedCache :=
  if s.holds user then s else { s with line := s.line ++ [⟨user, target, false, []⟩] }

/-- A user leaves the line. -/
def leave (s : SharedCache) (user : CacheUser) : SharedCache := { s with line := s.line.filter (·.user ≠ user) }

/-- The call at the front goes on, and is committed if nothing is left to fetch. The scheduler after that
is given. -/
def goOn (s : SharedCache) (call : CacheCall) (rest : List CacheCall) (moved : Scheduler) : SharedCache :=
  let r := call.reconciliation s.cache
  match r.missing with
  | [] => { scheduler := moved, line := rest, commits := s.commits ++ [⟨call, r.outcome (r.commit s.cache).2⟩] }
  | _ :: _ => { s with scheduler := moved, line := call :: rest }

/-- The call at the front begins. -/
def begin (s : SharedCache) : SharedCache :=
  match s.line with
  | [] => s
  | call :: rest => if call.begun then s else s.goOn call.opened rest (s.scheduler.afterOpening call.opened)

/-- The call at the front gets the document that it has asked for. -/
def answer (s : SharedCache) (document : Except FetchError Json) : SharedCache :=
  match s.line with
  | [] => s
  | call :: rest =>
    if call.begun then s.goOn (call.answered document) rest (s.scheduler.afterAnswer (call.answered document) document)
    else s

/-- A step of the scheduler. Its cycle joins the line with the endpoints that it gets, and leaves it
when it is stopped. -/
def own (s : SharedCache) : SchedulerStep → SharedCache
  | .discovered (.ok target) =>
    match s.scheduler.activity with
    | .discovering _ => s.enqueue .scheduler target
    | _ => s
  | .discovered (.error cause) =>
    if s.holds .scheduler then s else { s with scheduler := s.scheduler.discovered (.error cause) }
  | .fetched _ => s
  | .stop =>
    match s.scheduler.stop with
    | .ok stopped => { s with scheduler := stopped }.leave .scheduler
    | .error _ => s
  | step => { s with scheduler := s.scheduler.next step }

/-- The state after a step. -/
def next (s : SharedCache) : SharedStep → SharedCache
  | .own step => s.own step
  | .call id target => s.enqueue (.other id) target
  | .begin => s.begin
  | .answer document => s.answer document
  | .abandon id => s.leave (.other id)

/-- The state after steps. -/
def run (s : SharedCache) (steps : List SharedStep) : SharedCache := steps.foldl next s

@[simp] theorem run_nil (s : SharedCache) : s.run [] = s := rfl

@[simp] theorem run_cons (s : SharedCache) (step : SharedStep) (rest : List SharedStep) :
    s.run (step :: rest) = (s.next step).run rest := rfl

theorem run_append (s : SharedCache) (l r : List SharedStep) : s.run (l ++ r) = (s.run l).run r := by
  simp [run]

/-- What a state has and every step keeps, every state of a run has. -/
theorem run_induction {P : SharedCache → Prop} (hstep : ∀ s step, P s → P (s.next step)) {s : SharedCache} (h : P s)
    (steps : List SharedStep) : P (s.run steps) := by
  induction steps generalizing s with
  | nil => exact h
  | cons step rest ih => exact ih (hstep s step h)

end SharedCache

end LogTagger
