import LogTagger.Cache.Reconciliation
import LogTagger.Event
import LogTagger.Health

/-!
# The scheduler of synchronisations

A scheduler keeps the cache in line with the live containers. Its start runs one cycle of
synchronisation: it asks for the endpoints, fetches the documents that are missing one after the
other, and commits. Then a loop runs further cycles, one at a time, each called for by the timer, by
a request or by the creation of a container. The timer counts from the moment at which the loop
begins, and a timer without an interval breaks the loop at that moment. A scheduler that has been
stopped is never started again.

The state moves in atomic steps. From outside come `start`, `stop`, `request`, `offer` and `pass`;
the loop itself begins by `beginLoop` and takes up what is ready by `wake`; `discovered` and `fetched`
take the answers for which a cycle waits; and `conclude` lets a cycle that has come to its outcome tell
it.

The cache and what is remembered of the last cycle stand behind two locks, and a cycle writes to them
one after the other. The step that takes the last answer commits to the cache, and `conclude` remembers
the outcome and ends the cycle. Whoever looks in between sees the cache of the one cycle with the health
that the cycle before it left.

Between the two, as between two answers of which the second is there already, a cycle does not pause.
So the points at which `stop` can cut a cycle short are those at which it waits for an answer; a cycle
that has come to its outcome tells it before the stop returns.

The loop waits for a request once it has looked and found nothing to take up (`listen`). The first
request that comes then wakes it; any other is kept, and several that are kept count as one. A request
that woke the loop is kept if the loop takes up the timer first.
-/

namespace LogTagger

/-- The stage of a scheduler's life. -/
inductive SchedulerPhase where
  /-- It has not been started. -/
  | idle
  /-- It runs its first cycle. -/
  | starting
  /-- It has been started, and its loop is about to begin. -/
  | ready
  /-- Its loop runs. -/
  | running
  /-- Its loop has broken down. -/
  | broken
  /-- It has been stopped. -/
  | stopped
  deriving DecidableEq

/-- Whether a scheduler at this stage has been started and not stopped. -/
def SchedulerPhase.isStarted : SchedulerPhase → Bool
  | .ready | .running | .broken => true
  | .idle | .starting | .stopped => false

/-- What a scheduler is doing. -/
inductive Activity where
  /-- It waits for something to call for a cycle. -/
  | waiting
  /-- Its cycle waits for the endpoints. -/
  | discovering (trigger : SyncTrigger)
  /-- Its cycle waits for the document of the first container that is missing. -/
  | fetching (trigger : SyncTrigger) (r : Reconciliation)
  /-- Its cycle has come to its outcome, and has still to tell it. -/
  | concluding (trigger : SyncTrigger) (outcome : Except SourceError ReconcileStats)

/-- What has happened in a scheduler. -/
inductive JournalEntry where
  /-- A cycle has asked for the endpoints, at a time. -/
  | discovery (trigger : SyncTrigger) (time : Nat)
  /-- A cycle has asked for the document of a container. -/
  | fetch (id url : String)
  /-- A cycle has come to its end. -/
  | finished (trigger : SyncTrigger) (outcome : Except SourceError ReconcileStats)

/-- The requests that have not been taken up, and whether the loop waits for one. -/
structure PendingRequests where
  /-- The loop waits for one. -/
  awaited : Bool := false
  /-- One has woken the loop. -/
  woken : Bool := false
  /-- One is kept. -/
  kept : Bool := false
  deriving DecidableEq

namespace PendingRequests

/-- Adds a request: it wakes the loop that waits for one, or is kept. -/
def add (p : PendingRequests) : PendingRequests :=
  if p.awaited then { p with awaited := false, woken := true } else { p with kept := true }

/-- The loop waits no longer, because something else is taken up; a request that woke it is kept. -/
def postpone (p : PendingRequests) : PendingRequests := { kept := p.kept || p.woken }

/-- Takes up a request, if there is one. -/
def take? (p : PendingRequests) : Option PendingRequests :=
  if p.woken then some { p with woken := false }
  else if p.kept then some { p with kept := false }
  else none

/-- The number of requests that can be taken up. -/
def count (p : PendingRequests) : Nat := p.woken.toNat + p.kept.toNat

end PendingRequests

/-- An item of the stream of container events. -/
abbrev EventItem := Except SourceError ContainerEvent

/-- Whether an item calls for a cycle. -/
def callsForSync : EventItem → Bool
  | .ok e => e.triggersSync
  | .error _ => false

/-- The stream of container events. -/
structure EventQueue where
  /-- The items that have not been taken up. -/
  items : List EventItem := []
  /-- Whether more items can come. -/
  isOpen : Bool := false

/-- A scheduler with the cache that it keeps. Times are milliseconds. -/
structure Scheduler where
  /-- The time between two ticks of the timer. -/
  interval : Nat
  /-- The stage of its life. -/
  phase : SchedulerPhase := .idle
  /-- What it is doing. -/
  activity : Activity := .waiting
  /-- The time. -/
  now : Nat := 0
  /-- The time at which the timer ticks next. -/
  nextTick : Nat := 0
  /-- Whether the timer has ticked and the loop has not taken it up. -/
  tickDue : Bool := false
  /-- The requests that have not been taken up. -/
  requests : PendingRequests := {}
  /-- The stream of container events. -/
  events : EventQueue := {}
  /-- The wording of the failure of the last cycle that came to its end. -/
  lastError : Option String := none
  /-- The cache. -/
  cache : DocumentCache := {}
  /-- The metrics. -/
  metrics : Metrics := {}
  /-- What has happened, in order. -/
  journal : List JournalEntry := []

/-- The wording of the failure of an outcome. -/
def failureText {α : Type} : Except SourceError α → Option String
  | .ok _ => none
  | .error cause => some cause.message

namespace Scheduler

/-! ### Cycles -/

/-- Adds to the journal. -/
def note (s : Scheduler) (e : JournalEntry) : Scheduler := { s with journal := s.journal ++ [e] }

/-- Begins a cycle. -/
def beginCycle (s : Scheduler) (trigger : SyncTrigger) : Scheduler :=
  { s with activity := .discovering trigger }.note (.discovery trigger s.now)

/-- Tells the outcome of a cycle, and ends it. The end of the first cycle is that of the start. -/
def endCycle (s : Scheduler) (trigger : SyncTrigger) (outcome : Except SourceError ReconcileStats) : Scheduler :=
  let ended :=
    { s with
      activity := .waiting
      lastError := failureText outcome
      metrics := s.metrics.add (.syncCycles trigger outcome.isOk) 1 }.note (.finished trigger outcome)
  if s.phase = .starting then { ended with phase := .ready } else ended

/-- Lets the cycle that has come to its outcome tell it, if there is one. -/
def conclude (s : Scheduler) : Scheduler :=
  match s.activity with
  | .concluding trigger outcome => s.endCycle trigger outcome
  | _ => s

/-- Commits a reconciliation for which no document is left to fetch. The cycle has still to tell its outcome. -/
def commitCycle (s : Scheduler) (trigger : SyncTrigger) (r : Reconciliation) : Scheduler :=
  let (cache, stats) := r.commit s.cache
  { s with
    activity := .concluding trigger (r.outcome stats)
    cache
    metrics := s.metrics.countCommit stats }

/-- Goes on with a reconciliation: asks for the next document, or commits. -/
def continueCycle (s : Scheduler) (trigger : SyncTrigger) (r : Reconciliation) : Scheduler :=
  match r.missing with
  | [] => s.commitCycle trigger r
  | (id, url) :: _ => { s with activity := .fetching trigger r }.note (.fetch id url)

/-- Takes the endpoints for which a cycle waits. -/
def discovered (s : Scheduler) (answer : Except SourceError EndpointSet) : Scheduler :=
  match s.activity with
  | .discovering trigger =>
    match answer with
    | .ok target => s.continueCycle trigger (.begin s.cache target)
    | .error cause => { s with activity := .concluding trigger (.error cause) }
  | _ => s

/-- Takes the document for which a cycle waits. -/
def fetched (s : Scheduler) (answer : Except FetchError Json) : Scheduler :=
  match s.activity with
  | .fetching trigger r =>
    { s with metrics := s.metrics.countFetch answer }.continueCycle trigger (r.record answer)
  | _ => s

/-! ### Calls from outside -/

/-- Begins the start, which ends with the first cycle. -/
def start (s : Scheduler) : Except LifecycleError Scheduler :=
  match s.phase with
  | .idle => .ok ({ s with phase := .starting }.beginCycle .startup)
  | .starting | .ready | .running | .broken => .error .alreadyRunning
  | .stopped => .error (.initFailed "scheduler was stopped; build a new one to restart")

/-- Stops the scheduler. A cycle that waits for an answer is cut short; one that has come to its outcome
tells it first. -/
def stop (s : Scheduler) : Except LifecycleError Scheduler :=
  if s.phase.isStarted then .ok { s.conclude with phase := .stopped, activity := .waiting } else .error .notRunning

/-- Whether the loop has no cycle to run. -/
def isListening (s : Scheduler) : Bool :=
  match s.phase, s.activity with
  | .running, .waiting => true
  | _, _ => false

/-- Requests a cycle. -/
def request (s : Scheduler) : Scheduler := { s with requests := s.requests.add }

/-- Adds an item to the stream of container events, unless that has ended. -/
def offer (s : Scheduler) (item : EventItem) : Scheduler :=
  if s.events.isOpen then { s with events := { s.events with items := s.events.items ++ [item] } } else s

/-- Ends the stream of container events; the items that are left can still be taken up. -/
def endEvents (s : Scheduler) : Scheduler := { s with events := { s.events with isOpen := false } }

/-- Lets time pass. -/
def pass (s : Scheduler) (time : Nat) : Scheduler := { s with now := s.now + time }

/-- Lets the timer tick if it is due. -/
def fireTimer (s : Scheduler) : Scheduler :=
  if s.phase = .running ∧ s.nextTick ≤ s.now then { s with tickDue := true } else s

/-! ### The loop -/

/-- Begins the loop if it is about to: the timer counts from now. -/
def beginLoop (s : Scheduler) : Scheduler :=
  if s.phase = .ready then
    if s.interval = 0 then { s with phase := .broken }
    else { s with phase := .running, nextTick := s.now + s.interval }
  else s

/-- The greatest lateness at which a tick does not count as late, in milliseconds. -/
def tickSlack : Nat := 5

/-- The time of the tick after one that was due at a time and is taken up now: a whole interval after
the one or, when it is late, a whole interval from now. -/
def tickAfter (interval due now : Nat) : Nat := (if due + tickSlack < now then now else due) + interval

/-- Takes up the timer. -/
def takeTick (s : Scheduler) : Scheduler :=
  { s with
    tickDue := false
    nextTick := tickAfter s.interval s.nextTick s.now
    requests := s.requests.postpone }.beginCycle .interval

/-- Takes up an item of the stream of container events. -/
def takeEvent (s : Scheduler) (item : EventItem) (rest : List EventItem) : Scheduler :=
  let taken := { s with events := { s.events with items := rest }, requests := s.requests.postpone }
  if callsForSync item then taken.beginCycle .event else taken

/-- What the waiting loop does next: it takes up the timer, else a request, else an event. -/
def wake (s : Scheduler) : Option Scheduler :=
  if !s.isListening then none
  else if s.tickDue then some s.takeTick
  else
    match s.requests.take?, s.events.items with
    | some requests, _ => some ({ s with requests }.beginCycle .manual)
    | none, item :: rest => some (s.takeEvent item rest)
    | none, [] => none

/-- Lets the loop wait for a request if there is nothing to take up. -/
def listen (s : Scheduler) : Scheduler :=
  if s.isListening && s.wake.isNone then { s with requests := { s.requests with awaited := true } } else s

/-- A bound on the number of times the loop can wake without anything new. -/
def pendingCount (s : Scheduler) : Nat := s.tickDue.toNat + s.requests.count + s.events.items.length

/-! ### Views -/

/-- The name of the stage. -/
def stateName (s : Scheduler) : String :=
  match s.phase with
  | .idle | .starting => "idle"
  | .ready | .running | .broken => "running"
  | .stopped => "stopped"

/-- The health. -/
def health (s : Scheduler) : HealthStatus :=
  match s.phase with
  | .idle | .starting => .unhealthy "not started"
  | .stopped => .unhealthy "stopped"
  | .ready | .running | .broken =>
    match s.lastError with
    | none => .healthy
    | some reason => .degraded ("last sync failed: " ++ reason)

/-- The number of containers for which a cycle still waits. -/
def missingCount (s : Scheduler) : Nat :=
  match s.activity with
  | .fetching _ r => r.missing.length
  | _ => 0

/-- The number of times the endpoints have been asked for. -/
def discoveryCount (s : Scheduler) : Nat :=
  (s.journal.filter (fun e => match e with
    | .discovery _ _ => true
    | _ => false)).length

/-- The addresses from which documents have been asked for, in order. -/
def fetchedUrls (s : Scheduler) : List String :=
  s.journal.filterMap (fun e => match e with
    | .fetch _ url => some url
    | _ => none)

end Scheduler

end LogTagger
