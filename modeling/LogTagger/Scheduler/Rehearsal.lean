import LogTagger.Scheduler.Basic

/-!
# Rehearsals of the scheduler

A rehearsal runs a scheduler in virtual time against collaborators whose answers are given, each with
the time that it takes. What a collaborator answers is settled when it is asked; the answer arrives
when its time has come. An answer that takes no time arrives at once.

`settle` lets the scheduler do all that it can do without time passing. `advance` lets the clock jump
and `wait` lets time pass from one due moment to the next; after a jump what was already pending is
done before the timer and the delayed answers are looked at.
-/

namespace LogTagger

/-- A value with the time that it takes to arrive, in milliseconds. -/
structure Delayed (α : Type) where
  /-- The value. -/
  value : α
  /-- The time. -/
  delay : Nat := 0

/-- An answer on its way. -/
inductive Flight where
  /-- The endpoints. -/
  | discovery (answer : Except SourceError EndpointSet)
  /-- A document. -/
  | document (answer : Except FetchError Json)

/-- A scheduler in the midst of its collaborators. -/
structure Rehearsal where
  /-- The scheduler. -/
  scheduler : Scheduler
  /-- What the search for endpoints answers. -/
  discovery : Delayed (Except SourceError EndpointSet)
  /-- What each address answers. -/
  document : String → Delayed (Except FetchError Json)
  /-- The answer on its way, with the time at which it arrives; without one it has arrived. -/
  flight : Option (Flight × Option Nat) := none
  /-- The time up to which the timer and the delayed answers have been looked at. -/
  seen : Nat := 0

namespace Rehearsal

/-- Sends an answer on its way. -/
def launch {α : Type} (r : Rehearsal) (answer : Delayed α) (flight : α → Flight) : Rehearsal :=
  let arrival := if answer.delay = 0 then none else some (r.scheduler.now + answer.delay)
  { r with flight := some (flight answer.value, arrival) }

/-- Asks for the answer for which the scheduler waits, unless that is on its way. -/
def ask (r : Rehearsal) : Rehearsal :=
  match r.flight, r.scheduler.activity with
  | none, .discovering _ => r.launch r.discovery .discovery
  | none, .fetching _ rec =>
    match rec.missing with
    | (_, url) :: _ => r.launch (r.document url) .document
    | [] => r
  | _, _ => r

/-- Hands over an answer; a cycle that comes to its outcome with it tells that at once. -/
def deliver (s : Scheduler) : Flight → Scheduler
  | .discovery answer => (s.discovered answer).conclude
  | .document answer => (s.fetched answer).conclude

/-- Hands over the answer on its way if it has arrived. -/
def receive (r : Rehearsal) : Rehearsal :=
  match r.flight with
  | some (flight, none) => { r with scheduler := deliver r.scheduler flight, flight := none }
  | some (flight, some arrival) =>
    if arrival ≤ r.seen then { r with scheduler := deliver r.scheduler flight, flight := none } else r
  | none => r

/-- Lets the clock jump to the moment at which the answer on its way arrives. -/
def jump (r : Rehearsal) : Rehearsal :=
  match r.flight with
  | some (_, some arrival) =>
    { r with scheduler := r.scheduler.pass (arrival - r.scheduler.now), seen := max r.seen arrival }
  | _ => r

/-- Asks for answers and hands them over, so many times. -/
def exchange : Nat → Rehearsal → Rehearsal
  | 0, r => r
  | n + 1, r => exchange n r.ask.receive

/-- Asks for answers, waits for them and hands them over, so many times. -/
def exchangeInTime : Nat → Rehearsal → Rehearsal
  | 0, r => r
  | n + 1, r => exchangeInTime n r.ask.jump.receive

/-- Lets the cycle under way go on until it has to wait or has come to its end: one answer, which may
be that of the endpoints, then one for each document that is missing. -/
def proceed (r : Rehearsal) : Rehearsal :=
  let r := r.exchange 1
  r.exchange r.scheduler.missingCount

/-- Lets the cycle under way come to its end, with the time that it takes. -/
def complete (r : Rehearsal) : Rehearsal :=
  let r := r.exchangeInTime 1
  r.exchangeInTime r.scheduler.missingCount

/-- Lets the loop wake so many times and each cycle go on as far as it can. -/
def rouse : Nat → Rehearsal → Rehearsal
  | 0, r => r.proceed
  | n + 1, r =>
    let r := r.proceed
    match r.scheduler.wake with
    | some s => rouse n { r with scheduler := s }
    | none => r

/-- Lets the scheduler do all that it can do without time passing. -/
def settle (r : Rehearsal) : Rehearsal :=
  let roused := rouse r.scheduler.pendingCount { r with scheduler := r.scheduler.beginLoop }
  { roused with scheduler := roused.scheduler.listen }

/-- Looks at the timer and the delayed answers. -/
def look (r : Rehearsal) : Rehearsal := { r with scheduler := r.scheduler.fireTimer, seen := r.scheduler.now }

/-- Lets the clock jump. -/
def advance (r : Rehearsal) (time : Nat) : Rehearsal :=
  { r with scheduler := r.scheduler.pass time }.settle.look.settle

/-- The next moment after now at which the timer ticks or an answer arrives. -/
def nextMoment? (r : Rehearsal) : Option Nat :=
  let tick := if r.scheduler.phase = .running ∧ !r.scheduler.tickDue then [r.scheduler.nextTick] else []
  let arrival := match r.flight with
    | some (_, some t) => [t]
    | _ => []
  ((tick ++ arrival).filter (fun t => r.scheduler.now < t)).min?

/-- Lets time pass up to a moment, from one due moment to the next; each lies at least one
millisecond further. -/
def waitUntil : Nat → Nat → Rehearsal → Rehearsal
  | 0, _, r => r
  | fuel + 1, target, r =>
    match r.nextMoment? with
    | some t =>
      if t ≤ target then waitUntil fuel target (r.advance (t - r.scheduler.now))
      else r.advance (target - r.scheduler.now)
    | none => r.advance (target - r.scheduler.now)

/-- Lets time pass. -/
def wait (r : Rehearsal) (time : Nat) : Rehearsal := waitUntil (time + 1) (r.scheduler.now + time) r

/-- A change in what surrounds the scheduler. -/
inductive Change where
  /-- The search for endpoints answers otherwise. -/
  | discovery (answer : Delayed (Except SourceError EndpointSet))
  /-- An address answers otherwise. -/
  | document (url : String) (answer : Delayed (Except FetchError Json))
  /-- An item comes on the stream of container events. -/
  | event (item : EventItem)
  /-- The stream of container events ends. -/
  | endEvents

/-- Makes a change. -/
def change (r : Rehearsal) : Change → Rehearsal
  | .discovery answer => { r with discovery := answer }
  | .document url answer => { r with document := fun u => if u = url then answer else r.document u }
  | .event item => { r with scheduler := r.scheduler.offer item }
  | .endEvents => { r with scheduler := r.scheduler.endEvents }

/-- Requests so many synchronisations. -/
def request : Nat → Rehearsal → Rehearsal
  | 0, r => r
  | n + 1, r => request n { r with scheduler := r.scheduler.request }

/-- Starts the scheduler and lets its first cycle come to its end. -/
def start (r : Rehearsal) : Except LifecycleError Rehearsal :=
  r.scheduler.start.map (fun s => { r with scheduler := s }.complete)

/-- Stops the scheduler; an answer on its way is lost. -/
def stop (r : Rehearsal) : Except LifecycleError Rehearsal :=
  r.scheduler.stop.map (fun s => { r with scheduler := s, flight := none })

end Rehearsal

end LogTagger
