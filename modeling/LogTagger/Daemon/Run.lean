import LogTagger.Daemon.Basic
import LogTagger.Scheduler.Rehearsal

/-!
# Runs of the daemon

A run of the daemon in virtual time: what happens to it is given as a list of occurrences, and after
each of them the scheduler does all that it can do. The occurrence that ends the run is the last one
that is looked at; otherwise the end of the list is that of the input.
-/

namespace LogTagger

/-- Something that happens to a running daemon. -/
inductive Occurrence where
  /-- Octets of the input arrive. -/
  | input (octets : List UInt8)
  /-- Time passes, in milliseconds. -/
  | wait (time : Nat)
  /-- A signal comes. -/
  | signal (s : Signal)
  /-- Something changes around the scheduler. -/
  | change (c : Rehearsal.Change)

/-- A daemon in the midst of the collaborators of its scheduler. -/
structure DaemonRun (L : PatternLanguage) where
  /-- The daemon. -/
  daemon : Daemon L
  /-- Its scheduler with the collaborators. -/
  rehearsal : Rehearsal

namespace DaemonRun

variable {L : PatternLanguage}

/-- Lets the scheduler move on within its surroundings. -/
def move (r : DaemonRun L) (f : Rehearsal → Rehearsal) : DaemonRun L :=
  let moved := f { r.rehearsal with scheduler := r.daemon.processor.scheduler }
  { daemon := r.daemon.withScheduler moved.scheduler, rehearsal := moved }

/-- Why a run ends, if it does. -/
abbrev Ending := Option (Except DaemonError ShutdownReason)

/-- The ending that a failure of the stream brings about. -/
def endingOf (failure : Option StreamError) : Ending := failure.map (fun cause => .error (.stream cause))

/-- What an occurrence does to the daemon. -/
def meet (r : DaemonRun L) : Occurrence → DaemonRun L × Ending
  | .input octets =>
    let (daemon, failure) := r.daemon.receive octets
    ({ r with daemon }, endingOf failure)
  | .wait time => (r.move (·.wait time), none)
  | .signal .hangUp => ({ r with daemon := r.daemon.request }, none)
  | .signal s => (r, some (.ok (.signal s)))
  | .change c => (r.move (·.change c), none)

/-- Meets occurrences until one ends the run; gives the daemon after each that does not. -/
def meetAll (r : DaemonRun L) : List Occurrence → List (DaemonRun L) × DaemonRun L × Except DaemonError ShutdownReason
  | [] =>
    let (daemon, failure) := r.daemon.finishInput
    ([], { r with daemon },
      match failure with
      | some cause => .error (.stream cause)
      | none => .ok (.endOfInput daemon.stream.stats))
  | o :: rest =>
    match r.meet o with
    | (r', some ending) => ([], r', ending)
    | (r', none) =>
      let settled := r'.move (·.settle)
      let (seen, final, ending) := meetAll settled rest
      (settled :: seen, final, ending)

/-- A run: start, occurrences, shutdown. A daemon that cannot be started is left as it is. -/
def run (r : DaemonRun L) (occurrences : List Occurrence) :
    List (DaemonRun L) × DaemonRun L × Except DaemonError ShutdownReason :=
  match r.daemon.start with
  | .error cause => ([], r, .error cause)
  | .ok daemon =>
    let started := { r with daemon }.move (·.complete)
    let ready := { started with daemon := started.daemon.openStream }.move (·.settle)
    let (seen, final, ending) := ready.meetAll occurrences
    let daemon := final.daemon.shutDown
    (seen, { daemon, rehearsal := { final.rehearsal with flight := none } }, ending)

end DaemonRun

end LogTagger
