import LogTagger.Processor
import LogTagger.Scheduler.Rehearsal

/-!
# Runs of the processor

A processor whose scheduler moves in virtual time amidst collaborators whose answers are given. The
scheduler moves only within the processor, so that the two never disagree on whether they run.
-/

namespace LogTagger

/-- A processor in the midst of the collaborators of its scheduler. -/
structure ProcessorRun (L : PatternLanguage) where
  /-- The processor. -/
  processor : Processor L
  /-- Its scheduler with the collaborators. -/
  rehearsal : Rehearsal

namespace ProcessorRun

variable {L : PatternLanguage}

/-- Lets the scheduler move on within its surroundings. -/
def move (r : ProcessorRun L) (f : Rehearsal → Rehearsal) : ProcessorRun L :=
  let moved := f { r.rehearsal with scheduler := r.processor.scheduler }
  { processor := r.processor.withScheduler moved.scheduler, rehearsal := moved }

/-- The run with its processor moved on. -/
def withProcessor (r : ProcessorRun L) (p : Processor L) : ProcessorRun L :=
  { processor := p, rehearsal := { r.rehearsal with scheduler := p.scheduler } }

/-- Starts the processor and lets the first cycle of its scheduler come to its end. -/
def start (r : ProcessorRun L) : Except LifecycleError (ProcessorRun L) :=
  r.processor.start.map (fun p => (r.withProcessor p).move (·.complete))

/-- Stops the processor; an answer on its way is lost. -/
def stop (r : ProcessorRun L) : Except LifecycleError (ProcessorRun L) :=
  r.processor.stop.map (fun p => (r.withProcessor p).move (fun w => { w with flight := none }))

end ProcessorRun

end LogTagger
