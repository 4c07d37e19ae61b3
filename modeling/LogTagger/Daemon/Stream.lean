import LogTagger.Daemon.Error
import LogTagger.Processor
import LogTagger.Record
import LogTagger.Text.Lines

/-!
# The log stream

Lines go in, enriched lines come out. A blank line counts for nothing; a line that holds no records
is counted and skipped; any other is enriched and written at once, followed by a newline. The stream
fails at a line that is no text, at records that the processor does not take, and when the output
takes no more.
-/

namespace LogTagger

/-- The counts of a stream. -/
structure StreamStats where
  /-- The lines that were not blank. -/
  lines : Nat := 0
  /-- The lines that were written. -/
  written : Nat := 0
  /-- The lines that were skipped. -/
  malformed : Nat := 0
  deriving DecidableEq

/-- Where lines are written. -/
structure Sink where
  /-- The octets written so far. -/
  content : ByteArray := .empty
  /-- The number of octets for which there is room, if that is limited. -/
  room : Option Nat := none

namespace Sink

/-- Writes octets as far as there is room, and says whether all were written. -/
def write (s : Sink) (octets : ByteArray) : Sink × Bool :=
  match s.room with
  | none => ({ s with content := s.content ++ octets }, true)
  | some n =>
    ({ content := s.content ++ octets.extract 0 n, room := some (n - octets.size) }, octets.size ≤ n)

/-- What has been written, as text. Only text is written, so there can be fault with nothing but its
last character, of which there was room for a part; that one is replaced. -/
def text (s : Sink) : String :=
  let upTo (missing : Nat) := String.fromUTF8? (s.content.extract 0 (s.content.size - missing))
  (upTo 0).getD ((([1, 2, 3].findSome? upTo).getD "") ++ "\ufffd")

end Sink

/-- A stream with the processor that its lines go through. -/
structure LogStream (L : PatternLanguage) where
  /-- The processor. -/
  processor : Processor L
  /-- The counts. -/
  stats : StreamStats := {}
  /-- The output. -/
  sink : Sink := {}

namespace LogStream

variable {L : PatternLanguage}

/-- Counts a line in the metrics. -/
def countLine (s : LogStream L) (ok : Bool) : LogStream L :=
  { s with processor := s.processor.withMetrics (s.processor.metrics.add (.inputLines ok) 1) }

/-- Skips a line that holds no records. -/
def skip (s : LogStream L) : LogStream L :=
  { s with stats := { s.stats with lines := s.stats.lines + 1, malformed := s.stats.malformed + 1 } }.countLine false

/-- The line of the records of a resource with its newline, in octets. -/
def lineOctets (b : ResourceLogs) : ByteArray := (b.line ++ "\n").toUTF8

/-- Writes enriched records, one line each, as far as there is room. -/
def writeAll (sink : Sink) : List ResourceLogs → Sink × Bool
  | [] => (sink, true)
  | b :: rest =>
    match sink.write (lineOctets b) with
    | (sink', true) => writeAll sink' rest
    | (sink', false) => (sink', false)

/-- Enriches and writes the records of a line. -/
def pass (s : LogStream L) (b : ResourceLogs) : LogStream L × Option StreamError :=
  let number := s.stats.lines + 1
  let counted := { s with stats := { s.stats with lines := number } }
  match s.processor.processLogs [b] with
  | .error cause => (counted, some (.line number cause))
  | .ok (processor, enriched) =>
    let (sink, complete) := writeAll s.sink enriched
    let passed := { counted with processor, sink }
    if complete then
      ({ passed with stats := { passed.stats with written := s.stats.written + 1 } }.countLine true, none)
    else (passed, some .brokenPipe)

/-- Takes a line, with its newline if it has ended. -/
def takeLine (s : LogStream L) (line : List UInt8) : LogStream L × Option StreamError :=
  match Text.ofOctets? line with
  | none => (s, some (.notText (Text.faultOf line)))
  | some text =>
    match InputLine.ofText text with
    | .blank => (s, none)
    | .malformed => (s.skip, none)
    | .logs b => s.pass b

/-- Takes lines until one fails. -/
def takeLines (s : LogStream L) : List (List UInt8) → LogStream L × Option StreamError
  | [] => (s, none)
  | line :: rest =>
    match s.takeLine line with
    | (s', none) => takeLines s' rest
    | (s', some cause) => (s', some cause)

/-- Takes a whole input. -/
def run (s : LogStream L) (input : List UInt8) : LogStream L × Option StreamError := s.takeLines (Text.lines input)

end LogStream

end LogTagger
