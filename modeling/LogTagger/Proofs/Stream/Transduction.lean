import LogTagger.Daemon.Stream
import LogTagger.Proofs.Json.Printer
import LogTagger.Proofs.Text.Octets

/-!
# What the stream makes of a text

A stream takes the lines of a text one after the other, and each leaves its own trace: a blank line
none, a line without records a count, and records a line of output. `takeInput_taken` says what one line
does, `takeInputs_taken` what all of them do together, and **`transduces_text`** that the lines of the stream
are those of the text: nothing is lost, added or moved.
-/

namespace LogTagger

namespace InputLine

variable {text : String}

/-- A line without blanks at its ends holds the records that it describes. -/
theorem ofText_of_eq_some (htrim : Text.trim text = text) (hne : text.isEmpty = false) {b : ResourceLogs}
    (h : ResourceLogs.ofText? text = some b) : ofText text = .logs b := by
  rw [ofText, htrim]
  simp only [hne, Bool.false_eq_true, if_false, h]

theorem ofText_of_eq_none (htrim : Text.trim text = text) (hne : text.isEmpty = false)
    (h : ResourceLogs.ofText? text = none) : ofText text = .malformed := by
  rw [ofText, htrim]
  simp only [hne, Bool.false_eq_true, if_false, h]

/-- The records of a line were read from the text between the blanks at its ends. -/
theorem ofText?_trim_of_logs {b : ResourceLogs} (h : ofText text = .logs b) :
    ResourceLogs.ofText? (Text.trim text) = some b := by
  rw [ofText] at h
  split at h
  case isTrue => cases h
  case isFalse =>
    split at h
    case h_1 batch hread => rw [hread, InputLine.logs.inj h]
    case h_2 => cases h

/-- A newline at the end of a line is a blank. -/
theorem ofText_newline (cs : List Char) : ofText (String.ofList (cs ++ ['\n'])) = ofText (String.ofList cs) := by
  have hblank : Text.isBlank '\n' = true := rfl
  have htrim : Text.trim (String.ofList (cs ++ ['\n'])) = Text.trim (String.ofList cs) := by
    rw [Text.trim, Text.trim, String.toList_ofList, String.toList_ofList, List.dropWhile_append]
    split
    case isTrue hempty => rw [List.isEmpty_iff.mp hempty, List.dropWhile_cons_of_pos hblank, List.dropWhile_nil]
    case isFalse =>
      rw [Text.trimEndChars, List.reverse_append, List.reverse_singleton, List.singleton_append,
        List.dropWhile_cons_of_pos hblank, Text.trimEndChars]
  rw [ofText, ofText, htrim]

/-- The records of a line, if it holds some. -/
def batch? : InputLine → Option ResourceLogs
  | .logs batch => some batch
  | _ => none

/-- Whether a line is malformed. -/
def isMalformed : InputLine → Bool
  | .malformed => true
  | _ => false

/-- What the lines of a text hold, in order. -/
def ofLines (text : String) : List InputLine :=
  (text.toList.splitOn '\n').map (fun line => InputLine.ofText (String.ofList line))

/-- The records of several lines, in order. -/
def batches (inputs : List InputLine) : List ResourceLogs := inputs.filterMap batch?

/-- The number of malformed lines among several. -/
def malformedCount (inputs : List InputLine) : Nat := inputs.countP isMalformed

theorem batches_append (l r : List InputLine) : batches (l ++ r) = batches l ++ batches r :=
  List.filterMap_append

theorem malformedCount_append (l r : List InputLine) : malformedCount (l ++ r) = malformedCount l + malformedCount r :=
  List.countP_append

end InputLine

/-! ### The counters of input lines -/

namespace Metrics

theorem count_inputLines_countCollisions (m : Metrics) (collisions : Nat × Nat) (ok : Bool) :
    (m.countCollisions collisions).count (.inputLines ok) = m.count (.inputLines ok) := by
  rw [countCollisions]
  split
  · rfl
  · simp [count_add]

theorem count_inputLines_countBatch (m : Metrics) (s : EnrichSummary) (ok : Bool) :
    (m.countBatch s).count (.inputLines ok) = m.count (.inputLines ok) := by
  simp [countBatch, count_add]

end Metrics

/-- Enrichment does not count lines. -/
theorem Enricher.count_inputLines_process {L : PatternLanguage} (e : Enricher L) (cache : DocumentCache)
    (metrics : Metrics) (batch : List ResourceLogs) (ok : Bool) :
    (e.process cache metrics batch).2.2.count (.inputLines ok) = metrics.count (.inputLines ok) := by
  have hfold : ∀ (done : List Enrichment) (m : Metrics),
      (done.foldl (fun m d => m.countCollisions d.collisions) m).count (.inputLines ok) = m.count (.inputLines ok) := by
    intro done
    induction done with
    | nil => exact fun m => rfl
    | cons d rest ih =>
      intro m
      rw [List.foldl_cons, ih, Metrics.count_inputLines_countCollisions]
  rw [process]
  exact (Metrics.count_inputLines_countBatch _ _ ok).trans (hfold _ metrics)

namespace LogStream

variable {L : PatternLanguage} {s t u : LogStream L}

/-- Takes what a line holds. -/
def takeInput (s : LogStream L) : InputLine → LogStream L × Option StreamError
  | .blank => (s, none)
  | .malformed => (s.skip, none)
  | .logs b => s.pass b

/-- Takes what lines hold until one fails. -/
def takeInputs (s : LogStream L) : List InputLine → LogStream L × Option StreamError
  | [] => (s, none)
  | input :: rest =>
    match s.takeInput input with
    | (s', none) => takeInputs s' rest
    | (s', some cause) => (s', some cause)

/-- A stream that begins with a processor, behind some octets of output. -/
def starting (p : Processor L) (content : ByteArray) : LogStream L := { processor := p, sink := { content } }

@[simp] theorem stats_starting (p : Processor L) (content : ByteArray) : (starting p content).stats = {} := rfl

/-- The octets that are written for the records of a line. -/
def outputOf (p : Processor L) (b : ResourceLogs) : List UInt8 :=
  (lineOctets (p.enricher.enrichLogs p.cache b)).data.toList

/-! ### The lines of a text -/

theorem takeLine_encode (s : LogStream L) (cs : List Char) :
    s.takeLine (Text.encode cs) = s.takeInput (InputLine.ofText (String.ofList cs)) := by
  simp only [takeLine, Text.ofOctets?_encode]
  cases InputLine.ofText (String.ofList cs) <;> rfl

theorem takeLines_map_encode (s : LogStream L) (lines : List (List Char)) :
    s.takeLines (lines.map Text.encode) = s.takeInputs (lines.map (fun cs => InputLine.ofText (String.ofList cs))) := by
  induction lines generalizing s with
  | nil => rfl
  | cons cs rest ih =>
    rw [List.map_cons, takeLines, takeLine_encode, List.map_cons, takeInputs]
    rcases s.takeInput (InputLine.ofText (String.ofList cs)) with ⟨s', none | cause⟩
    · exact ih s'
    · rfl

/-- An empty line at the end makes no difference. -/
theorem takeLines_concat_nil (s : LogStream L) (lines : List (List UInt8)) :
    s.takeLines (lines ++ [[]]) = s.takeLines lines := by
  induction lines generalizing s with
  | nil => exact takeLine_encode s []
  | cons line rest ih =>
    rw [List.cons_append, takeLines, takeLines]
    split
    case h_1 s' h => rw [ih]
    case h_2 s' cause h => rfl

/-- Of lines that are texts the newlines make no difference. -/
theorem takeLines_newlines (s : LogStream L) {ended : List (List UInt8)}
    (h : ∀ line ∈ ended, (Text.ofOctets? line).isSome = true) (more : List (List UInt8)) :
    s.takeLines (ended.map (· ++ [10]) ++ more) = s.takeLines (ended ++ more) := by
  induction ended generalizing s with
  | nil => rfl
  | cons line rest ih =>
    rw [List.forall_mem_cons] at h
    obtain ⟨text, htext⟩ := Option.isSome_iff_exists.mp h.1
    have hline : s.takeLine (line ++ [10]) = s.takeLine line := by
      have henc : Text.encode ['\n'] = [10] := by decide
      rw [Text.ofOctets?_eq_some_iff.mp htext, ← henc, ← Text.encode_append, takeLine_encode, takeLine_encode,
        InputLine.ofText_newline]
    rw [List.map_cons, List.cons_append, List.cons_append, takeLines, takeLines, hline]
    split
    case h_1 s' _ => exact ih s' h.2
    case h_2 s' cause _ => rfl

/-- The lines of a text are its octets split at newlines. -/
theorem run_eq_takeLines (s : LogStream L) {octets : List UInt8} (h : (Text.ofOctets? octets).isSome = true) :
    s.run octets = s.takeLines (octets.splitOn 10) := by
  obtain ⟨ended, hended, hsplit⟩ := Text.exists_splitLines octets
  rw [Text.isSome_ofOctets?_iff, ← hsplit] at h
  have htexts := fun line hline => h line (List.mem_append_left _ hline)
  rw [run, Text.lines, ← hsplit]
  dsimp only
  rw [hended]
  split
  case isTrue hempty =>
    rw [List.isEmpty_iff.mp hempty, takeLines_concat_nil, ← List.append_nil (ended.map _), takeLines_newlines s htexts,
      List.append_nil]
  case isFalse => exact takeLines_newlines s htexts _

/-- The stream takes what the lines of a text hold. -/
theorem run_eq_takeInputs (s : LogStream L) (text : String) :
    s.run text.toUTF8.data.toList = s.takeInputs (InputLine.ofLines text) := by
  have htext : (Text.ofOctets? (Text.encode text.toList)).isSome = true := by
    rw [Text.ofOctets?_encode, Option.isSome_some]
  rw [Text.data_toUTF8, run_eq_takeLines s htext, Text.splitOn_encode, takeLines_map_encode]
  rfl

/-! ### A running processor -/

/-- What a stream has taken when it took lines with a processor that is running. -/
structure Taken (s : LogStream L) (inputs : List InputLine) (t : LogStream L) : Prop where
  /-- Lines are counted by what they hold. -/
  stats : t.stats =
    { lines := s.stats.lines + ((InputLine.batches inputs).length + InputLine.malformedCount inputs)
      written := s.stats.written + (InputLine.batches inputs).length
      malformed := s.stats.malformed + InputLine.malformedCount inputs }
  /-- For the records of each line a line is written, in order. -/
  output : t.sink.content.data.toList =
    s.sink.content.data.toList ++ (InputLine.batches inputs).flatMap (outputOf s.processor)
  room : t.sink.room = none
  okLines : t.processor.metrics.count (.inputLines true) =
    s.processor.metrics.count (.inputLines true) + (InputLine.batches inputs).length
  malformedLines : t.processor.metrics.count (.inputLines false) =
    s.processor.metrics.count (.inputLines false) + InputLine.malformedCount inputs
  phase : t.processor.phase = s.processor.phase
  enricher : t.processor.enricher = s.processor.enricher
  cache : t.processor.cache = s.processor.cache

/-- Lines that are not counted leave no trace. -/
theorem Taken.rest (hroom : s.sink.room = none) {inputs : List InputLine} (hbatches : InputLine.batches inputs = [])
    (hmalformed : InputLine.malformedCount inputs = 0) : Taken s inputs s where
  stats := by rw [hbatches, hmalformed]; rfl
  output := by simp [hbatches]
  room := hroom
  okLines := by rw [hbatches]; rfl
  malformedLines := by rw [hmalformed]; rfl
  phase := rfl
  enricher := rfl
  cache := rfl

theorem Taken.outputOf_eq {inputs : List InputLine} (h : Taken s inputs t) :
    outputOf t.processor = outputOf s.processor := by
  funext b
  rw [outputOf, outputOf, h.enricher, h.cache]

theorem Taken.append {l r : List InputLine} (hl : Taken s l t) (hr : Taken t r u) : Taken s (l ++ r) u where
  stats := by
    rw [hr.stats, hl.stats, InputLine.batches_append, InputLine.malformedCount_append, List.length_append]
    simp only [StreamStats.mk.injEq]
    omega
  output := by
    rw [hr.output, hl.output, hl.outputOf_eq, InputLine.batches_append, List.flatMap_append, List.append_assoc]
  room := hr.room
  okLines := by
    rw [hr.okLines, hl.okLines, InputLine.batches_append, List.length_append, Nat.add_assoc]
  malformedLines := by
    rw [hr.malformedLines, hl.malformedLines, InputLine.malformedCount_append, Nat.add_assoc]
  phase := hr.phase.trans hl.phase
  enricher := hr.enricher.trans hl.enricher
  cache := hr.cache.trans hl.cache

theorem count_countLine (s : LogStream L) (ok ok' : Bool) :
    (s.countLine ok).processor.metrics.count (.inputLines ok') =
      s.processor.metrics.count (.inputLines ok') + if ok' = ok then 1 else 0 := by
  change (s.processor.metrics.add (.inputLines ok) 1).count (.inputLines ok') = _
  simp only [Metrics.count_add, Series.inputLines.injEq]
  split
  case isTrue h => rw [h]
  case isFalse => rfl

theorem skip_taken (s : LogStream L) (hroom : s.sink.room = none) : Taken s [.malformed] s.skip where
  stats := rfl
  output := by simp [InputLine.batches, InputLine.batch?, skip, countLine]
  room := hroom
  okLines := count_countLine _ false true
  malformedLines := count_countLine _ false false
  phase := rfl
  enricher := rfl
  cache := rfl

/-- A running processor takes the records of a line, and the line that is written for them is its
last. -/
theorem pass_taken (s : LogStream L) (hrunning : s.processor.phase = .running) (hroom : s.sink.room = none)
    (b : ResourceLogs) : (s.pass b).2 = none ∧ Taken s [.logs b] (s.pass b).1 := by
  obtain ⟨metrics, hprocess, hcount⟩ : ∃ metrics : Metrics,
      s.processor.processLogs [b] =
        .ok (s.processor.withMetrics metrics, [s.processor.enricher.enrichLogs s.processor.cache b]) ∧
      ∀ ok, metrics.count (.inputLines ok) = s.processor.metrics.count (.inputLines ok) := by
    refine ⟨(s.processor.enricher.process s.processor.cache s.processor.metrics [b]).2.2, ?_, fun ok =>
      Enricher.count_inputLines_process _ _ _ _ ok⟩
    rw [Processor.processLogs, if_pos hrunning]
    rfl
  have hwrite : writeAll s.sink [s.processor.enricher.enrichLogs s.processor.cache b] =
      ({ content := s.sink.content ++ lineOctets (s.processor.enricher.enrichLogs s.processor.cache b) }, true) := by
    rw [writeAll, Sink.write, hroom]
    rfl
  have hpass : s.pass b =
      (countLine
        { processor := s.processor.withMetrics metrics
          stats := { s.stats with lines := s.stats.lines + 1, written := s.stats.written + 1 }
          sink :=
            { content := s.sink.content ++ lineOctets (s.processor.enricher.enrichLogs s.processor.cache b) } } true,
        none) := by
    rw [pass, hprocess]
    dsimp only
    rw [hwrite]
    rfl
  rw [hpass]
  refine ⟨rfl, rfl, ?_, rfl, ?_, ?_, rfl, rfl, rfl⟩
  · simp [countLine, InputLine.batches, InputLine.batch?, outputOf]
  · exact (count_countLine _ true true).trans (by rw [if_pos rfl]; exact congrArg (· + 1) (hcount true))
  · exact (count_countLine _ true false).trans (by rw [if_neg (by decide)]; exact hcount false)

theorem takeInput_taken (s : LogStream L) (hrunning : s.processor.phase = .running) (hroom : s.sink.room = none)
    (input : InputLine) : (s.takeInput input).2 = none ∧ Taken s [input] (s.takeInput input).1 := by
  cases input with
  | blank => exact ⟨rfl, .rest hroom rfl rfl⟩
  | malformed => exact ⟨rfl, skip_taken s hroom⟩
  | logs b => exact pass_taken s hrunning hroom b

/-- A stream with a running processor takes all lines. -/
theorem takeInputs_taken (s : LogStream L) (hrunning : s.processor.phase = .running) (hroom : s.sink.room = none)
    (inputs : List InputLine) : (s.takeInputs inputs).2 = none ∧ Taken s inputs (s.takeInputs inputs).1 := by
  induction inputs generalizing s with
  | nil => exact ⟨rfl, .rest hroom rfl rfl⟩
  | cons input rest ih =>
    obtain ⟨hnone, htaken⟩ := takeInput_taken s hrunning hroom input
    obtain ⟨hrest, hlater⟩ := ih _ (htaken.phase.trans hrunning) htaken.room
    have heq : s.takeInputs (input :: rest) = (s.takeInput input).1.takeInputs rest := by
      rw [takeInputs]
      split
      case h_1 s' h => rw [h]
      case h_2 s' cause h => rw [h] at hnone; cases hnone
    rw [heq]
    exact ⟨hrest, htaken.append hlater⟩

/-! ### A processor that is not running -/

theorem takeInputs_append_of_none {l : List InputLine} (h : (s.takeInputs l).2 = none) (r : List InputLine) :
    s.takeInputs (l ++ r) = (s.takeInputs l).1.takeInputs r := by
  induction l generalizing s with
  | nil => rfl
  | cons input rest ih =>
    rw [takeInputs] at h
    rw [List.cons_append, takeInputs, takeInputs]
    split at h
    case h_1 s' htake => exact ih h
    case h_2 s' cause htake => cases h

/-- Lines without records are counted and skipped, whatever the processor does. -/
theorem takeInputs_of_no_batch (s : LogStream L) {inputs : List InputLine} (h : InputLine.batches inputs = []) :
    (s.takeInputs inputs).2 = none ∧ (s.takeInputs inputs).1.sink = s.sink ∧
      (s.takeInputs inputs).1.processor.phase = s.processor.phase ∧
      (s.takeInputs inputs).1.stats =
        { s.stats with
          lines := s.stats.lines + InputLine.malformedCount inputs
          malformed := s.stats.malformed + InputLine.malformedCount inputs } := by
  induction inputs generalizing s with
  | nil => exact ⟨rfl, rfl, rfl, rfl⟩
  | cons input rest ih =>
    cases input with
    | blank => exact ih s h
    | malformed =>
      obtain ⟨hnone, hsink, hphase, hstats⟩ := ih s.skip h
      refine ⟨hnone, hsink, hphase, hstats.trans ?_⟩
      have hcount : InputLine.malformedCount (.malformed :: rest) = InputLine.malformedCount rest + 1 := by
        rw [InputLine.malformedCount, List.countP_cons_of_pos rfl]
        rfl
      rw [hcount, StreamStats.mk.injEq]
      exact ⟨by simp only [skip, countLine]; omega, rfl, by simp only [skip, countLine]; omega⟩
    | logs b => cases h

theorem pass_of_not_running (s : LogStream L) (h : s.processor.phase ≠ .running) (b : ResourceLogs) :
    s.pass b =
      ({ s with stats := { s.stats with lines := s.stats.lines + 1 } },
        some (.line (s.stats.lines + 1) .notRunning)) := by
  rw [pass, Processor.processLogs, if_neg h]

/-- The first records are refused by a processor that is not running. -/
theorem takeInputs_of_first_batch (s : LogStream L) (h : s.processor.phase ≠ .running) {before : List InputLine}
    (hbefore : InputLine.batches before = []) (b : ResourceLogs) (after : List InputLine) :
    (s.takeInputs (before ++ .logs b :: after)).2 =
        some (.line (s.stats.lines + InputLine.malformedCount before + 1) .notRunning) ∧
      (s.takeInputs (before ++ .logs b :: after)).1.sink = s.sink ∧
      (s.takeInputs (before ++ .logs b :: after)).1.stats =
        { s.stats with
          lines := s.stats.lines + InputLine.malformedCount before + 1
          malformed := s.stats.malformed + InputLine.malformedCount before } := by
  obtain ⟨hnone, hsink, hphase, hstats⟩ := takeInputs_of_no_batch s hbefore
  have hpass := pass_of_not_running (s.takeInputs before).1 (hphase ▸ h) b
  rw [takeInputs_append_of_none hnone, takeInputs, takeInput, hpass]
  simp only [hstats, hsink, and_self]

theorem exists_first_batch (inputs : List InputLine) :
    InputLine.batches inputs = [] ∨
      ∃ before b after, inputs = before ++ .logs b :: after ∧ InputLine.batches before = [] := by
  induction inputs with
  | nil => exact .inl rfl
  | cons input rest ih =>
    cases input with
    | logs b => exact .inr ⟨[], b, rest, rfl, rfl⟩
    | blank | malformed =>
      rcases ih with hnone | ⟨before, b, after, rfl, hbefore⟩
      · exact .inl hnone
      · exact .inr ⟨_ :: before, b, after, rfl, hbefore⟩

/-! ### The whole of it -/

/-- What is written for records is their line and a newline. -/
theorem data_lineOctets (b : ResourceLogs) : (lineOctets b).data.toList = Text.encode b.line.toList ++ [10] := by
  rw [lineOctets, Text.data_toUTF8, String.toList_append, Text.encode_append]
  rfl

theorem newline_not_mem_line (b : ResourceLogs) : 10 ∉ Text.encode b.line.toList := by
  rw [Text.newline_mem_encode_iff, ResourceLogs.line, Json.render, String.toList_ofList]
  exact Json.newline_not_mem_chars _

/-- A written line holds one newline, which is its last octet. -/
theorem count_newline_outputOf (p : Processor L) (b : ResourceLogs) : (outputOf p b).count 10 = 1 := by
  rw [outputOf, data_lineOctets, List.count_append, List.count_eq_zero.mpr (newline_not_mem_line _)]
  rfl

theorem count_newline_flatMap_outputOf (p : Processor L) (batches : List ResourceLogs) :
    (batches.flatMap (outputOf p)).count 10 = batches.length := by
  induction batches with
  | nil => rfl
  | cons b rest ih =>
    rw [List.flatMap_cons, List.count_append, count_newline_outputOf, ih, List.length_cons, Nat.add_comm]

/-- What a new stream makes of lines, with a processor that is running. -/
structure Transduced (p : Processor L) (content : ByteArray) (inputs : List InputLine)
    (result : LogStream L × Option StreamError) : Prop where
  /-- It does not fail. -/
  ok : result.2 = none
  /-- It counts the lines that hold records as written, those that are malformed as such, and no
  others. -/
  stats : result.1.stats =
    { lines := (InputLine.batches inputs).length + InputLine.malformedCount inputs
      written := (InputLine.batches inputs).length
      malformed := InputLine.malformedCount inputs }
  /-- It writes the lines of the enriched records, in order, and nothing else. -/
  output : result.1.sink.content.data.toList =
    content.data.toList ++ (InputLine.batches inputs).flatMap (outputOf p)
  /-- Each written line ends with the only newline in it. -/
  newlines : ((InputLine.batches inputs).flatMap (outputOf p)).count 10 = result.1.stats.written
  /-- The counters grow by the lines. -/
  okLines : result.1.processor.metrics.count (.inputLines true) =
    p.metrics.count (.inputLines true) + result.1.stats.written
  malformedLines : result.1.processor.metrics.count (.inputLines false) =
    p.metrics.count (.inputLines false) + result.1.stats.malformed
  /-- The cache stays as it is. -/
  cache : result.1.processor.cache = p.cache

/-- What a new stream makes of lines, with a processor that is not running. -/
structure Refused (content : ByteArray) (inputs : List InputLine)
    (result : LogStream L × Option StreamError) : Prop where
  /-- It writes nothing. -/
  output : result.1.sink.content = content
  written : result.1.stats.written = 0
  /-- It fails at the first line that holds records. -/
  fails : ∀ before b after, inputs = before ++ .logs b :: after → InputLine.batches before = [] →
    result.2 = some (.line (InputLine.malformedCount before + 1) .notRunning) ∧
      result.1.stats.lines = InputLine.malformedCount before + 1
  /-- It takes lines that hold none. -/
  passes : InputLine.batches inputs = [] →
    result.2 = none ∧ result.1.stats.lines = InputLine.malformedCount inputs

theorem transduced (p : Processor L) (hrunning : p.phase = .running) (content : ByteArray) (inputs : List InputLine) :
    Transduced p content inputs ((starting p content).takeInputs inputs) := by
  obtain ⟨hnone, htaken⟩ := takeInputs_taken (starting p content) hrunning rfl inputs
  have hstats := htaken.stats
  simp only [stats_starting, Nat.zero_add] at hstats
  refine ⟨hnone, hstats, htaken.output, ?_, ?_, ?_, htaken.cache⟩
  · rw [hstats]
    exact count_newline_flatMap_outputOf p _
  · rw [hstats]
    exact htaken.okLines
  · rw [hstats]
    exact htaken.malformedLines

theorem batches_ne_nil (before : List InputLine) (b : ResourceLogs) (after : List InputLine) :
    InputLine.batches (before ++ .logs b :: after) ≠ [] := by
  rw [InputLine.batches_append]
  exact List.append_ne_nil_of_right_ne_nil _ (List.cons_ne_nil b _)

theorem refused (p : Processor L) (hrunning : p.phase ≠ .running) (content : ByteArray) (inputs : List InputLine) :
    Refused content inputs ((starting p content).takeInputs inputs) := by
  let s := starting p content
  have hfails : ∀ before b after, inputs = before ++ .logs b :: after → InputLine.batches before = [] →
      (s.takeInputs inputs).2 = some (.line (InputLine.malformedCount before + 1) .notRunning) ∧
        (s.takeInputs inputs).1.stats.lines = InputLine.malformedCount before + 1 := by
    intro before b after hinputs hbefore
    obtain ⟨hfail, -, hstats⟩ := takeInputs_of_first_batch s hrunning hbefore b after
    rw [hinputs, hfail, hstats]
    simp only [s, stats_starting, Nat.zero_add, and_self]
  rcases exists_first_batch inputs with hnone | ⟨before, b, after, hinputs, hbefore⟩
  · obtain ⟨hok, hsink, -, hstats⟩ := takeInputs_of_no_batch s hnone
    exact ⟨congrArg Sink.content hsink, congrArg StreamStats.written hstats, hfails,
      fun _ => ⟨hok, (congrArg StreamStats.lines hstats).trans (Nat.zero_add _)⟩⟩
  · obtain ⟨-, hsink, hstats⟩ := takeInputs_of_first_batch s hrunning hbefore b after
    rw [← hinputs] at hsink hstats
    exact ⟨congrArg Sink.content hsink, congrArg StreamStats.written hstats, hfails,
      fun hnone => absurd (hinputs ▸ hnone) (batches_ne_nil before b after)⟩

/-- **A stream is a transduction of the lines of a text**: with a processor that is running every line
has its effect and no other, and with one that is not nothing is written and the first records are
refused. -/
theorem transduces_text (p : Processor L) (content : ByteArray) (text : String) :
    (p.phase = .running → Transduced p content (InputLine.ofLines text)
      ((starting p content).run text.toUTF8.data.toList)) ∧
    (p.phase ≠ .running → Refused content (InputLine.ofLines text)
      ((starting p content).run text.toUTF8.data.toList)) := by
  rw [run_eq_takeInputs]
  exact ⟨fun h => transduced p h content _, fun h => refused p h content _⟩

/-- A processor that is running. -/
def runningProcessor (L : PatternLanguage) : Processor L where
  phase := .running
  scheduler := { interval := 1000 }
  enricher := { sources := [], filter := .allowAll, flattener := {} }

/-- A text with a line that is malformed, a line without records, and nothing behind it. -/
def braces : String := "\x7b\n\x7b\x7d\n"

theorem ofText_brace : InputLine.ofText (String.ofList ['\x7b']) = .malformed := by
  have hdraft : Json.Reader.draft? (String.ofList ['\x7b']).toList = none := by cbv
  refine InputLine.ofText_of_eq_none (by cbv) (by cbv) ?_
  rw [ResourceLogs.ofText?, hdraft, Option.bind_none]

theorem ofLines_braces : InputLine.ofLines braces = [.malformed, .logs {}, .blank] := by
  have hlines : braces.toList.splitOn '\n' = [['\x7b'], ['\x7b', '\x7d'], []] := by cbv
  have hdraft : Json.Reader.draft? (String.ofList ['\x7b', '\x7d']).toList = some (.object []) := by cbv
  have hbraces : InputLine.ofText (String.ofList ['\x7b', '\x7d']) = .logs {} := by
    refine InputLine.ofText_of_eq_some (by cbv) (by cbv) ?_
    rw [ResourceLogs.ofText?, hdraft, Option.bind_some]
    rfl
  have hempty : InputLine.ofText (String.ofList []) = .blank := by cbv
  rw [InputLine.ofLines, hlines, List.map_cons, List.map_cons, List.map_cons, List.map_nil, ofText_brace, hbraces,
    hempty]

/-- One line of it is skipped and one is written, or refused after the stop. -/
theorem braces_transduced :
    ((starting (runningProcessor (regularExpressions id)) .empty).run braces.toUTF8.data.toList).1.stats =
        { lines := 2, written := 1, malformed := 1 } ∧
      ((starting { runningProcessor (regularExpressions id) with phase := .stopped } .empty).run braces.toUTF8.data.toList).2 =
        some (.line 2 .notRunning) := by
  have htransduced := (transduces_text (runningProcessor (regularExpressions id)) .empty braces).1 rfl
  have hrefused := (transduces_text { runningProcessor (regularExpressions id) with phase := .stopped } .empty braces).2 (by simp)
  constructor
  · rw [htransduced.stats, ofLines_braces]
    rfl
  · exact (hrefused.fails [.malformed] {} [.blank] ofLines_braces rfl).1

end LogStream

end LogTagger
