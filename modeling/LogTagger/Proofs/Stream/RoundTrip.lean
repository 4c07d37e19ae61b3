import LogTagger.Proofs.Record.RoundTrip
import LogTagger.Proofs.Stream.Resilience

/-!
# Written lines are read back

The stream writes for the records of a line one line of its own, and that line holds the records as they
were enriched: **`takeLine_reads_back`**. It rests on what reading and writing have in common, records
that are `Codable`: records that were read are, and stay so when they are enriched, since enrichment
sets attributes to strings and leaves all else alone.

A double is not always read back from its text, because the reader rounds twice; that those in the line
are is assumed.
-/

namespace LogTagger

/-! ### Lines -/

/-- A text that neither begins nor ends with a blank stays as it is. -/
theorem Text.trim_eq_self {front back : Char} (hfront : isBlank front = false) (hback : isBlank back = false)
    (cs : List Char) : trim (String.ofList (front :: (cs ++ [back]))) = String.ofList (front :: (cs ++ [back])) := by
  have hstart : (front :: (cs ++ [back])).dropWhile isBlank = front :: (cs ++ [back]) :=
    List.dropWhile_cons_of_neg (by simp [hfront])
  have hend : (front :: (cs ++ [back])).reverse.dropWhile isBlank = (front :: (cs ++ [back])).reverse := by
    rw [← List.cons_append, List.reverse_append, List.reverse_singleton, List.singleton_append]
    exact List.dropWhile_cons_of_neg (by simp [hback])
  rw [trim, String.toList_ofList, hstart, trimEndChars, hend, List.reverse_reverse]

/-- Records that a line holds can be written and read back. -/
theorem InputLine.codable_of_logs {text : String} {b : ResourceLogs} (h : ofText text = .logs b) : b.Codable :=
  ResourceLogs.codable_of_ofText? (ofText?_trim_of_logs h)

/-- The line of records that can be written holds them. -/
theorem InputLine.ofText_line {b : ResourceLogs} (hb : b.Codable) (h : b.toJson.Legible) : ofText b.line = .logs b := by
  obtain ⟨cs, hline⟩ : ∃ cs, b.line = String.ofList ('\x7b' :: (cs ++ ['\x7d'])) := ⟨_, rfl⟩
  refine ofText_of_eq_some ?_ ?_ (ResourceLogs.ofText?_line hb h)
  · rw [hline]
    exact Text.trim_eq_self rfl rfl cs
  · rw [hline]
    simp

/-! ### Enriched records -/

namespace Resource

theorem canonical_setText {r : Resource} (h : r.attributes.Canonical) (key value : String) :
    (r.setText key value).attributes.Canonical := by
  intro e he
  rcases SortedMap.mem_insertEntry he with rfl | he
  · exact AttributeValue.canonical_string value
  · exact h e he

theorem canonical_setTexts {r : Resource} (h : r.attributes.Canonical) (attributes : List (String × AttributeValue)) :
    (r.setTexts attributes).attributes.Canonical := by
  rw [setTexts]
  induction attributes generalizing r with
  | nil => exact h
  | cons e rest ih =>
    rw [List.foldl_cons]
    exact ih (canonical_setText h e.1 e.2.text)

end Resource

namespace Enricher

variable {L : PatternLanguage} (e : Enricher L) (cache : DocumentCache)

theorem canonical_tag {r : Resource} (h : r.attributes.Canonical) (agent : Bool) :
    (tag agent r).attributes.Canonical := by
  cases agent with
  | true => exact Resource.canonical_setText h agentAttribute "true"
  | false => exact h

theorem canonical_enrich {r : Resource} (h : r.attributes.Canonical) :
    (e.enrich cache r).resource.attributes.Canonical := by
  rw [enrich]
  split
  case h_1 => exact h
  case h_2 id hid =>
    dsimp only
    split
    case h_1 => exact canonical_tag h _
    case h_2 document hdocument =>
      split
      case h_1 => exact canonical_tag h _
      case h_2 => exact Resource.canonical_setTexts (canonical_tag h _) _

/-- Enriched records can be written and read back. -/
theorem codable_enrichLogs {b : ResourceLogs} (h : b.Codable) : (e.enrichLogs cache b).Codable where
  resource := e.canonical_enrich cache h.resource
  records := h.records

end Enricher

/-! ### The line that is written -/

namespace LogStream

variable {L : PatternLanguage}

/-- The step of a run at a line writes a line of its own, which holds some records. -/
structure Rewrites (s : LogStream L) (octets : List UInt8) (b : ResourceLogs) : Prop where
  ok : (s.takeLine octets).2 = none
  /-- What is written is the line and a newline. -/
  output : (s.takeLine octets).1.sink.content.data.toList =
    s.sink.content.data.toList ++ (Text.encode b.line.toList ++ [10])
  /-- There is no other newline in it. -/
  newline : 10 ∉ Text.encode b.line.toList
  /-- The line is a text that holds the records. -/
  text : Text.ofOctets? (Text.encode b.line.toList) = some b.line
  reads : InputLine.ofText b.line = .logs b

/-- **The line that is written for records holds them as they were enriched.** -/
theorem takeLine_reads_back (s : LogStream L) (hrunning : s.processor.phase = .running) (hroom : s.sink.room = none)
    {octets : List UInt8} {text : String} (htext : Text.ofOctets? octets = some text) {b : ResourceLogs}
    (hb : InputLine.ofText text = .logs b)
    (hdoubles : (s.processor.enricher.enrichLogs s.processor.cache b).toJson.Legible) :
    Rewrites s octets (s.processor.enricher.enrichLogs s.processor.cache b) := by
  have htake : s.takeLine octets = s.pass b := by
    rw [takeLine, htext]
    simp only [hb]
  have hcodable : (s.processor.enricher.enrichLogs s.processor.cache b).Codable :=
    Enricher.codable_enrichLogs _ _ (InputLine.codable_of_logs hb)
  obtain ⟨hok, htaken⟩ := pass_taken s hrunning hroom b
  refine ⟨htake ▸ hok, ?_, newline_not_mem_line _, ?_, InputLine.ofText_line hcodable hdoubles⟩
  · rw [htake, htaken.output, ← data_lineOctets]
    exact congrArg (_ ++ ·) (List.append_nil _)
  · rw [Text.ofOctets?_encode, String.ofList_toList]

/-- A processor that is running and has the document of a container. -/
def stockedProcessor : Processor (regularExpressions id) where
  phase := .running
  scheduler :=
    { interval := 1000
      cache := { documents := SortedMap.empty.insert "ab" (.object [("Name", .string "web")]) } }
  enricher := { sources := ["id"], filter := .allowAll, flattener := {} }

/-- Records of that container, with minus zero for a body. -/
def containerBatch : ResourceLogs where
  resource := { attributes := SortedMap.empty.insert "id" (.string "ab") }
  records := [{ timeUnixNano := 7, body := .number (.double (.zero true)) }]

/-- A line that holds these records, with the fields of a record by position. -/
def containerLine : String := "\x7b\"resource\":[\x7b\"id\":\"ab\"\x7d],\"records\":[[7,\"\",-0]]\x7d"

theorem ofText_containerLine : InputLine.ofText containerLine = .logs containerBatch := by
  have hdraft : Json.Reader.draft? containerLine.toList =
      some (.object
        [(Json.unitsOf "resource", .array [.object [(Json.unitsOf "id", .string (Json.unitsOf "ab"))]]),
          (Json.unitsOf "records",
            .array [.array [.number ⟨false, [7], none, none⟩, .string [], .number ⟨true, [0], none, none⟩]])]) := by
    cbv
  refine InputLine.ofText_of_eq_some (by cbv) (by cbv) ?_
  rw [ResourceLogs.ofText?, hdraft, Option.bind_some]
  cbv

/-- Minus zero is read back, and so are the records that hold it. -/
theorem containerLine_reads_back :
    (stockedProcessor.enricher.enrichLogs stockedProcessor.cache containerBatch).toJson.Legible ∧
      Rewrites { processor := stockedProcessor } (Text.encode containerLine.toList)
        (stockedProcessor.enricher.enrichLogs stockedProcessor.cache containerBatch) := by
  have hdoubles : (stockedProcessor.enricher.enrichLogs stockedProcessor.cache containerBatch).toJson.doubles =
      [.zero true] := by
    cbv
  have hzero : (FiniteDouble.zero true).ReadsBack := by
    rw [FiniteDouble.ReadsBack]
    cbv
  have hlegible : (stockedProcessor.enricher.enrichLogs stockedProcessor.cache containerBatch).toJson.Legible := by
    intro x hx
    rw [hdoubles, List.mem_singleton] at hx
    exact hx ▸ hzero
  have htext : Text.ofOctets? (Text.encode containerLine.toList) = some containerLine := by
    rw [Text.ofOctets?_encode, String.ofList_toList]
  exact ⟨hlegible, takeLine_reads_back { processor := stockedProcessor } rfl rfl htext ofText_containerLine hlegible⟩

end LogStream

/-! ### All lines of a run -/

namespace InputLine

theorem exists_line_of_mem_batches {text : String} {b : ResourceLogs} (hb : b ∈ batches (ofLines text)) :
    ∃ line, ofText line = .logs b := by
  obtain ⟨input, hinput, hbatch⟩ := List.mem_filterMap.mp hb
  obtain ⟨cs, -, hline⟩ := List.mem_map.mp hinput
  cases input with
  | logs batch =>
    obtain rfl := Option.some.inj hbatch
    exact ⟨String.ofList cs, hline⟩
  | blank | malformed => cases hbatch

/-- Of lines that end with newlines each is a line, and after the last one stands an empty one. -/
theorem ofLines_flatMap {lines : List (List Char)} (h : ∀ line ∈ lines, '\n' ∉ line) :
    ofLines (String.ofList (lines.flatMap (· ++ ['\n']))) =
      lines.map (fun line => ofText (String.ofList line)) ++ [.blank] := by
  have hsplit : (lines.flatMap (· ++ ['\n'])).splitOn '\n' = lines ++ [[]] := by
    induction lines with
    | nil => rfl
    | cons line rest ih =>
      obtain ⟨hline, hrest⟩ := List.forall_mem_cons.mp h
      rw [List.flatMap_cons, List.append_assoc, List.singleton_append, List.splitOn_append_cons_self,
        List.splitOn_eq_singleton hline, ih hrest]
      rfl
  rw [ofLines, String.toList_ofList, hsplit, List.map_append]
  rfl

end InputLine

namespace LogStream

variable {L : PatternLanguage}

/-- **What a run writes for a text is a text whose lines hold the enriched records**, in the order of the
lines that they came from. -/
theorem run_reads_back (p : Processor L) (hrunning : p.phase = .running) (content : ByteArray) (text : String)
    (hdoubles : ∀ b ∈ InputLine.batches (InputLine.ofLines text), (p.enricher.enrichLogs p.cache b).toJson.Legible) :
    ∃ written : String,
      ((starting p content).run text.toUTF8.data.toList).1.sink.content.data.toList =
        content.data.toList ++ Text.encode written.toList ∧
      InputLine.ofLines written =
        (InputLine.batches (InputLine.ofLines text)).map (fun b => .logs (p.enricher.enrichLogs p.cache b)) ++
          [.blank] := by
  let batches := InputLine.batches (InputLine.ofLines text)
  let lines : List (List Char) := batches.map fun b => (p.enricher.enrichLogs p.cache b).line.toList
  have hlines : ∀ line ∈ lines, '\n' ∉ line := by
    intro line hline
    obtain ⟨b, -, rfl⟩ := List.mem_map.mp hline
    exact fun hnewline => newline_not_mem_line _ (Text.newline_mem_encode_iff.mpr hnewline)
  refine ⟨String.ofList (lines.flatMap (· ++ ['\n'])), ?_, ?_⟩
  · have houtput : outputOf p = fun b => Text.encode ((p.enricher.enrichLogs p.cache b).line.toList ++ ['\n']) := by
      funext b
      rw [outputOf, data_lineOctets, Text.encode_append]
      rfl
    rw [run_eq_takeInputs, (transduced p hrunning content _).output, String.toList_ofList, houtput]
    simp only [lines, batches, Text.encode, List.flatMap_map, List.flatMap_assoc]
  · rw [InputLine.ofLines_flatMap hlines, List.map_map]
    refine congrArg (· ++ _) (List.map_congr_left fun b hb => ?_)
    obtain ⟨line, hline⟩ := InputLine.exists_line_of_mem_batches hb
    have hcodable := Enricher.codable_enrichLogs p.enricher p.cache (InputLine.codable_of_logs hline)
    simp [InputLine.ofText_line hcodable (hdoubles b hb)]

end LogStream

end LogTagger
