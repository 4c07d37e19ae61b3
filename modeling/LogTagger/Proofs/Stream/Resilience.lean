import LogTagger.Proofs.Stream.Transduction
import LogTagger.Proofs.Text.Utf8

/-!
# Lines that cannot be read

A malformed line is skipped: the run counts it and goes on, and writes what it would write without it.
A line that is no text is malformed as well, but the stream fails at the first one, and all that follows is
lost (`exists_fault_takeLines`). So a bad line is skipped exactly when every line of the input is a text
(`skipped_iff`).
-/

namespace LogTagger

/-- Octets that do not make a line of records, and are not blank either. -/
def Undecodable (line : List UInt8) : Prop :=
  ∀ text, Text.ofOctets? line = some text → InputLine.ofText text = .malformed

/-- Octets after which a line begins. -/
def EndsLine (octets : List UInt8) : Prop := octets = [] ∨ ∃ front, octets = front ++ [10]

/-- Before a line there are whole lines. -/
theorem EndsLine.exists_splitOn {before : List UInt8} (h : EndsLine before) :
    ∃ lines, ∀ rest : List UInt8, (before ++ rest).splitOn 10 = lines ++ rest.splitOn 10 := by
  rcases h with rfl | ⟨front, rfl⟩
  · exact ⟨[], fun rest => rfl⟩
  · refine ⟨front.splitOn 10, fun rest => ?_⟩
    rw [List.append_assoc, List.singleton_append, List.splitOn_append_cons_self]

namespace LogStream

variable {L : PatternLanguage} {s : LogStream L}

/-- A line that is no text fails, and the failure says where it ceases to be one. -/
theorem exists_fault_takeLine {line : List UInt8} (h : Text.ofOctets? line = none) (s : LogStream L) :
    ∃ fault, s.takeLine line = (s, some (.notText fault)) ∧ Text.Located line fault :=
  ⟨_, by rw [takeLine, h], Text.faultOf_located h⟩

/-- The stream fails at a line that is no text, if it comes so far. -/
theorem takeLines_of_not_text {lines : List (List UInt8)} (h : ∃ line ∈ lines, Text.ofOctets? line = none) :
    (s.takeLines lines).2 ≠ none := by
  induction lines generalizing s with
  | nil => simp at h
  | cons line rest ih =>
    rw [takeLines]
    split
    case h_2 s' cause htake => simp
    case h_1 s' htake =>
      refine ih ?_
      obtain ⟨bad, hbad, hnone⟩ := h
      rcases List.mem_cons.mp hbad with rfl | hbad
      · obtain ⟨fault, hfault, -⟩ := exists_fault_takeLine hnone s
        rw [hfault] at htake
        cases htake
      · exact ⟨bad, hbad, hnone⟩

/-- **A running processor with room for the output fails at the first line that is no text**, and the failure says
where that ceases to be one. -/
theorem exists_fault_takeLines (hrunning : s.processor.phase = .running) (hroom : s.sink.room = none)
    {lines : List (List UInt8)} (h : ∃ line ∈ lines, Text.ofOctets? line = none) :
    ∃ front line later fault, lines = front ++ line :: later ∧ (∀ x ∈ front, (Text.ofOctets? x).isSome = true) ∧
      (s.takeLines lines).2 = some (.notText fault) ∧ Text.Located line fault := by
  induction lines generalizing s with
  | nil => simp at h
  | cons line rest ih =>
    cases htext : Text.ofOctets? line with
    | none =>
      obtain ⟨fault, hfault, hlocated⟩ := exists_fault_takeLine htext s
      exact ⟨[], line, rest, fault, rfl, by simp, by rw [takeLines, hfault], hlocated⟩
    | some text =>
      have hrest : ∃ x ∈ rest, Text.ofOctets? x = none := by
        obtain ⟨bad, hbad, hnone⟩ := h
        rcases List.mem_cons.mp hbad with rfl | hbad
        · rw [htext] at hnone
          cases hnone
        · exact ⟨bad, hbad, hnone⟩
      obtain ⟨hok, htaken⟩ := takeInput_taken s hrunning hroom (InputLine.ofText text)
      have hline : s.takeLine line = ((s.takeInput (InputLine.ofText text)).1, none) := by
        rw [Text.ofOctets?_eq_some_iff.mp htext, takeLine_encode, String.ofList_toList]
        exact Prod.ext rfl hok
      obtain ⟨front, bad, later, fault, rfl, hfront, hfault, hlocated⟩ :=
        ih (htaken.phase.trans hrunning) htaken.room hrest
      refine ⟨line :: front, bad, later, fault, rfl, ?_, ?_, hlocated⟩
      · exact List.forall_mem_cons.mpr ⟨by rw [htext, Option.isSome_some], hfront⟩
      · rw [takeLines, hline]
        exact hfault

/-- A bad line is skipped: a new stream with the processor goes on to the end of the input, counts the
line as malformed, and writes the same as without it. -/
structure Skipped (p : Processor L) (content : ByteArray) (before line after : List UInt8) : Prop where
  ok : ((starting p content).run (before ++ line ++ 10 :: after)).2 = none
  output : ((starting p content).run (before ++ line ++ 10 :: after)).1.sink.content =
    ((starting p content).run (before ++ after)).1.sink.content
  malformed : ((starting p content).run (before ++ line ++ 10 :: after)).1.stats.malformed =
    ((starting p content).run (before ++ after)).1.stats.malformed + 1

/-- Among texts a malformed line leaves a count. -/
theorem takeInputs_skips (s : LogStream L) (hrunning : s.processor.phase = .running) (hroom : s.sink.room = none)
    (l r : List InputLine) :
    (s.takeInputs (l ++ .malformed :: r)).2 = none ∧
      (s.takeInputs (l ++ .malformed :: r)).1.sink.content = (s.takeInputs (l ++ r)).1.sink.content ∧
      (s.takeInputs (l ++ .malformed :: r)).1.stats.malformed = (s.takeInputs (l ++ r)).1.stats.malformed + 1 := by
  obtain ⟨hok, hwith⟩ := takeInputs_taken s hrunning hroom (l ++ .malformed :: r)
  obtain ⟨-, hwithout⟩ := takeInputs_taken s hrunning hroom (l ++ r)
  have hbatches : InputLine.batches (l ++ .malformed :: r) = InputLine.batches (l ++ r) := by
    rw [InputLine.batches_append, InputLine.batches_append]
    rfl
  have hcount : InputLine.malformedCount (l ++ .malformed :: r) = InputLine.malformedCount (l ++ r) + 1 := by
    rw [InputLine.malformedCount_append, InputLine.malformedCount_append, InputLine.malformedCount,
      InputLine.malformedCount, InputLine.malformedCount, List.countP_cons_of_pos rfl]
    rfl
  refine ⟨hok, ?_, ?_⟩
  · apply ByteArray.ext
    apply Array.toList_inj.mp
    rw [hwith.output, hwithout.output, hbatches]
  · rw [hwith.stats, hwithout.stats, hcount]
    rfl

/-- **A bad line is skipped exactly when the input is a text**, be it by this line or another that it is
none. -/
theorem skipped_iff (p : Processor L) (hrunning : p.phase = .running) (content : ByteArray)
    {before line after : List UInt8} (hbefore : EndsLine before) (hline : 10 ∉ line) (hbad : Undecodable line) :
    Skipped p content before line after ↔ (Text.ofOctets? (before ++ line ++ 10 :: after)).isSome = true := by
  let s := starting p content
  obtain ⟨front, hfront⟩ := hbefore.exists_splitOn
  have hsplit : (before ++ line ++ 10 :: after).splitOn 10 = front ++ line :: after.splitOn 10 := by
    rw [List.append_assoc, hfront, List.splitOn_append_cons_self, List.splitOn_eq_singleton hline]
    rfl
  constructor
  · intro h
    rw [Text.isSome_ofOctets?_iff_lines]
    intro bad hmem
    refine Option.isSome_iff_ne_none.mpr fun hnone => ?_
    exact takeLines_of_not_text ⟨bad, hmem, hnone⟩ h.ok
  · intro htexts
    have h := Text.isSome_ofOctets?_iff.mp htexts
    rw [hsplit] at h
    have htexts' : (Text.ofOctets? (before ++ after)).isSome = true := by
      rw [Text.isSome_ofOctets?_iff, hfront]
      intro x hx
      rcases List.mem_append.mp hx with hx | hx
      · exact h x (List.mem_append_left _ hx)
      · exact h x (List.mem_append_right _ (List.mem_cons_of_mem line hx))
    obtain ⟨l, hl⟩ := Text.exists_map_encode fun x hx => h x (List.mem_append_left _ hx)
    obtain ⟨r, hr⟩ := Text.exists_map_encode fun x hx => h x (List.mem_append_right _ (List.mem_cons_of_mem line hx))
    obtain ⟨text, htext⟩ := Option.isSome_iff_exists.mp (h line (by simp))
    have htake : ∀ lines : List (List Char), s.takeLines (lines.map Text.encode) =
        s.takeInputs (lines.map fun cs => InputLine.ofText (String.ofList cs)) := takeLines_map_encode s
    have hwith : s.run (before ++ line ++ 10 :: after) =
        s.takeInputs (l.map (fun cs => InputLine.ofText (String.ofList cs)) ++
          .malformed :: r.map fun cs => InputLine.ofText (String.ofList cs)) := by
      rw [run_eq_takeLines s htexts, hsplit, hl, hr, Text.ofOctets?_eq_some_iff.mp htext, ← List.map_cons, ← List.map_append,
        htake, List.map_append, List.map_cons, String.ofList_toList, hbad text htext]
    have hwithout : s.run (before ++ after) =
        s.takeInputs (l.map (fun cs => InputLine.ofText (String.ofList cs)) ++
          r.map fun cs => InputLine.ofText (String.ofList cs)) := by
      rw [run_eq_takeLines s htexts', hfront, hl, hr, ← List.map_append, htake, List.map_append]
    obtain ⟨hok, houtput, hmalformed⟩ := takeInputs_skips s hrunning rfl
      (l.map fun cs => InputLine.ofText (String.ofList cs)) (r.map fun cs => InputLine.ofText (String.ofList cs))
    rw [← hwith, ← hwithout] at houtput hmalformed
    rw [← hwith] at hok
    exact ⟨hok, houtput, hmalformed⟩

/-- An octet that is no character keeps the stream from going on. -/
theorem exists_line_not_skipped : ¬ ∃ reason, ∀ (p : Processor (regularExpressions reason)) (content : ByteArray)
    (before line after : List UInt8), p.phase = .running → EndsLine before → 10 ∉ line → Undecodable line →
      Skipped p content before line after := by
  rintro ⟨reason, h⟩
  have hnone : Text.ofOctets? [0xff] = none := by decide
  have hended : Text.ofOctets? [0xff, 10] = none := by decide
  have hbad : Undecodable [0xff] := by
    intro text htext
    rw [hnone] at htext
    cases htext
  have hok := (h (runningProcessor _) .empty [] [0xff] [] rfl (.inl rfl) (by decide) hbad).ok
  exact takeLines_of_not_text ⟨[0xff, 10], by decide, hended⟩ hok

/-- A line with no more than a brace is skipped. -/
theorem brace_skipped : Undecodable [0x7b] ∧ Skipped (runningProcessor (regularExpressions id)) .empty [] [0x7b] [] := by
  have htext : Text.ofOctets? [0x7b] = some (String.ofList ['\x7b']) := Text.ofOctets?_encode ['\x7b']
  have hbad : Undecodable [0x7b] := by
    intro text h
    obtain rfl := Option.some.inj (htext.symm.trans h)
    exact ofText_brace
  have hinput : Text.ofOctets? [0x7b, 10] = some (String.ofList ['\x7b', '\n']) := Text.ofOctets?_encode ['\x7b', '\n']
  exact ⟨hbad, (skipped_iff (runningProcessor _) rfl .empty (.inl rfl) (by decide) hbad).mpr (by simp [hinput])⟩

end LogStream

end LogTagger
