import LogTagger.Text.Lines
import Mathlib

/-!
# Text in octets

The octets of a text are those of its characters, one after the other (`encode`), and octets are a
text if they are those of some characters (`ofOctets?_eq_some_iff`). The octet of a newline is no part
of any other character, so octets split at it as the characters do (`splitOn_encode`), and each line of
a text is a text.
-/

namespace LogTagger.Text

/-- The octets of characters. -/
def encode (cs : List Char) : List UInt8 := cs.flatMap String.utf8EncodeChar

@[simp] theorem encode_nil : encode [] = [] := rfl

@[simp] theorem encode_cons (c : Char) (cs : List Char) : encode (c :: cs) = String.utf8EncodeChar c ++ encode cs := rfl

theorem encode_append (l r : List Char) : encode (l ++ r) = encode l ++ encode r := by
  simp [encode]

theorem toByteArray_encode (cs : List Char) : (⟨(encode cs).toArray⟩ : ByteArray) = cs.utf8Encode := by
  apply ByteArray.ext
  simp [encode, List.utf8Encode]

theorem toUTF8_ofList (cs : List Char) : (String.ofList cs).toUTF8 = ⟨(encode cs).toArray⟩ := by
  rw [toByteArray_encode, String.toUTF8_eq_toByteArray, String.toByteArray_ofList]

/-- The octets of a text. -/
theorem data_toUTF8 (s : String) : s.toUTF8.data.toList = encode s.toList := by
  rw [← String.ofList_toList (s := s), toUTF8_ofList]
  simp

/-- Octets are a text when they are those of its characters. -/
theorem ofOctets?_eq_some_iff {octets : List UInt8} {s : String} :
    ofOctets? octets = some s ↔ octets = encode s.toList := by
  have hs : s.toByteArray = ⟨(encode s.toList).toArray⟩ := by rw [toByteArray_encode, String.utf8Encode_toList]
  have hiff : (⟨octets.toArray⟩ : ByteArray) = s.toByteArray ↔ octets = encode s.toList := by
    simp [hs]
  rw [← hiff, ofOctets?, String.fromUTF8?]
  split
  case isTrue h =>
    rw [Option.some.injEq, ← String.toByteArray_inj]
    rfl
  case isFalse h =>
    refine ⟨fun hno => ?_, fun heq => absurd (heq ▸ s.isValidUTF8) h⟩
    cases hno

theorem ofOctets?_encode (cs : List Char) : ofOctets? (encode cs) = some (String.ofList cs) := by
  rw [ofOctets?_eq_some_iff, String.toList_ofList]

/-- Only a newline has the octet of a newline. -/
theorem newline_mem_utf8EncodeChar {c : Char} (h : 10 ∈ String.utf8EncodeChar c) : c = '\n' := by
  have hten : ∀ n : Nat, UInt8.ofNat n = 10 → n % 256 = 10 := by
    intro n hn
    have := congrArg UInt8.toNat hn
    simpa using this
  rw [String.utf8EncodeChar] at h
  by_cases hascii : c.val.toNat ≤ 0x7f
  · rw [if_pos hascii] at h
    have hval := hten _ (List.mem_singleton.mp h).symm
    apply Char.ext
    apply UInt32.toNat_inj.mp
    change c.val.toNat = 10
    omega
  · -- Every octet of any other character is at least 128.
    exfalso
    rw [if_neg hascii] at h
    split at h
    · simp only [List.mem_cons, List.not_mem_nil, or_false] at h
      rcases h with h | h <;> have := hten _ h.symm <;> omega
    · split at h
      · simp only [List.mem_cons, List.not_mem_nil, or_false] at h
        rcases h with h | h | h <;> have := hten _ h.symm <;> omega
      · simp only [List.mem_cons, List.not_mem_nil, or_false] at h
        rcases h with h | h | h | h <;> have := hten _ h.symm <;> omega

theorem newline_mem_encode_iff {cs : List Char} : 10 ∈ encode cs ↔ '\n' ∈ cs := by
  rw [encode, List.mem_flatMap]
  constructor
  · rintro ⟨c, hc, h⟩
    rwa [newline_mem_utf8EncodeChar h] at hc
  · intro h
    exact ⟨'\n', h, by decide⟩

/-! ### Lines -/

/-- What stands in front of octets and has no newline stands in front of their first line. -/
theorem splitOn_append {front : List UInt8} (h : 10 ∉ front) (rest : List UInt8) :
    (front ++ rest).splitOn 10 = (rest.splitOn 10).modifyHead (front ++ ·) := by
  induction front with
  | nil =>
    rw [List.nil_append]
    cases rest.splitOn 10 <;> rfl
  | cons o front ih =>
    rw [List.mem_cons, not_or] at h
    have ho : (o == 10) = false := beq_false_of_ne (Ne.symm h.1)
    rw [List.cons_append, List.splitOn_cons_eq_if_modifyHead, ho, ih h.2]
    cases rest.splitOn 10 <;> rfl

/-- Lines that are texts are the octets of characters. -/
theorem exists_map_encode {lines : List (List UInt8)} (h : ∀ line ∈ lines, (ofOctets? line).isSome = true) :
    ∃ texts : List (List Char), lines = texts.map encode := by
  induction lines with
  | nil => exact ⟨[], rfl⟩
  | cons line rest ih =>
    obtain ⟨text, htext⟩ := Option.isSome_iff_exists.mp (h line List.mem_cons_self)
    obtain ⟨texts, rfl⟩ := ih fun line hline => h line (List.mem_cons_of_mem _ hline)
    exact ⟨text.toList :: texts, by rw [List.map_cons, ofOctets?_eq_some_iff.mp htext]⟩

theorem encode_intercalate (lines : List (List Char)) :
    encode (['\n'].intercalate lines) = [10].intercalate (lines.map encode) := by
  induction lines with
  | nil => rfl
  | cons cs rest ih =>
    cases rest with
    | nil => simp
    | cons cs' rest =>
      have henc : encode ['\n'] = [10] := by decide
      rw [List.intercalate_cons_cons, encode_append, encode_append, ih, henc]
      simp [List.intercalate_cons_cons]

/-- Octets split at newlines as their characters do. -/
theorem splitOn_encode (cs : List Char) : (encode cs).splitOn 10 = (cs.splitOn '\n').map encode := by
  induction cs with
  | nil => rfl
  | cons c cs ih =>
    rw [encode_cons, List.splitOn_cons_eq_if_modifyHead]
    by_cases hc : c = '\n'
    · have henc : String.utf8EncodeChar '\n' = [10] := by decide
      rw [hc, henc, List.singleton_append, List.splitOn_cons_eq_if_modifyHead, ih]
      rfl
    · have hno : 10 ∉ String.utf8EncodeChar c := fun h => hc (newline_mem_utf8EncodeChar h)
      rw [splitOn_append hno, ih, beq_false_of_ne hc]
      cases cs.splitOn '\n' <;> rfl

/-- Octets are a text when each of their lines is one. -/
theorem isSome_ofOctets?_iff {octets : List UInt8} :
    (ofOctets? octets).isSome = true ↔ ∀ line ∈ octets.splitOn 10, (ofOctets? line).isSome = true := by
  constructor
  · intro h line hline
    obtain ⟨text, htext⟩ := Option.isSome_iff_exists.mp h
    rw [ofOctets?_eq_some_iff.mp htext, splitOn_encode] at hline
    obtain ⟨cs, -, rfl⟩ := List.mem_map.mp hline
    rw [ofOctets?_encode, Option.isSome_some]
  · intro h
    obtain ⟨lines, hlines⟩ := exists_map_encode h
    have hoctets : octets = encode (['\n'].intercalate lines) := by
      rw [encode_intercalate, ← hlines, List.intercalate_splitOn]
    rw [hoctets, ofOctets?_encode, Option.isSome_some]

theorem isSome_ofOctets?_nil : (ofOctets? []).isSome = true := by rw [← encode_nil, ofOctets?_encode, Option.isSome_some]

/-- A newline at the end makes no difference to whether a line is a text. -/
theorem isSome_ofOctets?_newline {line : List UInt8} :
    (ofOctets? (line ++ [10])).isSome = true ↔ (ofOctets? line).isSome = true := by
  rw [isSome_ofOctets?_iff, isSome_ofOctets?_iff, List.splitOn_append_cons_self, List.splitOn_nil]
  simp [or_imp, forall_and, isSome_ofOctets?_nil]

/-- Without their newlines the lines that have ended and what follows them are the octets split at newlines. -/
theorem exists_splitLines (octets : List UInt8) : ∃ ended : List (List UInt8),
    (splitLines octets).1 = ended.map (· ++ [10]) ∧ ended ++ [(splitLines octets).2] = octets.splitOn 10 := by
  induction octets with
  | nil => exact ⟨[], rfl, rfl⟩
  | cons o rest ih =>
    obtain ⟨ended, hended, hsplit⟩ := ih
    rw [splitLines, List.splitOn_cons_eq_if_modifyHead, ← hsplit]
    by_cases ho : o = 10
    · exact ⟨[] :: ended, by simp [ho, hended], by simp [ho]⟩
    rw [if_neg ho, beq_false_of_ne ho]
    generalize splitLines rest = split at hended ⊢
    obtain ⟨lines, tail⟩ := split
    cases ended with
    | nil =>
      obtain rfl : lines = [] := hended
      exact ⟨[], rfl, rfl⟩
    | cons line others =>
      obtain rfl : lines = (line ++ [10]) :: others.map (· ++ [10]) := hended
      exact ⟨(o :: line) :: others, rfl, rfl⟩

/-- Octets are a text when each of their lines is one. -/
theorem isSome_ofOctets?_iff_lines {octets : List UInt8} :
    (ofOctets? octets).isSome = true ↔ ∀ line ∈ lines octets, (ofOctets? line).isSome = true := by
  obtain ⟨ended, hended, hsplit⟩ := exists_splitLines octets
  rw [isSome_ofOctets?_iff, ← hsplit, lines]
  dsimp only
  rw [hended]
  split
  case isTrue hempty => simp [List.isEmpty_iff.mp hempty, or_imp, forall_and, isSome_ofOctets?_nil, isSome_ofOctets?_newline]
  case isFalse => simp [or_imp, forall_and, isSome_ofOctets?_newline]

/-- Octets that arrive in two parts are split as they would be at once: what follows the lines of the first
part is joined to the second. -/
theorem splitLines_append (l r : List UInt8) :
    splitLines (l ++ r) =
      ((splitLines l).1 ++ (splitLines ((splitLines l).2 ++ r)).1, (splitLines ((splitLines l).2 ++ r)).2) := by
  induction l with
  | nil => rfl
  | cons o rest ih =>
    by_cases ho : o = 10
    · simp [splitLines, ho, ih]
    · rcases hrest : splitLines rest with ⟨_ | ⟨line, others⟩, tail⟩
      · simp [splitLines, ho, ih, hrest]
      · simp [splitLines, ho, ih, hrest]

/-- No line ends in what follows the lines. -/
theorem splitLines_snd (l : List UInt8) : splitLines (splitLines l).2 = ([], (splitLines l).2) := by
  induction l with
  | nil => rfl
  | cons o rest ih =>
    by_cases ho : o = 10
    · simp [splitLines, ho, ih]
    · rcases hrest : splitLines rest with ⟨_ | ⟨line, others⟩, tail⟩
      · rw [hrest] at ih
        simp [splitLines, ho, hrest, ih]
      · rw [hrest] at ih
        simp [splitLines, ho, hrest, ih]

/-- The lines of octets that arrive in two parts. -/
theorem lines_append (l r : List UInt8) : lines (l ++ r) = (splitLines l).1 ++ lines ((splitLines l).2 ++ r) := by
  simp only [lines, splitLines_append l r]
  split <;> simp

end LogTagger.Text
