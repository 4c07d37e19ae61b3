import LogTagger.Json.Printer
import Mathlib

/-!
# The characters of written JSON

A number is written with digits, a point, an exponent and signs only (`isNumeral_of_mem_text`), and no
value has a newline in its text, because a string escapes the ones that it holds
(`newline_not_mem_chars`).
-/

namespace LogTagger

/-! ### Numbers -/

/-- Whether a character can stand in a number. -/
def isNumeral (c : Char) : Bool := c.isDigit || c == '.' || c == 'e' || c == '+' || c == '-'

/-- A text of the characters of numbers. -/
def Numerals (s : String) : Prop := ∀ c ∈ s.toList, isNumeral c = true

theorem isNumeral_of_isDigit {c : Char} (h : c.isDigit = true) : isNumeral c = true := by
  simp [isNumeral, h]

theorem Numerals.append {s t : String} (hs : Numerals s) (ht : Numerals t) : Numerals (s ++ t) := by
  intro c hc
  rw [String.toList_append, List.mem_append] at hc
  exact hc.elim (hs c) (ht c)

theorem Numerals.ofList {cs : List Char} (h : ∀ c ∈ cs, isNumeral c = true) : Numerals (String.ofList cs) := by
  rwa [Numerals, String.toList_ofList]

theorem numerals_nat (n : Nat) : Numerals (toString n) := by
  intro c hc
  have hmem : c ∈ Nat.toDigits 10 n := by simpa using hc
  exact isNumeral_of_isDigit (Nat.isDigit_of_mem_toDigits (by decide) (by decide) hmem)

theorem numerals_zeros (n : Nat) : Numerals (Decimal.zeros n) := by
  refine .ofList fun c hc => ?_
  rw [List.eq_of_mem_replicate hc]
  rfl

theorem numerals_int (n : Int) : Numerals (toString n) := by
  cases n with
  | ofNat n => exact numerals_nat n
  | negSucc n => exact Numerals.append (s := "-") (by simp [Numerals, isNumeral]) (numerals_nat (n + 1))

namespace Decimal

variable (d : Decimal)

theorem numerals_take (n : Nat) : Numerals (String.ofList (d.text.toList.take n)) :=
  .ofList fun c hc => numerals_nat d.digits c (List.mem_of_mem_take hc)

theorem numerals_drop (n : Nat) : Numerals (String.ofList (d.text.toList.drop n)) :=
  .ofList fun c hc => numerals_nat d.digits c (List.mem_of_mem_drop hc)

theorem numerals_positional {whole : String} (h : Numerals whole) : Numerals (d.positional whole) := by
  have hpoint : Numerals "." := by simp [Numerals, isNumeral]
  have hzero : Numerals "0." := by simp [Numerals, isNumeral]
  rw [positional]
  split
  · exact ((numerals_nat d.digits).append (numerals_zeros _)).append h
  · split
    · exact ((d.numerals_take _).append hpoint).append (d.numerals_drop _)
    · exact (hzero.append (numerals_zeros _)).append (numerals_nat d.digits)

theorem numerals_exponential : Numerals d.exponential := by
  have hempty : Numerals "" := by simp [Numerals]
  have hpoint : Numerals "." := by simp [Numerals, isNumeral]
  have hexponent : Numerals "e" := by simp [Numerals, isNumeral]
  have hminus : Numerals "-" := by simp [Numerals, isNumeral]
  have hplus : Numerals "+" := by simp [Numerals, isNumeral]
  have htail : Numerals (if (String.ofList (d.text.toList.drop 1)).isEmpty then ""
      else "." ++ String.ofList (d.text.toList.drop 1)) := by
    split
    · exact hempty
    · exact hpoint.append (d.numerals_drop 1)
  have hsign : Numerals (if d.leading < 0 then "-" else "+") := by
    split
    · exact hminus
    · exact hplus
  exact ((((d.numerals_take 1).append htail).append hexponent).append hsign).append (numerals_nat _)

end Decimal

theorem FiniteDouble.numerals_scientific (x : FiniteDouble) : Numerals x.scientific := by
  have hempty : Numerals "" := by simp [Numerals]
  have hminus : Numerals "-" := by simp [Numerals, isNumeral]
  have hzero : Numerals "0.0" := by simp [Numerals, isNumeral]
  have hwhole : Numerals ".0" := by simp [Numerals, isNumeral]
  have hsign : Numerals x.sign := by
    rw [sign]
    split
    · exact hminus
    · exact hempty
  rw [scientific]
  refine hsign.append ?_
  split
  · exact hzero
  · dsimp only
    split
    · exact (x.shortest .toEven).numerals_positional hwhole
    · exact (x.shortest .toEven).numerals_exponential

namespace Json

/-- A number is written with the characters of numbers. -/
theorem isNumeral_of_mem_text (n : Number) {c : Char} (h : c ∈ n.text.toList) : isNumeral c = true := by
  cases n with
  | whole n => exact numerals_int n.value c h
  | double x => exact x.numerals_scientific c h

/-! ### Newlines -/

theorem newline_not_mem_writtenChar (c : Char) : '\n' ∉ writtenChar c := by
  have hhex : ∀ n < 16, hexDigit n ≠ '\n' := by decide
  rw [writtenChar]
  split_ifs with hquote hslash hb hf hn hr ht hcontrol
  any_goals decide
  · have hhigh := hhex (c.toNat / 16) (by omega)
    have hlow := hhex (c.toNat % 16) (by omega)
    simp [hhigh.symm, hlow.symm]
  · simpa using Ne.symm hn

theorem newline_not_mem_quoted (s : String) : '\n' ∉ quoted s := by
  simp [quoted, newline_not_mem_writtenChar]

theorem newline_not_mem_text (n : Number) : '\n' ∉ n.text.toList := by
  intro h
  have := isNumeral_of_mem_text n h
  cases this

mutual

/-- No value is written with a newline. -/
theorem newline_not_mem_chars : (v : Json) → '\n' ∉ chars v
  | .null => by decide
  | .bool true => by decide
  | .bool false => by decide
  | .number n => newline_not_mem_text n
  | .string s => newline_not_mem_quoted s
  | .array items => by simp [chars, newline_not_mem_itemChars items]
  | .object fields => by simp [chars, newline_not_mem_fieldChars fields]

theorem newline_not_mem_itemChars : (items : List Json) → '\n' ∉ itemChars items
  | [] => by simp [itemChars]
  | [v] => newline_not_mem_chars v
  | v :: w :: rest => by
    simp [itemChars, newline_not_mem_chars v, newline_not_mem_itemChars (w :: rest)]

theorem newline_not_mem_fieldChars : (fields : List (String × Json)) → '\n' ∉ fieldChars fields
  | [] => by simp [fieldChars]
  | [(name, v)] => by simp [fieldChars, newline_not_mem_quoted, newline_not_mem_chars v]
  | (name, v) :: w :: rest => by
    simp [fieldChars, newline_not_mem_quoted, newline_not_mem_chars v, newline_not_mem_fieldChars (w :: rest)]

end

end Json

end LogTagger
