import LogTagger.Json.Printer
import LogTagger.Json.Reader
import Mathlib

/-!
# Written strings are read back

Each character of a string is written as one unit: as itself, by a short escape, or by a code of four
digits (`unitOf`). The reader finds these units between the quotes (`string?_quoted`), and they stand for
the string (`textOfUnits?_unitsOf`), since no code among them is half of a surrogate pair.
-/

namespace LogTagger.Json

/-- The unit as which a character is written. -/
def unitOf (c : Char) : TextUnit :=
  if c.toNat < 0x20 ∧ c ∉ ['\x08', '\x0c', '\n', '\r', '\t'] then .code c.toNat else .char c

/-- The units as which a string is written. -/
def unitsOf (s : String) : List TextUnit := s.toList.map unitOf

theorem unitOf_of_toNat_ge {c : Char} (h : 0x20 ≤ c.toNat) : unitOf c = .char c := by
  rw [unitOf, if_neg]
  omega

namespace Reader

/-- A character that stands for itself in a string. -/
theorem string?_cons {c : Char} (hquote : c ≠ '"') (hslash : c ≠ '\\') (hprint : 0x20 ≤ c.toNat) (rest : List Char)
    (acc : List TextUnit) : string? (c :: rest) acc = string? rest (.char c :: acc) := by
  rw [string?.eq_def]
  split
  case h_1 heq => cases heq
  case h_2 heq => exact absurd (List.cons.inj heq).1 hquote
  case h_3 heq => exact absurd (List.cons.inj heq).1 hslash
  case h_4 heq => exact absurd (List.cons.inj heq).1 hslash
  case h_5 heq =>
    obtain ⟨rfl, rfl⟩ := List.cons.inj heq
    rw [if_neg]
    simpa [hslash] using hprint

/-- The reader takes a written character as one unit. -/
theorem string?_writtenChar (c : Char) (rest : List Char) (acc : List TextUnit) :
    string? (writtenChar c ++ rest) acc = string? rest (unitOf c :: acc) := by
  have hhex : ∀ n < 0x20, hexCode? '0' '0' (hexDigit (n / 16)) (hexDigit (n % 16)) = some n := by decide
  rw [writtenChar]
  split_ifs with hquote hslash hb hf hn hr ht hcontrol
  · subst hquote
    rfl
  · subst hslash
    rfl
  · subst hb
    rfl
  · subst hf
    rfl
  · subst hn
    rfl
  · subst hr
    rfl
  · subst ht
    rfl
  · have hunit : unitOf c = .code c.toNat := by
      rw [unitOf, if_pos]
      simp [hcontrol, hb, hf, hn, hr, ht]
    rw [hunit]
    simp only [List.cons_append, List.nil_append, string?, hhex c.toNat hcontrol]
  · rw [List.singleton_append, string?_cons hquote hslash (by omega), unitOf_of_toNat_ge (by omega)]

/-- The reader finds the units of a string between its quotes. -/
theorem string?_quoted (s : String) (rest : List Char) :
    string? (s.toList.flatMap writtenChar ++ '"' :: rest) [] = some (unitsOf s, rest) := by
  have hread : ∀ (cs : List Char) (acc : List TextUnit),
      string? (cs.flatMap writtenChar ++ '"' :: rest) acc = some (acc.reverse ++ cs.map unitOf, rest) := by
    intro cs
    induction cs with
    | nil => exact fun acc => by simp [string?]
    | cons c cs ih =>
      intro acc
      rw [List.flatMap_cons, List.append_assoc, string?_writtenChar, ih]
      simp
  exact hread s.toList []

end Reader

theorem charsOfUnits_map_unitOf (cs acc : List Char) : charsOfUnits (cs.map unitOf) acc = some (cs.reverse ++ acc) := by
  induction cs generalizing acc with
  | nil => rfl
  | cons c cs ih =>
    rw [List.map_cons]
    have hunit : charsOfUnits (unitOf c :: cs.map unitOf) acc = charsOfUnits (cs.map unitOf) (c :: acc) := by
      rw [unitOf]
      split
      case isTrue hcontrol =>
        have hleading : isLeadingSurrogate c.toNat = false := by simp [isLeadingSurrogate]; omega
        have htrailing : isTrailingSurrogate c.toNat = false := by simp [isTrailingSurrogate]; omega
        rw [charsOfUnits.eq_def]
        simp [hleading, htrailing]
      case isFalse => rw [charsOfUnits]
    rw [hunit, ih]
    simp

/-- The units of a string stand for it. -/
theorem textOfUnits?_unitsOf (s : String) : textOfUnits? (unitsOf s) = some s := by
  rw [textOfUnits?, unitsOf, charsOfUnits_map_unitOf]
  simp

end LogTagger.Json
