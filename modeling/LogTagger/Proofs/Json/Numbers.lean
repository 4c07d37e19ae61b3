import LogTagger.Json.Reader
import LogTagger.Proofs.Json.Printer

/-!
# Written numbers are read back

What stands behind a number in a text, be it a comma or a closing bracket, is no part of it
(`number?_append`). Whole numbers are always read back from their text (`legible_whole`); a double is if
the reader of JSON reads it back (`legible_double`).
-/

namespace LogTagger

namespace Json

open Text (digits decimal)

namespace Reader

/-- What can stand behind a value: the end of the text, a comma or a closing bracket. -/
def Delimited (rest : List Char) : Prop := ∀ c ∈ rest.head?, c = ',' ∨ c = ']' ∨ c = '\x7d'

theorem delimited_nil : Delimited [] := by simp [Delimited]

theorem delimited_comma (rest : List Char) : Delimited (',' :: rest) := by simp [Delimited]

theorem delimited_bracket (rest : List Char) : Delimited (']' :: rest) := by simp [Delimited]

theorem delimited_brace (rest : List Char) : Delimited ('\x7d' :: rest) := by simp [Delimited]

variable {s rest : List Char}

/-! ### What stands behind a number -/

theorem digits_append (h : Delimited rest) (s : List Char) :
    digits (s ++ rest) = ((digits s).1, (digits s).2 ++ rest) := by
  induction s with
  | nil =>
    cases rest with
    | nil => rfl
    | cons c rest =>
      have hdigit : c.isDigit = false := by
        rcases h c (by simp) with rfl | rfl | rfl <;> rfl
      simp [digits, hdigit]
  | cons c s ih =>
    simp only [digits, Prod.mk.injEq] at ih ⊢
    by_cases hdigit : c.isDigit = true
    · simp only [List.cons_append, List.takeWhile_cons, List.dropWhile_cons, hdigit, if_true, List.map_cons, ih.1, ih.2,
        and_self]
    · simp [hdigit]

theorem fraction?_of_ne (h : '.' ∉ s.head?) : fraction? s = some (none, s) := by
  rw [fraction?.eq_def]
  split
  · simp at h
  · rfl

/-- There is a fraction when there is a digit behind the point. -/
theorem fraction?_point_eq_some_iff {fraction : Option (List Nat)} {r : List Char} :
    fraction? ('.' :: s) = some (fraction, r) ↔
      (digits s).1 ≠ [] ∧ fraction = some (digits s).1 ∧ r = (digits s).2 := by
  rw [fraction?]
  rcases digits s with ⟨ds, tail⟩
  cases ds <;> simp [eq_comm]

theorem fraction?_append (h : Delimited rest) {fraction : Option (List Nat)} {r : List Char}
    (hs : fraction? s = some (fraction, r)) : fraction? (s ++ rest) = some (fraction, r ++ rest) := by
  by_cases hpoint : '.' ∈ s.head?
  · obtain ⟨tail, rfl⟩ := List.head?_eq_some_iff.mp hpoint
    obtain ⟨hne, rfl, rfl⟩ := fraction?_point_eq_some_iff.mp hs
    rw [List.cons_append, fraction?_point_eq_some_iff, digits_append h]
    exact ⟨hne, rfl, rfl⟩
  · rw [fraction?_of_ne hpoint] at hs
    obtain ⟨rfl, rfl⟩ : none = fraction ∧ s = r := by simpa using hs
    refine fraction?_of_ne ?_
    cases s with
    | nil =>
      intro hc
      rcases h '.' hc with hc | hc | hc <;> cases hc
    | cons c tail => exact hpoint

theorem exponentSign_cons (c : Char) (s : List Char) :
    exponentSign (c :: s) = if c = '+' then (false, s) else if c = '-' then (true, s) else (false, c :: s) := by
  rw [exponentSign.eq_def]
  split <;> simp_all

theorem exponentSign_append (h : s ≠ []) (rest : List Char) :
    exponentSign (s ++ rest) = ((exponentSign s).1, (exponentSign s).2 ++ rest) := by
  obtain ⟨c, tail, rfl⟩ := List.exists_cons_of_ne_nil h
  rw [List.cons_append, exponentSign_cons, exponentSign_cons]
  split
  · rfl
  · split <;> rfl

theorem exponent?_of_ne (h : ∀ c ∈ s.head?, c ≠ 'e' ∧ c ≠ 'E') : exponent? s = some (none, s) := by
  cases s with
  | nil => rfl
  | cons c s =>
    obtain ⟨he, hE⟩ := h c (by simp)
    simp [exponent?, he, hE]

/-- There is an exponent when there is a digit behind the mark and the sign. -/
theorem exponent?_mark_eq_some_iff {c : Char} (hc : c = 'e' ∨ c = 'E') {exponent : Option Int} {r : List Char} :
    exponent? (c :: s) = some (exponent, r) ↔
      (digits (exponentSign s).2).1 ≠ [] ∧
        exponent = some (if (exponentSign s).1 then -(decimal (digits (exponentSign s).2).1 : Int)
          else decimal (digits (exponentSign s).2).1) ∧
        r = (digits (exponentSign s).2).2 := by
  have hmark : (c == 'e' || c == 'E') = true := by rcases hc with rfl | rfl <;> rfl
  rw [exponent?]
  simp only [hmark, if_true]
  rcases exponentSign s with ⟨negative, tail⟩
  rcases digits tail with ⟨ds, tail'⟩
  cases ds <;> simp [eq_comm]

theorem exponent?_append (h : Delimited rest) {exponent : Option Int} {r : List Char}
    (hs : exponent? s = some (exponent, r)) : exponent? (s ++ rest) = some (exponent, r ++ rest) := by
  by_cases hmark : ∃ c ∈ s.head?, c = 'e' ∨ c = 'E'
  · obtain ⟨c, hhead, hc⟩ := hmark
    obtain ⟨tail, rfl⟩ := List.head?_eq_some_iff.mp hhead
    obtain ⟨hne, rfl, rfl⟩ := (exponent?_mark_eq_some_iff hc).mp hs
    have htail : tail ≠ [] := by
      rintro rfl
      exact hne rfl
    rw [List.cons_append, exponent?_mark_eq_some_iff hc, exponentSign_append htail, digits_append h]
    exact ⟨hne, rfl, rfl⟩
  · have hne : ∀ c ∈ s.head?, c ≠ 'e' ∧ c ≠ 'E' := by
      intro c hc
      exact ⟨fun he => hmark ⟨c, hc, .inl he⟩, fun hE => hmark ⟨c, hc, .inr hE⟩⟩
    rw [exponent?_of_ne hne] at hs
    obtain ⟨rfl, rfl⟩ : none = exponent ∧ s = r := by simpa using hs
    refine exponent?_of_ne ?_
    cases s with
    | nil =>
      intro c hc
      rcases h c hc with rfl | rfl | rfl <;> decide
    | cons c tail => exact hne

/-- A number after its sign. -/
def unsigned? (negative : Bool) (s : List Char) : Option (NumberText × List Char) :=
  if isWholePart (digits s).1 then
    (fraction? (digits s).2).bind (fun f => (exponent? f.2).map (fun e => (⟨negative, (digits s).1, f.1, e.1⟩, e.2)))
  else none

theorem number?_cons (c : Char) (s : List Char) :
    number? (c :: s) = if c = '-' then unsigned? true s else unsigned? false (c :: s) := by
  by_cases hc : c = '-'
  · subst hc
    rfl
  · rw [if_neg hc, number?]
    · rfl
    · exact fun rest heq => hc (List.cons.inj heq).1

theorem unsigned?_append (h : Delimited rest) {negative : Bool} {t : NumberText} {r : List Char}
    (hs : unsigned? negative s = some (t, r)) : unsigned? negative (s ++ rest) = some (t, r ++ rest) := by
  rw [unsigned?] at hs ⊢
  rw [digits_append h]
  split at hs
  case isFalse => cases hs
  case isTrue hwhole =>
    obtain ⟨f, hf, hs⟩ := Option.bind_eq_some_iff.mp hs
    obtain ⟨e, he, hs⟩ := Option.map_eq_some_iff.mp hs
    obtain ⟨rfl, rfl⟩ := Prod.mk.inj hs
    rw [if_pos hwhole, fraction?_append h hf, Option.bind_some, exponent?_append h he, Option.map_some]

/-- What stands behind a number is no part of it. -/
theorem number?_append (h : Delimited rest) {t : NumberText} {r : List Char} (hs : number? s = some (t, r)) :
    number? (s ++ rest) = some (t, r ++ rest) := by
  cases s with
  | nil => cases hs
  | cons c tail =>
    rw [number?_cons] at hs
    rw [List.cons_append, number?_cons]
    split at hs
    case isTrue hc =>
      rw [if_pos hc]
      exact unsigned?_append h hs
    case isFalse hc =>
      rw [if_neg hc]
      exact unsigned?_append h hs

/-! ### What is left of a text -/

theorem digits_suffix (s : List Char) : (digits s).2 <:+ s := List.dropWhile_suffix _

theorem fraction?_suffix {fraction : Option (List Nat)} {r : List Char} (hs : fraction? s = some (fraction, r)) :
    r <:+ s := by
  by_cases hpoint : '.' ∈ s.head?
  · obtain ⟨tail, rfl⟩ := List.head?_eq_some_iff.mp hpoint
    obtain ⟨-, -, rfl⟩ := fraction?_point_eq_some_iff.mp hs
    exact (digits_suffix tail).trans (List.suffix_cons '.' tail)
  · rw [fraction?_of_ne hpoint] at hs
    obtain ⟨-, rfl⟩ : none = fraction ∧ s = r := by simpa using hs
    exact List.suffix_refl s

theorem exponentSign_suffix (s : List Char) : (exponentSign s).2 <:+ s := by
  cases s with
  | nil => exact List.suffix_refl []
  | cons c tail =>
    rw [exponentSign_cons]
    split
    · exact List.suffix_cons c tail
    · split
      · exact List.suffix_cons c tail
      · exact List.suffix_refl _

theorem exponent?_suffix {exponent : Option Int} {r : List Char} (hs : exponent? s = some (exponent, r)) : r <:+ s := by
  by_cases hmark : ∃ c ∈ s.head?, c = 'e' ∨ c = 'E'
  · obtain ⟨c, hhead, hc⟩ := hmark
    obtain ⟨tail, rfl⟩ := List.head?_eq_some_iff.mp hhead
    obtain ⟨-, -, rfl⟩ := (exponent?_mark_eq_some_iff hc).mp hs
    exact ((digits_suffix _).trans (exponentSign_suffix tail)).trans (List.suffix_cons c tail)
  · have hne : ∀ c ∈ s.head?, c ≠ 'e' ∧ c ≠ 'E' := fun c hc =>
      ⟨fun he => hmark ⟨c, hc, .inl he⟩, fun hE => hmark ⟨c, hc, .inr hE⟩⟩
    rw [exponent?_of_ne hne] at hs
    obtain ⟨-, rfl⟩ : none = exponent ∧ s = r := by simpa using hs
    exact List.suffix_refl s

theorem unsigned?_suffix {negative : Bool} {t : NumberText} {r : List Char}
    (hs : unsigned? negative s = some (t, r)) : r <:+ s := by
  rw [unsigned?] at hs
  split at hs
  case isFalse => cases hs
  case isTrue =>
    obtain ⟨f, hf, hs⟩ := Option.bind_eq_some_iff.mp hs
    obtain ⟨e, he, hs⟩ := Option.map_eq_some_iff.mp hs
    obtain ⟨-, rfl⟩ := Prod.mk.inj hs
    exact ((exponent?_suffix he).trans (fraction?_suffix hf)).trans (digits_suffix s)

theorem number?_suffix {t : NumberText} {r : List Char} (hs : number? s = some (t, r)) : r <:+ s := by
  cases s with
  | nil => cases hs
  | cons c tail =>
    rw [number?_cons] at hs
    split at hs
    · exact (unsigned?_suffix hs).trans (List.suffix_cons c tail)
    · exact unsigned?_suffix hs

/-! ### Decimal digits -/

theorem digits_toDigits (n : Nat) :
    digits (Nat.toDigits 10 n) = ((Nat.toDigits 10 n).map (fun c => c.toNat - '0'.toNat), []) := by
  have h : ∀ c ∈ Nat.toDigits 10 n, c.isDigit = true := fun c hc =>
    Nat.isDigit_of_mem_toDigits (by decide) (by decide) hc
  rw [digits, List.takeWhile_eq_self_iff.mpr h, List.dropWhile_eq_nil_iff.mpr h]

/-- The digits of a number write that number. -/
theorem decimal_toDigits (n : Nat) : decimal ((Nat.toDigits 10 n).map (fun c => c.toNat - '0'.toNat)) = n := by
  have h := Nat.ofDigitChars_ten_toDigits (n := n)
  rw [Nat.ofDigitChars_eq_foldl] at h
  rw [decimal, Text.numeral, List.foldl_map]
  simpa [Nat.mul_comm] using h

/-- A number other than zero is not written with a zero in front. -/
theorem exists_toDigits_eq_cons {n : Nat} (h : 0 < n) :
    ∃ c cs, Nat.toDigits 10 n = c :: cs ∧ c.toNat - '0'.toNat ≠ 0 := by
  induction n using Nat.strongRecOn with
  | ind n ih =>
    by_cases hlt : n < 10
    · refine ⟨n.digitChar, [], Nat.toDigits_of_lt_base hlt, ?_⟩
      have hvalue := Nat.toNat_digitChar_sub_48_of_lt_ten hlt
      change n.digitChar.toNat - 48 ≠ 0
      omega
    · obtain ⟨c, cs, htoDigits, hvalue⟩ := ih (n / 10) (by omega) (by omega)
      refine ⟨c, cs ++ [(n % 10).digitChar], ?_, hvalue⟩
      rw [Nat.toDigits_of_base_le (by decide) (by omega), htoDigits]
      rfl

theorem isWholePart_toDigits (n : Nat) :
    isWholePart ((Nat.toDigits 10 n).map (fun c => c.toNat - '0'.toNat)) = true := by
  rcases Nat.eq_zero_or_pos n with rfl | hpos
  · rfl
  · obtain ⟨c, cs, htoDigits, hvalue⟩ := exists_toDigits_eq_cons hpos
    rw [htoDigits, List.map_cons]
    cases cs with
    | nil => rfl
    | cons d cs => simpa [isWholePart] using hvalue

theorem unsigned?_toDigits (negative : Bool) (n : Nat) :
    unsigned? negative (Nat.toDigits 10 n) =
      some (⟨negative, (Nat.toDigits 10 n).map (fun c => c.toNat - '0'.toNat), none, none⟩, []) := by
  rw [unsigned?, digits_toDigits, if_pos (isWholePart_toDigits n)]
  rfl

end Reader

/-- As long as digits fit they are gathered. -/
theorem gather_eq {s : Nat} {ds : List Nat} (h : ds.foldl (fun n d => n * 10 + d) s ≤ greatest) :
    gather s ds = (ds.foldl (fun n d => n * 10 + d) s, []) := by
  have hmono : ∀ (ds : List Nat) (s : Nat), s ≤ ds.foldl (fun n d => n * 10 + d) s := by
    intro ds
    induction ds with
    | nil => exact fun s => Nat.le_refl s
    | cons d ds ih => exact fun s => Nat.le_trans (by omega) (ih (s * 10 + d))
  induction ds generalizing s with
  | nil => rfl
  | cons d ds ih =>
    rw [List.foldl_cons] at h ⊢
    rw [gather, if_pos (Nat.le_trans (hmono ds _) h), ih h]

theorem gather_toDigits {n : Nat} (h : n ≤ greatest) :
    gather 0 ((Nat.toDigits 10 n).map (fun c => c.toNat - '0'.toNat)) = (n, []) := by
  have hdecimal := Reader.decimal_toDigits n
  rw [decimal, Text.numeral] at hdecimal
  rw [gather_eq (by rwa [hdecimal]), hdecimal]

/-! ### Legible numbers -/

/-- A number is read back from its text. -/
def Number.Legible (n : Number) : Prop := ∃ t, Reader.number? n.text.toList = some (t, []) ∧ t.number? = some n

theorem legible_natural {n : Nat} (lower : -0x8000000000000000 ≤ (n : Int)) (upper : (n : Int) < 0x10000000000000000) :
    (Number.whole ⟨n, lower, upper⟩).Legible := by
  have htext : (Number.whole ⟨n, lower, upper⟩).text.toList = Nat.toDigits 10 n := by
    change (Nat.repr n).toList = _
    simp
  refine ⟨⟨false, (Nat.toDigits 10 n).map (fun c => c.toNat - '0'.toNat), none, none⟩, ?_, ?_⟩
  · obtain ⟨c, cs, hcons⟩ := List.exists_cons_of_ne_nil (Nat.toDigits_ne_nil (n := n) (b := 10))
    have hmem : c ∈ Nat.toDigits 10 n := by simp [hcons]
    have hdigit : c.isDigit = true := Nat.isDigit_of_mem_toDigits (by decide) (by decide) hmem
    have hc : c ≠ '-' := by
      rintro rfl
      cases hdigit
    rw [htext, hcons, Reader.number?_cons, if_neg hc, ← hcons]
    exact Reader.unsigned?_toDigits false n
  · have hgather := gather_toDigits (n := n) (by rw [greatest]; omega)
    simp only [NumberText.number?, hgather, Bool.false_eq_true, if_false]
    rw [dif_pos (by omega)]

theorem legible_negative {n : Nat} (lower : -0x8000000000000000 ≤ Int.negSucc n)
    (upper : Int.negSucc n < 0x10000000000000000) : (Number.whole ⟨Int.negSucc n, lower, upper⟩).Legible := by
  have htext : (Number.whole ⟨Int.negSucc n, lower, upper⟩).text.toList = '-' :: Nat.toDigits 10 (n + 1) := by
    change ("-" ++ Nat.repr (n + 1)).toList = _
    simp
  refine ⟨⟨true, (Nat.toDigits 10 (n + 1)).map (fun c => c.toNat - '0'.toNat), none, none⟩, ?_, ?_⟩
  · rw [htext, Reader.number?_cons, if_pos rfl]
    exact Reader.unsigned?_toDigits true (n + 1)
  · have hgather := gather_toDigits (n := n + 1) (by rw [greatest]; omega)
    simp only [NumberText.number?, hgather, if_true]
    rw [dif_pos (by omega)]
    rfl

theorem legible_whole (n : WholeNumber) : (Number.whole n).Legible := by
  obtain ⟨value, lower, upper⟩ := n
  cases value with
  | ofNat n => exact legible_natural lower upper
  | negSucc n => exact legible_negative lower upper

namespace Reader

theorem skip_cons {c : Char} (hc : isSpace c = false) (s : List Char) : skip (c :: s) = c :: s :=
  List.dropWhile_cons_of_neg (by simp [hc])

theorem isSpace_of_isNumeral {c : Char} (hc : isNumeral c = true) : isSpace c = false := by
  rw [isSpace]
  simp only [Bool.or_eq_false_iff, beq_eq_false_iff_ne]
  refine ⟨⟨⟨?_, ?_⟩, ?_⟩, ?_⟩ <;> rintro rfl <;> cases hc

/-- A text that begins as numbers do holds a number, if anything. -/
theorem value?_eq_number? {c : Char} (hc : isNumeral c = true) (fuel : Nat) (s : List Char) :
    value? (fuel + 1) (c :: s) = (number? (c :: s)).map (fun r => (.number r.1, r.2)) := by
  rw [value?, skip_cons (isSpace_of_isNumeral hc)]
  split
  case h_7 => rfl
  all_goals
    rename_i heq
    obtain ⟨rfl, -⟩ := List.cons.inj heq
    cases hc

end Reader

end Json

/-- A double is read back from its text by the reader of JSON. -/
def FiniteDouble.ReadsBack (x : FiniteDouble) : Prop := Json.read? x.scientific = some (.number (.double x))

namespace Json

theorem legible_double {x : FiniteDouble} (h : x.ReadsBack) : (Number.double x).Legible := by
  obtain ⟨d, hdraft, hvalue⟩ := Option.bind_eq_some_iff.mp h
  rw [Reader.draft?] at hdraft
  have hnumerals := x.numerals_scientific
  rw [Numerals] at hnumerals
  rw [Number.Legible, Number.text]
  generalize x.scientific.toList = s at hdraft hnumerals ⊢
  split at hdraft
  case h_2 => cases hdraft
  case h_1 d' r hread =>
    split at hdraft
    case isFalse => cases hdraft
    case isTrue hempty =>
      obtain rfl := Option.some.inj hdraft
      cases s with
      | nil => cases hread
      | cons c tail =>
        rw [Reader.value?_eq_number? (hnumerals c (by simp))] at hread
        obtain ⟨⟨t, rest⟩, hnumber, heq⟩ := Option.map_eq_some_iff.mp hread
        obtain ⟨rfl, rfl⟩ := Prod.mk.inj heq
        have hrest : rest = [] := by
          cases rest with
          | nil => rfl
          | cons e left =>
            -- What is left of the text is of the characters of numbers, so none of it is space.
            have he : e ∈ c :: tail := (Reader.number?_suffix hnumber).subset (by simp)
            rw [Reader.skip_cons (Reader.isSpace_of_isNumeral (hnumerals e he))] at hempty
            cases hempty
        rw [hrest] at hnumber
        rw [Draft.value?] at hvalue
        obtain ⟨n, hn, heq⟩ := Option.map_eq_some_iff.mp hvalue
        exact ⟨t, hnumber, by rw [hn, Json.number.inj heq]⟩

end Json

end LogTagger
