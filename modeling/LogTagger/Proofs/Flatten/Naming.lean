import LogTagger.Flatten.Generic

/-!
# Dotted names

A dotted name has no capital (`hasCapital_dottedName`), and a name is its own dotted name exactly when
it has none (`dottedName_eq_self_iff`). The conversion commutes with the joining of paths
(`dottedName_join`): no word starts at the character after a dot, and neither side of a dot is looked
at when the other is converted. So the key of a path under dotted naming is the dotted name of its
path in the fields' own names.
-/

namespace LogTagger

/-- Whether a text has a capital letter of ASCII. -/
def hasCapital (s : String) : Bool := s.toList.any Char.isUpper

/-! ### Characters -/

theorem isUpper_iff {c : Char} : c.isUpper = true ↔ 65 ≤ c.toNat ∧ c.toNat ≤ 90 := by
  change decide (65 ≤ c.val ∧ c.val ≤ 90) = true ↔ _
  rw [decide_eq_true_iff, UInt32.le_iff_toNat_le, UInt32.le_iff_toNat_le]
  rfl

theorem toNat_toLower_of_isUpper {c : Char} (h : c.isUpper = true) : c.toLower.toNat = c.toNat + 32 := by
  rw [isUpper_iff] at h
  have hval : c.toLower.val = c.val + 32 := congrArg Char.val (dif_pos h)
  have hsum : c.toLower.toNat = (c.toNat + 32) % 4294967296 := by
    rw [Char.toNat, hval, UInt32.toNat_add]
    rfl
  omega

theorem toLower_of_isUpper_eq_false {c : Char} (h : c.isUpper = false) : c.toLower = c := by
  rw [← Bool.not_eq_true, isUpper_iff] at h
  exact dif_neg h

theorem isUpper_toLower (c : Char) : c.toLower.isUpper = false := by
  cases h : c.isUpper with
  | false => rw [toLower_of_isUpper_eq_false h, h]
  | true =>
    have hrange := isUpper_iff.mp h
    rw [← Bool.not_eq_true, isUpper_iff, toNat_toLower_of_isUpper h]
    omega

/-! ### Capitals -/

theorem isUpper_of_mem_dottedAfter {before d : Char} {cs : List Char} (h : d ∈ dottedAfter before cs) :
    d.isUpper = false := by
  induction cs generalizing before with
  | nil => cases h
  | cons c rest ih =>
    rw [dottedAfter] at h
    split at h
    · rcases List.mem_cons.mp h with rfl | h
      · rfl
      · rcases List.mem_cons.mp h with rfl | h
        · exact isUpper_toLower c
        · exact ih h
    · rcases List.mem_cons.mp h with rfl | h
      · exact isUpper_toLower c
      · exact ih h

/-- A dotted name has no capital. -/
theorem hasCapital_dottedName (name : String) : hasCapital (dottedName name) = false := by
  rw [hasCapital, dottedName, String.toList_ofList, List.any_eq_false]
  intro d hd
  rw [Bool.not_eq_true]
  cases h : name.toList with
  | nil => simp [h, dottedChars] at hd
  | cons c rest =>
    rw [h, dottedChars] at hd
    rcases List.mem_cons.mp hd with rfl | hd
    · exact isUpper_toLower c
    · exact isUpper_of_mem_dottedAfter hd

theorem dottedAfter_of_no_capital {before : Char} {cs : List Char} (h : ∀ c ∈ cs, c.isUpper = false) :
    dottedAfter before cs = cs := by
  induction cs generalizing before with
  | nil => rfl
  | cons c rest ih =>
    have hc := h c (by simp)
    rw [dottedAfter, ih (fun d hd => h d (by simp [hd])), toLower_of_isUpper_eq_false hc]
    simp [startsWord, hc]

/-- Exactly the names without a capital are their own dotted names. -/
theorem dottedName_eq_self_iff {name : String} : dottedName name = name ↔ hasCapital name = false := by
  constructor
  · intro h
    rw [← h]
    exact hasCapital_dottedName name
  · intro h
    rw [hasCapital, List.any_eq_false] at h
    simp only [Bool.not_eq_true] at h
    rw [dottedName]
    cases hs : name.toList with
    | nil => exact String.toList_inj.mp hs.symm
    | cons c rest =>
      rw [hs] at h
      rw [dottedChars, dottedAfter_of_no_capital (fun d hd => h d (by simp [hd])),
        toLower_of_isUpper_eq_false (h c (by simp)), ← hs, String.ofList_toList]

theorem hasCapital_of_ne_dottedName {name : String} (h : name ≠ dottedName name) : hasCapital name = true := by
  rw [← Bool.not_eq_false, ← dottedName_eq_self_iff]
  exact fun hself => h hself.symm

@[simp] theorem dottedName_empty : dottedName "" = "" := rfl

theorem dottedName_eq_empty_iff {name : String} : dottedName name = "" ↔ name = "" := by
  constructor
  · intro h
    have hl : dottedChars name.toList = [] := by
      rw [← String.toList_ofList (l := dottedChars name.toList), ← dottedName, h]
      rfl
    cases hs : name.toList with
    | nil => exact String.toList_inj.mp hs
    | cons c rest => simp [hs, dottedChars] at hl
  · rintro rfl
    rfl

/-! ### Joining -/

/-- What follows a dot does not change how a word before it starts. -/
theorem startsWord_append (before c : Char) (cs rest : List Char) :
    startsWord before c (cs ++ '.' :: rest) = startsWord before c cs := by
  cases cs with
  | nil => simp [startsWord]
  | cons d ds => cases ds <;> simp [startsWord]

/-- After a dot a name begins anew. -/
theorem dottedAfter_dot (cs : List Char) : dottedAfter '.' cs = dottedChars cs := by
  cases cs with
  | nil => rfl
  | cons c rest => simp [dottedAfter, dottedChars, startsWord]

theorem dottedAfter_append (before : Char) (cs rest : List Char) :
    dottedAfter before (cs ++ '.' :: rest) = dottedAfter before cs ++ '.' :: dottedChars rest := by
  induction cs generalizing before with
  | nil => simp [dottedAfter, dottedAfter_dot, startsWord]
  | cons c cs ih =>
    rw [List.cons_append, dottedAfter, startsWord_append, ih, dottedAfter]
    split <;> rfl

/-- The dotted name of two names parted by a dot is made of theirs. -/
theorem dottedName_append_dot (a b : String) : dottedName (a ++ "." ++ b) = dottedName a ++ "." ++ dottedName b := by
  have h : dottedChars (a.toList ++ '.' :: b.toList) = dottedChars a.toList ++ '.' :: dottedChars b.toList := by
    cases a.toList with
    | nil => simp [dottedChars, dottedAfter_dot]
    | cons c rest => simp [dottedChars, dottedAfter_append]
  simp [dottedName, ← String.toList_inj, h]

theorem dottedName_join (path segment : String) :
    dottedName (KeyPath.join path segment) = KeyPath.join (dottedName path) (dottedName segment) := by
  by_cases h : path = ""
  · simp [KeyPath.join, h]
  · simp [KeyPath.join, h, dottedName_eq_empty_iff, dottedName_append_dot]

/-- An index is its own dotted name. -/
theorem dottedName_toString (index : Nat) : dottedName (toString index) = toString index := by
  rw [dottedName_eq_self_iff, hasCapital, List.any_eq_false]
  intro c hc
  have hmem : c ∈ Nat.toDigits 10 index := by simpa using hc
  have hdigit := Char.isDigit_iff_toNat.mp (Nat.isDigit_of_mem_toDigits (by decide) (by decide) hmem)
  have hle : c.toNat ≤ 57 := hdigit.2
  rw [isUpper_iff]
  omega

end LogTagger
