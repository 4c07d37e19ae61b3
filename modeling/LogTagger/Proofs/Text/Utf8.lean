import LogTagger.Text.Utf8
import LogTagger.Proofs.Text.Octets

/-!
# Where octets cease to be text

`faultFrom` goes through octets one at a time, with the ranges in which the next ones must lie. What may follow where
it stands are octets in those ranges and then characters (`Completes`), and a step of it is a step of that
(`completes_nil_cons`, `completes_cons_cons`). From this follows **`faultOf_located`**: in front of the fault stands a
text, nothing longer is one, and an octet is at fault exactly if no octets that come after could make a text of the
whole.
-/

namespace LogTagger.Text

/-! ### Characters -/

section

variable {o p q r : UInt8}

theorem OctetRange.contains_iff {range : OctetRange} :
    range.contains o = true ↔ range.first.toNat ≤ o.toNat ∧ o.toNat ≤ range.last.toNat := by
  simp [contains, UInt8.le_iff_toNat_le]

theorem contains_tailRange_iff : tailRange.contains o = true ↔ 0x80 ≤ o.toNat ∧ o.toNat ≤ 0xbf :=
  OctetRange.contains_iff

theorem contains_secondOfThree_iff : (secondOfThree o).contains p = true ↔
    (if o.toNat = 0xe0 then 0xa0 else 0x80) ≤ p.toNat ∧ p.toNat ≤ if o.toNat = 0xed then 0x9f else 0xbf := by
  rw [OctetRange.contains_iff]
  simp only [secondOfThree, ← UInt8.toNat_inj, apply_ite UInt8.toNat]
  rfl

theorem contains_secondOfFour_iff : (secondOfFour o).contains p = true ↔
    (if o.toNat = 0xf0 then 0x90 else 0x80) ≤ p.toNat ∧ p.toNat ≤ if o.toNat = 0xf4 then 0x8f else 0xbf := by
  rw [OctetRange.contains_iff]
  simp only [secondOfFour, ← UInt8.toNat_inj, apply_ite UInt8.toNat]
  rfl

/-- The ranges that the first octet of a character demands, by its number. -/
theorem following?_eq (o : UInt8) : following? o =
    if o.toNat < 0x80 then some []
    else if o.toNat < 0xc2 then none
    else if o.toNat < 0xe0 then some [tailRange]
    else if o.toNat < 0xf0 then some [secondOfThree o, tailRange]
    else if o.toNat < 0xf5 then some [secondOfFour o, tailRange, tailRange]
    else none := by
  simp only [following?, UInt8.lt_iff_toNat_lt]
  rfl

/-- Octets lie in ranges, place by place. -/
def Fit (ranges : List OctetRange) (octets : List UInt8) : Prop :=
  List.Forall₂ (fun range o => range.contains o = true) ranges octets

/-- The octets of a character lie in the ranges that its first one demands. -/
theorem exists_fit_of_char (c : Char) : ∃ o tail ranges, String.utf8EncodeChar c = o :: tail ∧
    following? o = some ranges ∧ Fit ranges tail := by
  have hvalid : c.val.toNat < 0xd800 ∨ 0xdfff < c.val.toNat ∧ c.val.toNat < 0x110000 := c.valid
  rw [String.utf8EncodeChar]
  generalize c.val.toNat = v at hvalid
  have hoctet : ∀ n : Nat, n < 256 → (UInt8.ofNat n).toNat = n := fun n h => UInt8.toNat_ofNat_of_lt' h
  have h0 := hoctet (v % 0x40 + 0x80) (by omega)
  have h6 := hoctet (v / 64 % 0x40 + 0x80) (by omega)
  by_cases h1 : v ≤ 0x7f
  · rw [if_pos h1]
    refine ⟨_, [], [], rfl, ?_, .nil⟩
    rw [following?_eq, hoctet v (by omega), if_pos (by omega)]
  by_cases h2 : v ≤ 0x7ff
  · rw [if_neg h1, if_pos h2]
    refine ⟨_, _, [tailRange], rfl, ?_, .cons ?_ .nil⟩
    · rw [following?_eq, hoctet _ (by omega), if_neg (by omega), if_neg (by omega), if_pos (by omega)]
    · rw [contains_tailRange_iff, h0]
      omega
  by_cases h3 : v ≤ 0xffff
  · rw [if_neg h1, if_neg h2, if_pos h3]
    have hfirst := hoctet (v / 4096 % 16 + 0xe0) (by omega)
    refine ⟨_, _, [secondOfThree (.ofNat (v / 4096 % 16 + 0xe0)), tailRange], rfl, ?_, .cons ?_ (.cons ?_ .nil)⟩
    · rw [following?_eq, hfirst, if_neg (by omega), if_neg (by omega), if_neg (by omega), if_pos (by omega)]
    · rw [contains_secondOfThree_iff, hfirst, h6]
      split <;> split <;> omega
    · rw [contains_tailRange_iff, h0]
      omega
  · rw [if_neg h1, if_neg h2, if_neg h3]
    have hfirst := hoctet (v / 262144 % 8 + 0xf0) (by omega)
    have h12 := hoctet (v / 4096 % 0x40 + 0x80) (by omega)
    refine ⟨_, _, [secondOfFour (.ofNat (v / 262144 % 8 + 0xf0)), tailRange, tailRange], rfl, ?_, .cons ?_ (.cons ?_ (.cons ?_ .nil))⟩
    · rw [following?_eq, hfirst, if_neg (by omega), if_neg (by omega), if_neg (by omega), if_neg (by omega),
        if_pos (by omega)]
    · rw [contains_secondOfFour_iff, hfirst, h12]
      split <;> split <;> omega
    · rw [contains_tailRange_iff, h6]
      omega
    · rw [contains_tailRange_iff, h0]
      omega

/-- The octets of the character with a number. -/
theorem utf8EncodeChar_ofNat {v : Nat} (h : v.isValidChar) : String.utf8EncodeChar (Char.ofNat v) =
    if v ≤ 0x7f then [UInt8.ofNat v]
    else if v ≤ 0x7ff then [UInt8.ofNat (v / 64 % 0x20 + 0xc0), UInt8.ofNat (v % 0x40 + 0x80)]
    else if v ≤ 0xffff then
      [UInt8.ofNat (v / 4096 % 0x10 + 0xe0), UInt8.ofNat (v / 64 % 0x40 + 0x80), UInt8.ofNat (v % 0x40 + 0x80)]
    else [UInt8.ofNat (v / 262144 % 0x08 + 0xf0), UInt8.ofNat (v / 4096 % 0x40 + 0x80),
      UInt8.ofNat (v / 64 % 0x40 + 0x80), UInt8.ofNat (v % 0x40 + 0x80)] := by
  have hval : (Char.ofNat v).val.toNat = v := by
    rw [Char.ofNat, dif_pos h]
    rfl
  rw [String.utf8EncodeChar, hval]

/-- Octets in the ranges that the first one demands are those of a character. -/
theorem exists_char_of_fit {ranges : List OctetRange} {tail : List UInt8} (h : following? o = some ranges)
    (hfit : Fit ranges tail) : ∃ c, String.utf8EncodeChar c = o :: tail := by
  have hofNat : ∀ (n : Nat) (x : UInt8), n = x.toNat → UInt8.ofNat n = x := by
    rintro n x rfl
    exact UInt8.ofNat_toNat
  rw [following?_eq] at h
  split at h
  case isTrue h1 =>
    obtain rfl := Option.some.inj h
    cases hfit
    refine ⟨Char.ofNat o.toNat, ?_⟩
    rw [utf8EncodeChar_ofNat (.inl (by omega)), if_pos (by omega), UInt8.ofNat_toNat]
  split at h
  case isTrue => cases h
  split at h
  case isTrue h2 =>
    obtain rfl := Option.some.inj h
    cases hfit with | @cons _ p _ _ hp hnil => ?_
    cases hnil
    rw [contains_tailRange_iff] at hp
    refine ⟨Char.ofNat ((o.toNat - 0xc0) * 64 + (p.toNat - 0x80)), ?_⟩
    rw [utf8EncodeChar_ofNat (.inl (by omega)), if_neg (by omega), if_pos (by omega), hofNat _ o (by omega),
      hofNat _ p (by omega)]
  split at h
  case isTrue h3 =>
    obtain rfl := Option.some.inj h
    cases hfit with | @cons _ p _ _ hp hfit => ?_
    cases hfit with | @cons _ q _ _ hq hnil => ?_
    cases hnil
    rw [contains_secondOfThree_iff] at hp
    rw [contains_tailRange_iff] at hq
    have hlow : 0x800 ≤ (o.toNat - 0xe0) * 4096 + (p.toNat - 0x80) * 64 + (q.toNat - 0x80) := by
      split at hp <;> omega
    have hvalid : ((o.toNat - 0xe0) * 4096 + (p.toNat - 0x80) * 64 + (q.toNat - 0x80)).isValidChar := by
      rw [Nat.isValidChar]
      split at hp <;> split at hp <;> omega
    have hp : 0x80 ≤ p.toNat ∧ p.toNat ≤ 0xbf := by
      split at hp <;> split at hp <;> omega
    refine ⟨_, (utf8EncodeChar_ofNat hvalid).trans ?_⟩
    rw [if_neg (by omega), if_neg (by omega), if_pos (by omega), hofNat _ o (by omega), hofNat _ p (by omega),
      hofNat _ q (by omega)]
  split at h
  case isTrue h4 =>
    obtain rfl := Option.some.inj h
    cases hfit with | @cons _ p _ _ hp hfit => ?_
    cases hfit with | @cons _ q _ _ hq hfit => ?_
    cases hfit with | @cons _ r _ _ hr hnil => ?_
    cases hnil
    rw [contains_secondOfFour_iff] at hp
    rw [contains_tailRange_iff] at hq hr
    have hlow : 0x10000 ≤ (o.toNat - 0xf0) * 262144 + (p.toNat - 0x80) * 4096 + (q.toNat - 0x80) * 64 +
        (r.toNat - 0x80) := by
      split at hp <;> omega
    have hvalid : ((o.toNat - 0xf0) * 262144 + (p.toNat - 0x80) * 4096 + (q.toNat - 0x80) * 64 +
        (r.toNat - 0x80)).isValidChar := by
      rw [Nat.isValidChar]
      split at hp <;> split at hp <;> omega
    have hp : 0x80 ≤ p.toNat ∧ p.toNat ≤ 0xbf := by
      split at hp <;> split at hp <;> omega
    refine ⟨_, (utf8EncodeChar_ofNat hvalid).trans ?_⟩
    rw [if_neg (by omega), if_neg (by omega), if_neg (by omega), hofNat _ o (by omega), hofNat _ p (by omega),
      hofNat _ q (by omega), hofNat _ r (by omega)]
  case isFalse => cases h

theorem contains_first_of_following? {ranges : List OctetRange} (h : following? o = some ranges) :
    ∀ range ∈ ranges, range.contains range.first = true := by
  have htail : tailRange.contains tailRange.first = true := by decide
  have hthree : (secondOfThree o).contains (secondOfThree o).first = true := by
    by_cases hleast : o = 0xe0
    · subst hleast
      decide
    by_cases hgreatest : o = 0xed
    · subst hgreatest
      decide
    simp only [secondOfThree, if_neg hleast, if_neg hgreatest]
    decide
  have hfour : (secondOfFour o).contains (secondOfFour o).first = true := by
    by_cases hleast : o = 0xf0
    · subst hleast
      decide
    by_cases hgreatest : o = 0xf4
    · subst hgreatest
      decide
    simp only [secondOfFour, if_neg hleast, if_neg hgreatest]
    decide
  rw [following?_eq] at h
  split_ifs at h <;> obtain rfl := Option.some.inj h <;> simp [htail, hthree, hfour]

end

/-! ### What may follow -/

section

variable {o : UInt8} {rest octets : List UInt8} {range : OctetRange} {ranges : List OctetRange}

/-- Octets that lie in ranges, place by place, and then are those of characters. -/
def Completes (ranges : List OctetRange) (octets : List UInt8) : Prop :=
  ∃ tail cs, octets = tail ++ encode cs ∧ Fit ranges tail

theorem completes_nil_iff : Completes [] octets ↔ (ofOctets? octets).isSome = true := by
  constructor
  · rintro ⟨tail, cs, rfl, hfit⟩
    cases hfit
    rw [List.nil_append, ofOctets?_encode, Option.isSome_some]
  · intro h
    obtain ⟨text, htext⟩ := Option.isSome_iff_exists.mp h
    exact ⟨[], text.toList, ofOctets?_eq_some_iff.mp htext, .nil⟩

theorem completes_nil_nil : Completes [] [] := ⟨[], [], rfl, .nil⟩

theorem not_completes_cons_nil : ¬ Completes (range :: ranges) [] := by
  rintro ⟨tail, cs, hnil, hfit⟩
  cases hfit
  cases hnil

theorem completes_cons_cons_iff :
    Completes (range :: ranges) (o :: rest) ↔ range.contains o = true ∧ Completes ranges rest := by
  constructor
  · rintro ⟨tail, cs, hoctets, hfit⟩
    cases hfit with
    | @cons _ p _ tail hp hfit =>
      obtain ⟨rfl, rfl⟩ := List.cons.inj hoctets
      exact ⟨hp, tail, cs, rfl, hfit⟩
  · rintro ⟨ho, tail, cs, rfl, hfit⟩
    exact ⟨o :: tail, cs, rfl, .cons ho hfit⟩

/-- Characters are a first octet, what it demands, and characters. -/
theorem completes_nil_cons_iff :
    Completes [] (o :: rest) ↔ ∃ ranges, following? o = some ranges ∧ Completes ranges rest := by
  constructor
  · rintro ⟨tail, cs, hoctets, hfit⟩
    cases hfit
    cases cs with
    | nil => cases hoctets
    | cons c cs =>
      obtain ⟨first, tail, ranges, hchar, hfollowing, hfit⟩ := exists_fit_of_char c
      rw [List.nil_append, encode_cons, hchar, List.cons_append] at hoctets
      obtain ⟨rfl, rfl⟩ := List.cons.inj hoctets
      exact ⟨ranges, hfollowing, tail, cs, rfl, hfit⟩
  · rintro ⟨ranges, hfollowing, tail, cs, rfl, hfit⟩
    obtain ⟨c, hchar⟩ := exists_char_of_fit hfollowing hfit
    exact ⟨[], c :: cs, by rw [encode_cons, hchar]; rfl, .nil⟩

theorem exists_completes (h : ∀ range ∈ ranges, range.contains range.first = true) :
    ∃ octets, Completes ranges octets := by
  induction ranges with
  | nil => exact ⟨[], completes_nil_nil⟩
  | cons range ranges ih =>
    rw [List.forall_mem_cons] at h
    obtain ⟨octets, hcompletes⟩ := ih h.2
    exact ⟨range.first :: octets, completes_cons_cons_iff.mpr ⟨h.1, hcompletes⟩⟩

end

/-! ### The fault -/

/-- Where a fault stands that is found from the present place on, when octets in ranges are to follow: at the beginning
of the present character, or behind octets that complete it. -/
structure Ahead (index seen : Nat) (ranges : List OctetRange) (octets : List UInt8) (f : Utf8Fault) : Prop where
  place : (f.index = index ∧ ranges ≠ []) ∨
    ∃ k ≤ octets.length, f.index = index + seen + k ∧ Completes ranges (octets.take k)
  longest : ∀ k ≤ octets.length, f.index < index + seen + k → ¬ Completes ranges (octets.take k)
  cut : f.length? = none ↔ ∃ more, Completes ranges (octets ++ more)
  length : ∀ n, f.length? = some n → 0 < n ∧ f.index + n ≤ index + seen + octets.length

section

variable {index seen : Nat} {o : UInt8} {rest : List UInt8} {range : OctetRange} {ranges : List OctetRange}
  {f : Utf8Fault}

/-- A character begins with the next octet. -/
theorem Ahead.begins (h : Ahead (index + seen) 1 ranges rest f) (hfollowing : following? o = some ranges) :
    Ahead index seen [] (o :: rest) f := by
  have hiff : ∀ octets, Completes [] (o :: octets) ↔ Completes ranges octets := by
    intro octets
    rw [completes_nil_cons_iff]
    simp [hfollowing]
  constructor
  case place =>
    right
    rcases h.place with ⟨hindex, -⟩ | ⟨k, hk, hindex, hcompletes⟩
    · exact ⟨0, Nat.zero_le _, hindex, completes_nil_nil⟩
    · refine ⟨k + 1, Nat.succ_le_succ hk, by omega, ?_⟩
      rw [List.take_succ_cons, hiff]
      exact hcompletes
  case longest =>
    intro k hk hlt
    have hle : index + seen ≤ f.index := by rcases h.place with ⟨hindex, -⟩ | ⟨k, -, hindex, -⟩ <;> omega
    cases k with
    | zero => omega
    | succ k =>
      rw [List.take_succ_cons, hiff]
      exact h.longest k (Nat.le_of_succ_le_succ hk) (by omega)
  case cut =>
    rw [h.cut]
    simp only [List.cons_append, hiff]
  case length =>
    intro n hn
    have hlength := h.length n hn
    rw [List.length_cons]
    omega

/-- The next octet lies in its range. -/
theorem Ahead.goes_on (h : Ahead index (seen + 1) ranges rest f) (ho : range.contains o = true) :
    Ahead index seen (range :: ranges) (o :: rest) f := by
  have hiff : ∀ octets, Completes (range :: ranges) (o :: octets) ↔ Completes ranges octets := by
    intro octets
    rw [completes_cons_cons_iff]
    simp [ho]
  constructor
  case place =>
    rcases h.place with ⟨hindex, -⟩ | ⟨k, hk, hindex, hcompletes⟩
    · exact .inl ⟨hindex, by simp⟩
    · refine .inr ⟨k + 1, Nat.succ_le_succ hk, by omega, ?_⟩
      rw [List.take_succ_cons, hiff]
      exact hcompletes
  case longest =>
    intro k hk hlt
    cases k with
    | zero => exact not_completes_cons_nil
    | succ k =>
      rw [List.take_succ_cons, hiff]
      exact h.longest k (Nat.le_of_succ_le_succ hk) (by omega)
  case cut =>
    rw [h.cut]
    simp only [List.cons_append, hiff]
  case length =>
    intro n hn
    have hlength := h.length n hn
    rw [List.length_cons]
    omega

/-- **The fault is ahead** of where octets are not complete. -/
theorem ahead_faultFrom (hseen : ranges ≠ [] → 0 < seen)
    (hranges : ∀ range ∈ ranges, range.contains range.first = true) (h : ¬ Completes ranges rest) :
    Ahead index seen ranges rest (faultFrom index seen ranges rest) := by
  induction rest generalizing index seen ranges with
  | nil =>
    cases ranges with
    | nil => exact absurd completes_nil_nil h
    | cons range ranges =>
      refine ⟨.inl ⟨rfl, by simp⟩, ?_, iff_of_true rfl ?_, fun n hn => by cases hn⟩
      · intro k _ _
        rw [List.take_nil]
        exact not_completes_cons_nil
      · simp only [List.nil_append]
        exact exists_completes hranges
  | cons o rest ih =>
    cases ranges with
    | nil =>
      cases hfollowing : following? o with
      | some ranges =>
        rw [completes_nil_cons_iff, hfollowing] at h
        simp only [faultFrom, hfollowing]
        refine (ih (fun _ => Nat.one_pos) (contains_first_of_following? hfollowing) ?_).begins hfollowing
        exact fun hcompletes => h ⟨ranges, rfl, hcompletes⟩
      | none =>
        have hnever : ∀ octets, ¬ Completes [] (o :: octets) := by
          intro octets
          rw [completes_nil_cons_iff]
          simp [hfollowing]
        simp only [faultFrom, hfollowing]
        refine ⟨.inr ⟨0, Nat.zero_le _, rfl, completes_nil_nil⟩, ?_, iff_of_false (by simp) ?_, ?_⟩
        · intro k _ hlt
          cases k with
          | zero => exact absurd hlt (Nat.lt_irrefl _)
          | succ k =>
            rw [List.take_succ_cons]
            exact hnever _
        · rintro ⟨more, hcompletes⟩
          exact hnever _ hcompletes
        · rintro n ⟨⟩
          change 0 < 1 ∧ index + seen + 1 ≤ index + seen + (rest.length + 1)
          omega
    | cons range ranges =>
      rw [List.forall_mem_cons] at hranges
      rw [faultFrom]
      split
      case isTrue ho =>
        refine (ih (fun _ => Nat.succ_pos seen) hranges.2 ?_).goes_on ho
        exact fun hcompletes => h (completes_cons_cons_iff.mpr ⟨ho, hcompletes⟩)
      case isFalse ho =>
        have hnever : ∀ octets, ¬ Completes (range :: ranges) (o :: octets) := by
          intro octets
          rw [completes_cons_cons_iff]
          exact fun hboth => ho hboth.1
        refine ⟨.inl ⟨rfl, by simp⟩, ?_, iff_of_false (by simp) ?_, ?_⟩
        · intro k _ _
          cases k with
          | zero => exact not_completes_cons_nil
          | succ k =>
            rw [List.take_succ_cons]
            exact hnever _
        · rintro ⟨more, hcompletes⟩
          exact hnever _ hcompletes
        · rintro n ⟨⟩
          have hpos := hseen (by simp)
          change 0 < seen ∧ index + seen ≤ index + seen + (rest.length + 1)
          omega

end

/-- The fault of octets is where it says. -/
structure Located (octets : List UInt8) (f : Utf8Fault) : Prop where
  /-- In front of it stands a text. -/
  text : f.index ≤ octets.length ∧ (ofOctets? (octets.take f.index)).isSome = true
  /-- No longer part in front is a text. -/
  longest : ∀ k ≤ octets.length, f.index < k → ofOctets? (octets.take k) = none
  /-- The octets end before the character does exactly if others could follow that make a text of the whole. -/
  cut : f.length? = none ↔ ∃ more, (ofOctets? (octets ++ more)).isSome = true
  /-- Otherwise some of the octets belong to no character. -/
  length : ∀ n, f.length? = some n → 0 < n ∧ f.index + n ≤ octets.length

/-- **Octets that are no text have their fault where it is found.** -/
theorem faultOf_located {octets : List UInt8} (h : ofOctets? octets = none) : Located octets (faultOf octets) := by
  have hnot : ¬ Completes [] octets := by rw [completes_nil_iff, h]; simp
  have hahead : Ahead 0 0 [] octets (faultOf octets) := ahead_faultFrom (by simp) (by simp) hnot
  constructor
  case text =>
    rcases hahead.place with ⟨-, hno⟩ | ⟨k, hk, hindex, hcompletes⟩
    · exact absurd rfl hno
    · have hindex : (faultOf octets).index = k := by omega
      rw [hindex, ← completes_nil_iff]
      exact ⟨hk, hcompletes⟩
  case longest =>
    intro k hk hlt
    have hno := hahead.longest k hk (by omega)
    rw [completes_nil_iff] at hno
    exact Option.not_isSome_iff_eq_none.mp hno
  case cut =>
    rw [hahead.cut]
    simp only [completes_nil_iff]
  case length =>
    intro n hn
    have hlength := hahead.length n hn
    omega

example : (faultOf [0x61, 0xe2, 0x82, 0x0a]).message = "invalid utf-8 sequence of 2 bytes from index 1" := by decide

end LogTagger.Text
