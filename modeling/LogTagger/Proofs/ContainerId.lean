import LogTagger.ContainerId
import Mathlib

/-!
# Where an id comes from

An id is the longest run of lower-case letters and digits in front of a text (`Leads`), and there is at most one
(`ofText?_eq_some_iff`). A resource takes its id from the first of the source attributes that offers one
(`FirstOffer`): an attribute that is there but begins with another character is passed over like one that is missing.

**`resource_identified`** says so for every resource and every list of sources, and that the id is stable: the
attribute from which it comes may be replaced by the id, also with something behind it that cannot belong to an id, and
attributes that are not asked for, or only after it, do not matter.
-/

namespace LogTagger

namespace ContainerId

/-- A character of an id: a lower-case letter or a digit of ASCII. -/
def IdChar (c : Char) : Prop := ('a' ≤ c ∧ c ≤ 'z') ∨ ('0' ≤ c ∧ c ≤ '9')

theorem isIdChar_iff {c : Char} : isIdChar c = true ↔ IdChar c := by
  simp [isIdChar, IdChar, Char.isLower, Char.isDigit, Char.le_def]

/-! ### Ids in front of texts -/

/-- An id is the longest run of its characters in front of a text. -/
structure Leads (id : ContainerId) (s : String) : Prop where
  /-- The text begins with it. -/
  front : id.text.toList <+: s.toList
  /-- It has no other characters. -/
  chars : ∀ c ∈ id.text.toList, IdChar c
  /-- No longer beginning of the text has only such characters. -/
  longest : ∀ l, l <+: s.toList → (∀ c ∈ l, IdChar c) → l <+: id.text.toList
  /-- It is not empty. -/
  nonempty : id.text ≠ ""

section Texts

variable {s : String} {id : ContainerId}

/-- Whatever such characters a text begins with belong to the run. -/
theorem prefix_takeWhile {l cs : List Char} (h : l <+: cs) (hl : ∀ c ∈ l, IdChar c) : l <+: cs.takeWhile isIdChar := by
  obtain ⟨rest, rfl⟩ := h
  rw [List.takeWhile_append_of_pos fun c hc => isIdChar_iff.mpr (hl c hc)]
  exact List.prefix_append l _

theorem idChar_of_mem_takeWhile {c : Char} {cs : List Char} (h : c ∈ cs.takeWhile isIdChar) : IdChar c :=
  isIdChar_iff.mp (List.mem_takeWhile_imp h)

theorem Leads.toList_eq (h : Leads id s) : id.text.toList = s.toList.takeWhile isIdChar := by
  have hle : id.text.toList <+: s.toList.takeWhile isIdChar := prefix_takeWhile h.front h.chars
  have hge : s.toList.takeWhile isIdChar <+: id.text.toList :=
    h.longest _ (List.takeWhile_prefix _) fun c hc => idChar_of_mem_takeWhile hc
  exact hle.eq_of_length_le hge.length_le

theorem ofText?_of_nil (h : s.toList.takeWhile isIdChar = []) : ofText? s = none := by
  rw [ofText?, h]

theorem ofText?_of_ne_nil (h : s.toList.takeWhile isIdChar ≠ []) :
    ofText? s = some ⟨String.ofList (s.toList.takeWhile isIdChar)⟩ := by
  rw [ofText?]
  cases hrun : s.toList.takeWhile isIdChar with
  | nil => exact absurd hrun h
  | cons c cs => rfl

theorem leads_takeWhile (h : s.toList.takeWhile isIdChar ≠ []) :
    Leads ⟨String.ofList (s.toList.takeWhile isIdChar)⟩ s := by
  refine ⟨?_, ?_, ?_, ?_⟩
  · rw [String.toList_ofList]
    exact List.takeWhile_prefix _
  · intro c hc
    rw [String.toList_ofList] at hc
    exact idChar_of_mem_takeWhile hc
  · intro l hl hchars
    rw [String.toList_ofList]
    exact prefix_takeWhile hl hchars
  · rw [Ne, ← String.toList_eq_nil_iff, String.toList_ofList]
    exact h

/-- A text gives an id exactly if that leads it. -/
theorem ofText?_eq_some_iff : ofText? s = some id ↔ Leads id s := by
  constructor
  · intro h
    by_cases hrun : s.toList.takeWhile isIdChar = []
    · rw [ofText?_of_nil hrun] at h
      cases h
    · rw [ofText?_of_ne_nil hrun] at h
      obtain rfl := Option.some.inj h
      exact leads_takeWhile hrun
  · intro h
    have hrun : s.toList.takeWhile isIdChar ≠ [] := by
      rw [← h.toList_eq]
      exact fun hnil => h.nonempty (String.toList_eq_nil_iff.mp hnil)
    rw [ofText?_of_ne_nil hrun, ← h.toList_eq, String.ofList_toList]

/-- There is an id if the text begins with a character of one. -/
theorem exists_ofText?_iff : (∃ id, ofText? s = some id) ↔ ∃ c, s.toList.head? = some c ∧ IdChar c := by
  rw [ofText?]
  cases hs : s.toList with
  | nil => simp
  | cons c rest => by_cases hc : isIdChar c = true <;> simp [hc, ← isIdChar_iff]

/-- What cannot belong to an id may stand behind it. -/
theorem Leads.append (h : Leads id s) {suffix : String} (hsuffix : ∀ c, suffix.toList.head? = some c → ¬ IdChar c) :
    Leads id (id.text ++ suffix) := by
  have hend : suffix.toList.takeWhile isIdChar = [] := by
    cases hs : suffix.toList with
    | nil => rfl
    | cons c rest =>
      have hc : isIdChar c ≠ true := fun hc => hsuffix c (by rw [hs]; rfl) (isIdChar_iff.mp hc)
      rw [List.takeWhile_cons_of_neg hc]
  have hrun : (id.text ++ suffix).toList.takeWhile isIdChar = id.text.toList := by
    rw [String.toList_append, List.takeWhile_append_of_pos fun c hc => isIdChar_iff.mpr (h.chars c hc), hend,
      List.append_nil]
  refine ⟨?_, h.chars, fun l hl hchars => ?_, h.nonempty⟩
  · rw [String.toList_append]
    exact List.prefix_append _ _
  · rw [← hrun]
    exact prefix_takeWhile hl hchars

end Texts

/-! ### The first source that offers one -/

/-- An attribute is there and its text begins with a character of an id. -/
def Offers (r : Resource) (source : String) : Prop :=
  ∃ v, r.attributes.get? source = some v ∧ ∃ c, v.text.toList.head? = some c ∧ IdChar c

/-- A source offers an id and those before it do not. -/
structure FirstOffer (r : Resource) (sources before : List String) (source : String) : Prop where
  /-- It stands behind these. -/
  place : ∃ after, sources = before ++ source :: after
  /-- They do not offer any. -/
  earlier : ∀ s ∈ before, ¬ Offers r s
  /-- It offers one. -/
  offers : Offers r source

section Sources

variable {r : Resource} {sources before : List String} {source : String} {id : ContainerId}

theorem exists_ofAttribute?_iff : (∃ id, ofAttribute? r source = some id) ↔ Offers r source := by
  rw [Offers, ofAttribute?]
  cases r.attributes.get? source with
  | none => simp
  | some v => simpa using exists_ofText?_iff

theorem ofAttribute?_eq_none (h : ¬ Offers r source) : ofAttribute? r source = none := by
  rw [Option.eq_none_iff_forall_ne_some]
  intro id hid
  exact h (exists_ofAttribute?_iff.mp ⟨id, hid⟩)

theorem ofAttribute?_eq_some_iff :
    ofAttribute? r source = some id ↔ ∃ v, r.attributes.get? source = some v ∧ Leads id v.text := by
  simp only [ofAttribute?, Option.bind_eq_some_iff, ofText?_eq_some_iff]

/-- The id is that of the first source that offers one. -/
theorem FirstOffer.ofResource?_eq (h : FirstOffer r sources before source) :
    ofResource? r sources = ofAttribute? r source := by
  obtain ⟨⟨after, rfl⟩, hearlier, hoffers⟩ := h
  obtain ⟨id, hid⟩ := exists_ofAttribute?_iff.mpr hoffers
  have hnone : before.findSome? (ofAttribute? r) = none :=
    List.findSome?_eq_none_iff.mpr fun s hs => ofAttribute?_eq_none (hearlier s hs)
  rw [ofResource?, List.findSome?_append, hnone, Option.none_or, List.findSome?_cons, hid]

theorem exists_firstOffer (h : ∃ source ∈ sources, Offers r source) :
    ∃ before source, FirstOffer r sources before source := by
  induction sources with
  | nil => simp at h
  | cons s rest ih =>
    by_cases hs : Offers r s
    · exact ⟨[], s, ⟨rest, rfl⟩, by simp, hs⟩
    · have hrest : ∃ source ∈ rest, Offers r source := by simpa [hs] using h
      obtain ⟨before, source, ⟨after, rfl⟩, hearlier, hoffers⟩ := ih hrest
      exact ⟨s :: before, source, ⟨after, rfl⟩, List.forall_mem_cons.mpr ⟨hs, hearlier⟩, hoffers⟩

theorem offers_congr {r' : Resource} (h : r'.attributes.get? source = r.attributes.get? source) :
    Offers r' source ↔ Offers r source := by
  rw [Offers, Offers, h]

/-- The same source is the first in any resource that has the same attributes up to it. -/
theorem FirstOffer.congr (h : FirstOffer r sources before source) {r' : Resource}
    (heq : ∀ s ∈ before ++ [source], r'.attributes.get? s = r.attributes.get? s) :
    FirstOffer r' sources before source := by
  obtain ⟨hplace, hearlier, hoffers⟩ := h
  refine ⟨hplace, fun s hs => ?_, ?_⟩
  · rw [offers_congr (heq s (List.mem_append_left _ hs))]
    exact hearlier s hs
  · rw [offers_congr (heq source (by simp))]
    exact hoffers

/-- It is the first still if another value that leads to an id takes the place of its own. -/
theorem FirstOffer.insert (h : FirstOffer r sources before source) {v : AttributeValue} (hv : Leads id v.text) :
    FirstOffer { r with attributes := r.attributes.insert source v } sources before source := by
  obtain ⟨hplace, hearlier, hoffers⟩ := h
  refine ⟨hplace, fun s hs => ?_, ?_⟩
  · -- The source does not stand before itself: it offers an id.
    have hne : s ≠ source := fun heq => hearlier s hs (heq ▸ hoffers)
    intro hoffers'
    exact hearlier s hs ((offers_congr (SortedMap.get?_insert_of_ne r.attributes v hne)).mp hoffers')
  · rw [← exists_ofAttribute?_iff]
    exact ⟨id, ofAttribute?_eq_some_iff.mpr ⟨v, SortedMap.get?_insert_self r.attributes source v, hv⟩⟩

end Sources

/-- The id depends on nothing but the attributes in which it is sought. -/
theorem ofResource?_congr {r s : Resource} {sources : List String}
    (h : ∀ source ∈ sources, r.attributes.get? source = s.attributes.get? source) :
    ofResource? r sources = ofResource? s sources := by
  induction sources with
  | nil => rfl
  | cons source rest ih =>
    obtain ⟨hsource, hrest⟩ := List.forall_mem_cons.mp h
    have hattribute : ofAttribute? r source = ofAttribute? s source := by rw [ofAttribute?, ofAttribute?, hsource]
    have hothers : rest.findSome? (ofAttribute? r) = rest.findSome? (ofAttribute? s) := ih hrest
    rw [ofResource?, ofResource?, List.findSome?_cons, List.findSome?_cons, hattribute, hothers]

/-- The id of a resource. -/
structure Identifies (r : Resource) (sources : List String) : Prop where
  /-- It is the id that leads the text of the first source that offers one. -/
  found : ∀ id, ofResource? r sources = some id ↔ ∃ before source v,
    FirstOffer r sources before source ∧ r.attributes.get? source = some v ∧ Leads id v.text
  /-- There is none if no source offers one. -/
  missing : ofResource? r sources = none ↔ ∀ source ∈ sources, ¬ Offers r source
  /-- It stays if the id itself takes the place of the attribute from which it came, alone or with something behind
  it that cannot belong to an id. -/
  stable : ∀ before source id, FirstOffer r sources before source → ofResource? r sources = some id →
    ∀ suffix : String, (∀ c, suffix.toList.head? = some c → ¬ IdChar c) →
      ofResource? { r with attributes := r.attributes.insert source (.string (id.text ++ suffix)) } sources = some id
  /-- Nothing matters but the sources up to the one from which it came. -/
  settled : ∀ before source, FirstOffer r sources before source →
    ∀ r' : Resource, (∀ s ∈ before ++ [source], r'.attributes.get? s = r.attributes.get? s) →
      ofResource? r' sources = ofResource? r sources

theorem ofResource?_eq_none_iff {r : Resource} {sources : List String} :
    ofResource? r sources = none ↔ ∀ source ∈ sources, ¬ Offers r source := by
  rw [ofResource?, List.findSome?_eq_none_iff]
  constructor
  · intro h source hsource hoffers
    obtain ⟨id, hid⟩ := exists_ofAttribute?_iff.mpr hoffers
    rw [h source hsource] at hid
    cases hid
  · intro h source hsource
    exact ofAttribute?_eq_none (h source hsource)

/-- **The id of a resource** is what leads the text of the first source that offers one, for every resource and every
list of sources, and it is stable. -/
theorem resource_identified (r : Resource) (sources : List String) : Identifies r sources := by
  refine ⟨?found, ofResource?_eq_none_iff, ?stable, ?settled⟩
  case found =>
    intro id
    constructor
    · intro hid
      have hoffers : ∃ source ∈ sources, Offers r source := by
        by_contra hnone
        have hmissing := ofResource?_eq_none_iff.mpr fun source hs ho => hnone ⟨source, hs, ho⟩
        rw [hmissing] at hid
        cases hid
      obtain ⟨before, source, hfirst⟩ := exists_firstOffer hoffers
      rw [hfirst.ofResource?_eq] at hid
      obtain ⟨v, hv, hleads⟩ := ofAttribute?_eq_some_iff.mp hid
      exact ⟨before, source, v, hfirst, hv, hleads⟩
    · rintro ⟨before, source, v, hfirst, hv, hleads⟩
      rw [hfirst.ofResource?_eq]
      exact ofAttribute?_eq_some_iff.mpr ⟨v, hv, hleads⟩
  case stable =>
    intro before source id hfirst hid suffix hsuffix
    rw [hfirst.ofResource?_eq] at hid
    obtain ⟨v, hv, hleads⟩ := ofAttribute?_eq_some_iff.mp hid
    have hagain : Leads id (AttributeValue.string (id.text ++ suffix)).text := hleads.append hsuffix
    rw [(hfirst.insert hagain).ofResource?_eq]
    exact ofAttribute?_eq_some_iff.mpr ⟨_, SortedMap.get?_insert_self r.attributes source _, hagain⟩
  case settled =>
    intro before source hfirst r' heq
    have hsame : r'.attributes.get? source = r.attributes.get? source := heq source (by simp)
    rw [(hfirst.congr heq).ofResource?_eq, hfirst.ofResource?_eq, ofAttribute?, ofAttribute?, hsame]

example : ofResource? { attributes := .ofList [("container.id", .string "-json.log"), ("log.file.name", .string "0a-b.c"),
    ("host", .string "x")] } ["host.name", "container.id", "log.file.name", "host"] = some ⟨"0a"⟩ := by
  decide

end ContainerId

end LogTagger
