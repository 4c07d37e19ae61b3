import LogTagger.Endpoint
import Mathlib.Data.List.TakeWhile

/-!
# What the environment of a container says

The addresses of a container stand in its environment, an entry of which is a name and a value around
an equals sign. Entries may be listed in any order, several may have one name, and some may have no
equals sign at all.

A variable has the value of the first entry with its name (`FirstEntry`). The address in it is what
stands between the blanks at the ends of that value (`Text.Trims`), unless nothing does (`AddressUnder`).
The addresses of an environment (`Addresses`) are the one under the name for version 4 of the metadata
service and the one under the older name, in this order. **`addresses_iff`** says that these are the
ones which are read.
-/

namespace LogTagger

/-! ### Texts without blanks at their ends -/

namespace Text

variable {s t : String}

/-- Neither the first nor the last character is blank. -/
structure Trimmed (s : String) : Prop where
  /-- The first character. -/
  front : ∀ c, s.toList.head? = some c → isBlank c = false
  /-- The last character. -/
  back : ∀ c, s.toList.getLast? = some c → isBlank c = false

/-- The second text is what stands in the first one between the blanks at its ends. -/
structure Trims (s t : String) : Prop where
  /-- Nothing but blanks surrounds it. -/
  between : ∃ front back, s.toList = front ++ t.toList ++ back ∧ (∀ c ∈ front, isBlank c = true) ∧
    ∀ c ∈ back, isBlank c = true
  /-- It has none at its own ends. -/
  trimmed : Trimmed t

theorem head?_dropWhile_isBlank {l : List Char} {c : Char} (h : (l.dropWhile isBlank).head? = some c) :
    isBlank c = false := by
  have hnot := List.head?_dropWhile_not isBlank l
  rwa [h] at hnot

theorem dropWhile_isBlank_eq_self {l : List Char} (h : ∀ c, l.head? = some c → isBlank c = false) :
    l.dropWhile isBlank = l := by
  cases l with
  | nil => rfl
  | cons c rest => exact List.dropWhile_cons_of_neg (Bool.not_eq_true _ ▸ h c rfl)

theorem trimEndChars_append (l : List Char) {back : List Char} (hback : ∀ c ∈ back, isBlank c = true)
    (hl : ∀ c, l.getLast? = some c → isBlank c = false) : trimEndChars (l ++ back) = l := by
  have hreverse : ∀ c ∈ back.reverse, isBlank c = true := fun c hc => hback c (List.mem_reverse.mp hc)
  rw [trimEndChars, List.reverse_append, List.dropWhile_append_of_pos hreverse,
    dropWhile_isBlank_eq_self (by simpa [List.head?_reverse] using hl), List.reverse_reverse]

theorem Trims.trim_eq (h : Trims s t) : trim s = t := by
  obtain ⟨front, back, hs, hfront, hback⟩ := h.between
  rw [trim, hs, List.append_assoc, List.dropWhile_append_of_pos hfront, ← String.toList_inj, String.toList_ofList]
  cases ht : t.toList with
  | nil =>
    rw [List.nil_append, List.dropWhile_eq_nil_iff.mpr hback]
    rfl
  | cons c rest =>
    have hc : isBlank c = false := h.trimmed.front c (by rw [ht]; rfl)
    rw [dropWhile_isBlank_eq_self (by simpa using hc), ← ht]
    exact trimEndChars_append _ hback h.trimmed.back

/-- What the blanks at the end of a list leave of it. -/
theorem trimEndChars_between (l : List Char) : ∃ back, l = trimEndChars l ++ back ∧ (∀ c ∈ back, isBlank c = true) ∧
    ∀ c, (trimEndChars l).getLast? = some c → isBlank c = false := by
  refine ⟨(l.reverse.takeWhile isBlank).reverse, ?_, ?_, ?_⟩
  · rw [trimEndChars, ← List.reverse_append, List.takeWhile_append_dropWhile, List.reverse_reverse]
  · intro c hc
    exact List.mem_takeWhile_imp (List.mem_reverse.mp hc)
  · intro c hc
    rw [trimEndChars, List.getLast?_reverse] at hc
    exact head?_dropWhile_isBlank hc

theorem trims_trim (s : String) : Trims s (trim s) := by
  obtain ⟨back, hl, hback, hlast⟩ := trimEndChars_between (s.toList.dropWhile isBlank)
  have hs : s.toList = s.toList.takeWhile isBlank ++ (trim s).toList ++ back := by
    rw [trim, String.toList_ofList, List.append_assoc, ← hl, List.takeWhile_append_dropWhile]
  refine ⟨⟨_, back, hs, fun c hc => List.mem_takeWhile_imp hc, hback⟩, ?_, ?_⟩
  · intro c hc
    rw [trim, String.toList_ofList] at hc
    refine head?_dropWhile_isBlank (l := s.toList) ?_
    rw [hl, List.head?_append, hc, Option.some_or]
  · intro c hc
    rw [trim, String.toList_ofList] at hc
    exact hlast c hc

/-- **What `trim` gives** is the only text without blanks at its ends that nothing but blanks surround. -/
theorem trims_iff : Trims s t ↔ t = trim s := by
  constructor
  · intro h
    exact h.trim_eq.symm
  · rintro rfl
    exact trims_trim s

/-- A text that holds something and has no blanks at its ends does not consist of blanks. -/
theorem Trimmed.not_allBlank (h : Trimmed s) (hne : s ≠ "") : allBlank s = false := by
  cases hs : s.toList with
  | nil => exact absurd (String.toList_eq_nil_iff.mp hs) hne
  | cons c rest =>
    have hc : isBlank c = false := h.front c (by rw [hs]; rfl)
    simp [allBlank, hs, hc]

/-- Nothing stands between the blanks at its ends exactly if a text consists of blanks. -/
theorem trim_eq_empty_iff : trim s = "" ↔ allBlank s = true := by
  obtain ⟨front, back, hs, hfront, hback⟩ := (trims_trim s).between
  constructor
  · intro h
    rw [h] at hs
    have hall : ∀ c ∈ front ++ "".toList ++ back, isBlank c = true := by
      simpa using fun c hc => hc.elim (hfront c) (hback c)
    exact List.all_eq_true.mpr (hs ▸ hall)
  · intro h
    refine Trims.trim_eq ⟨⟨s.toList, [], by simp, List.all_eq_true.mp h, by simp⟩, ?_, ?_⟩ <;>
      exact fun c hc => by cases hc

end Text

/-! ### Entries -/

variable {env : List String} {entry name value : String}

/-- The value of a variable: that of the first entry with its name. -/
def FirstEntry (env : List String) (name value : String) : Prop :=
  ∃ earlier later, env = earlier ++ (name ++ "=" ++ value) :: later ∧ ∀ entry ∈ earlier, ∀ v, entry ≠ name ++ "=" ++ v

/-- No entry has the name. -/
def Unset (env : List String) (name : String) : Prop := ∀ entry ∈ env, ∀ v, entry ≠ name ++ "=" ++ v

theorem takeWhile_before (before after : List Char) (h : '=' ∉ before) :
    (before ++ '=' :: after).takeWhile (· != '=') = before := by
  rw [List.takeWhile_append_of_pos, List.takeWhile_cons_of_neg (by simp), List.append_nil]
  rintro c hc
  exact bne_iff_ne.mpr fun heq => h (heq ▸ hc)

/-- An entry is split at its first equals sign. -/
theorem nameAndValue?_eq_some_iff :
    nameAndValue? entry = some (name, value) ↔ entry = name ++ "=" ++ value ∧ '=' ∉ name.toList := by
  constructor
  · intro h
    have hbefore : '=' ∉ entry.toList.takeWhile (· != '=') := fun hmem => by
      simpa using List.mem_takeWhile_imp hmem
    have hentry : entry.toList.takeWhile (· != '=') ++ entry.toList.drop (entry.toList.takeWhile (· != '=')).length =
        entry.toList := List.prefix_iff_eq_append.mp (List.takeWhile_prefix _)
    -- what is left after the name is what `dropWhile` gives, so it starts with an equals sign
    have hrest := List.append_cancel_left (hentry.trans List.takeWhile_append_dropWhile.symm)
    have hsign := List.head?_dropWhile_not (· != '=') entry.toList
    rw [nameAndValue?] at h
    split at h
    case h_1 => cases h
    case h_2 c after hafter =>
      rw [← hrest, hafter, List.head?_cons] at hsign
      obtain rfl : c = '=' := by simpa using hsign
      rw [hafter] at hentry
      cases h
      refine ⟨?_, by rwa [String.toList_ofList]⟩
      rw [← String.toList_inj, String.toList_append, String.toList_append, String.toList_ofList, String.toList_ofList,
        List.append_assoc]
      simpa using hentry.symm
  · rintro ⟨rfl, hname⟩
    have hentry : (name ++ "=" ++ value).toList = name.toList ++ '=' :: value.toList := by
      rw [String.toList_append, String.toList_append, List.append_assoc]
      rfl
    rw [nameAndValue?, hentry, takeWhile_before _ _ hname, List.drop_left]
    simp

/-- What an entry says under a name. -/
def valueIn? (name entry : String) : Option String :=
  (nameAndValue? entry).bind fun e => if e.1 = name then some e.2 else none

theorem environmentValue?_eq (env : List String) (name : String) :
    environmentValue? env name = env.findSome? (valueIn? name) := rfl

theorem valueIn?_eq_some_iff (hname : '=' ∉ name.toList) :
    valueIn? name entry = some value ↔ entry = name ++ "=" ++ value := by
  rw [valueIn?, Option.bind_eq_some_iff]
  constructor
  · rintro ⟨⟨k, v⟩, hentry, hvalue⟩
    dsimp only at hvalue
    split at hvalue
    case isTrue heq =>
      cases hvalue
      exact heq ▸ (nameAndValue?_eq_some_iff.mp hentry).1
    case isFalse => cases hvalue
  · rintro rfl
    exact ⟨(name, value), nameAndValue?_eq_some_iff.mpr ⟨rfl, hname⟩, if_pos rfl⟩

theorem valueIn?_eq_none_iff (hname : '=' ∉ name.toList) :
    valueIn? name entry = none ↔ ∀ v, entry ≠ name ++ "=" ++ v := by
  simp only [Option.eq_none_iff_forall_ne_some, ne_eq, valueIn?_eq_some_iff hname]

theorem environmentValue?_eq_some_iff (hname : '=' ∉ name.toList) :
    environmentValue? env name = some value ↔ FirstEntry env name value := by
  rw [environmentValue?_eq, List.findSome?_eq_some_iff]
  simp only [valueIn?_eq_some_iff hname, valueIn?_eq_none_iff hname]
  constructor
  · rintro ⟨earlier, _, later, henv, rfl, hfirst⟩
    exact ⟨earlier, later, henv, hfirst⟩
  · rintro ⟨earlier, later, henv, hfirst⟩
    exact ⟨earlier, _, later, henv, rfl, hfirst⟩

theorem environmentValue?_eq_none_iff (hname : '=' ∉ name.toList) :
    environmentValue? env name = none ↔ Unset env name := by
  rw [environmentValue?_eq, List.findSome?_eq_none_iff]
  simp only [valueIn?_eq_none_iff hname, Unset]

/-! ### Addresses -/

/-- The address under a name, or none. -/
inductive AddressUnder (env : List String) (name : String) : List String → Prop
  /-- The value holds an address, maybe with blanks around it. -/
  | address (value url : String) (entry : FirstEntry env name value) (trims : Text.Trims value url) (holds : url ≠ "") :
      AddressUnder env name [url]
  /-- The value is blank. -/
  | blank (value : String) (entry : FirstEntry env name value) (blank : ∀ c ∈ value.toList, Text.isBlank c = true) :
      AddressUnder env name []
  /-- There is no value. -/
  | unset (unset : Unset env name) : AddressUnder env name []

/-- The addresses of a container: the preferred one, then the other. -/
def Addresses (env urls : List String) : Prop :=
  ∃ preferred other, AddressUnder env "ECS_CONTAINER_METADATA_URI_V4" preferred ∧
    AddressUnder env "ECS_CONTAINER_METADATA_URI" other ∧ urls = preferred ++ other

theorem addressUnder_iff (hname : '=' ∉ name.toList) {urls : List String} :
    AddressUnder env name urls ↔ urls = (urlIn? env name).toList := by
  constructor
  · intro h
    cases h with
    | address value url entry trims holds =>
      rw [urlIn?, (environmentValue?_eq_some_iff hname).mpr entry, Option.bind_some, ← Text.trims_iff.mp trims]
      simp [holds]
    | blank value entry blank =>
      rw [urlIn?, (environmentValue?_eq_some_iff hname).mpr entry, Option.bind_some,
        Text.trim_eq_empty_iff.mpr (List.all_eq_true.mpr blank)]
      rfl
    | unset unset =>
      rw [urlIn?, (environmentValue?_eq_none_iff hname).mpr unset]
      rfl
  · rintro rfl
    rw [urlIn?]
    cases hvalue : environmentValue? env name with
    | none => exact .unset ((environmentValue?_eq_none_iff hname).mp hvalue)
    | some value =>
      have hentry := (environmentValue?_eq_some_iff hname).mp hvalue
      by_cases hblank : Text.trim value = ""
      · rw [Option.bind_some, hblank]
        exact .blank value hentry (List.all_eq_true.mp (Text.trim_eq_empty_iff.mp hblank))
      · have haddress := AddressUnder.address value _ hentry (Text.trims_trim value) hblank
        simpa [hblank] using haddress

/-- **The addresses that are read** are those of the environment. -/
theorem addresses_iff {urls : List String} : Addresses env urls ↔ urls = metadataUrls env := by
  have hread : metadataUrls env = (urlIn? env "ECS_CONTAINER_METADATA_URI_V4").toList ++
      (urlIn? env "ECS_CONTAINER_METADATA_URI").toList := by
    simp only [metadataUrls, metadataVariables, List.filterMap_cons, List.filterMap_nil]
    cases urlIn? env "ECS_CONTAINER_METADATA_URI_V4" <;> cases urlIn? env "ECS_CONTAINER_METADATA_URI" <;> rfl
  have hpreferred : '=' ∉ "ECS_CONTAINER_METADATA_URI_V4".toList := by decide
  have hother : '=' ∉ "ECS_CONTAINER_METADATA_URI".toList := by decide
  simp only [Addresses, addressUnder_iff hpreferred, addressUnder_iff hother, exists_and_left, exists_eq_left, hread]

/-- An entry without an equals sign says nothing, and only the first of two with one name counts. -/
example : metadataUrls ["ECS_CONTAINER_METADATA_URI", "ECS_CONTAINER_METADATA_URI= http://a/?x=y ",
    "ECS_CONTAINER_METADATA_URI_V4= ", "ECS_CONTAINER_METADATA_URI=http://b"] = ["http://a/?x=y"] := by decide +kernel

/-- No address is blank, and none has blanks around it. -/
theorem Addresses.trimmed {urls : List String} (h : Addresses env urls) :
    ∀ url ∈ urls, Text.Trimmed url ∧ Text.allBlank url = false := by
  have hunder : ∀ {name : String} {urls : List String}, AddressUnder env name urls →
      ∀ url ∈ urls, Text.Trimmed url ∧ Text.allBlank url = false := by
    intro name urls haddress url hurl
    cases haddress with
    | address value url' entry trims holds =>
      obtain rfl := List.mem_singleton.mp hurl
      exact ⟨trims.trimmed, trims.trimmed.not_allBlank holds⟩
    | blank => cases hurl
    | unset => cases hurl
  obtain ⟨preferred, other, hpreferred, hother, rfl⟩ := h
  intro url hurl
  exact (List.mem_append.mp hurl).elim (hunder hpreferred url) (hunder hother url)

end LogTagger
