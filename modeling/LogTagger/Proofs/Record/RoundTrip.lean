import LogTagger.Proofs.Json.Settling
import LogTagger.Record

/-!
# Written records are read back

Records that were read are `Codable`: the values of their attributes are in the kinds in which their JSON
is read, and their bodies nest no deeper than a body may (`ResourceLogs.codable_of_ofText?`). Codable
records are read back from their line as they are (`ResourceLogs.ofText?_line`), as long as every double
in them is.
-/

namespace LogTagger

/-- The list that an operation makes of a list holds what it makes of the items. -/
theorem exists_of_mem_mapM {α β : Type} {f : α → Option β} {l : List α} {r : List β} (h : l.mapM f = some r) {b : β}
    (hb : b ∈ r) : ∃ a ∈ l, f a = some b := by
  induction l generalizing r with
  | nil =>
    obtain rfl := Option.some.inj h
    cases hb
  | cons a rest ih =>
    rw [List.mapM_cons] at h
    obtain ⟨b', hb', h⟩ := Option.bind_eq_some_iff.mp h
    obtain ⟨r', hr', h⟩ := Option.bind_eq_some_iff.mp h
    obtain rfl := Option.some.inj h
    rcases List.mem_cons.mp hb with rfl | hb
    · exact ⟨a, List.mem_cons_self, hb'⟩
    · obtain ⟨a', ha', hf⟩ := ih hr' hb
      exact ⟨a', List.mem_cons_of_mem a ha', hf⟩

/-- An operation that makes of the image of each item the item makes of the list of images the list. -/
theorem mapM_map_eq_some {α β : Type} {f : α → β} {g : β → Option α} {l : List α} (h : ∀ a ∈ l, g (f a) = some a) :
    (l.map f).mapM g = some l := by
  induction l with
  | nil => rfl
  | cons a rest ih =>
    rw [List.map_cons, List.mapM_cons, h a List.mem_cons_self, ih fun b hb => h b (List.mem_cons_of_mem a hb)]
    rfl

/-! ### Attribute values -/

namespace AttributeValue

/-- A value is in the kind in which its JSON is read. -/
def Canonical (v : AttributeValue) : Prop := ofJson? v.toJson = some v

theorem canonical_string (s : String) : (string s).Canonical := rfl

/-- The value of a number is written as that number. -/
theorem toJson_ofNumber (n : Json.Number) : (ofNumber n).toJson = .number n := by
  cases n with
  | double x => rfl
  | whole n =>
    by_cases hsigned : n.value < 0x8000000000000000
    · have hvalue : (Int64.ofInt n.value).toInt = n.value := Int64.toInt_ofInt_of_le n.lower hsigned
      rw [ofNumber_whole_of_lt hsigned]
      simp only [toJson, WholeNumber.ofInt64, hvalue]
    · have hlarge : 0x8000000000000000 ≤ n.value := Int.not_lt.mp hsigned
      have hupper : n.value < 0x10000000000000000 := n.upper
      have hvalue : (UInt64.ofNat n.value.toNat).toNat = n.value.toNat := UInt64.toNat_ofNat_of_lt' (by
        change n.value.toNat < 18446744073709551616
        omega)
      have hwhole : (n.value.toNat : Int) = n.value := by omega
      rw [ofNumber_whole_of_le hlarge]
      simp only [toJson, WholeNumber.ofUInt64, hvalue, hwhole]

theorem canonical_ofNumber (n : Json.Number) : (ofNumber n).Canonical := by
  rw [Canonical, toJson_ofNumber, ofJson?_number]

theorem canonical_of_ofJson? {j : Json} {v : AttributeValue} (h : ofJson? j = some v) : v.Canonical := by
  cases j with
  | bool b =>
    obtain rfl := Option.some.inj h
    rfl
  | number n =>
    rw [ofJson?_number] at h
    obtain rfl := Option.some.inj h
    exact canonical_ofNumber n
  | string s =>
    obtain rfl := Option.some.inj h
    rfl
  | null => cases h
  | array items => cases h
  | object fields => cases h

theorem fits_toJson (v : AttributeValue) (depth : Nat) : Json.Fits depth v.toJson := by
  cases v with
  | bool b => exact .bool depth b
  | int n => exact .number depth _
  | uint n => exact .number depth _
  | string s => exact .string depth s
  | double x => cases x <;> constructor

end AttributeValue

/-- Attributes whose values are all in the kinds in which they are read. -/
def Attributes.Canonical (attributes : Attributes) : Prop := ∀ e ∈ attributes.entries, e.2.Canonical

theorem Attributes.canonical_empty : Attributes.Canonical ∅ := by
  intro e he
  cases he

/-- A record that can be written and read back. -/
structure LogRecord.Codable (r : LogRecord) : Prop where
  /-- The body nests no deeper than its place in a line allows. -/
  body : Json.Fits (Json.nestingLimit - 3) r.body
  attributes : r.attributes.Canonical

/-- A resource that can be written and read back with its records. -/
structure ResourceLogs.Codable (b : ResourceLogs) : Prop where
  resource : b.resource.attributes.Canonical
  records : ∀ r ∈ b.records, r.Codable

/-! ### What was read -/

namespace Json.Draft

variable {d : Draft} {depth : Nat}

/-- What holds of the default and of all that is read holds of the field. -/
theorem of_fieldOr {α : Type} {P : α → Prop} {slots : List (String × Draft)} {name : String} {read : Draft → Option α}
    {default value : α} (h : fieldOr slots name read default = some value) (hdefault : P default)
    (hread : ∀ d v, read d = some v → P v) : P value := by
  rw [fieldOr] at h
  split at h
  case h_1 hmissing =>
    obtain rfl := Option.some.inj h
    exact hdefault
  case h_2 d hfound => exact hread d value h

theorem canonical_of_attributes? {attributes : Attributes} (h : d.attributes? depth = some attributes) :
    attributes.Canonical := by
  cases d with
  | object members =>
    rw [attributes?] at h
    split at h
    case isTrue => cases h
    case isFalse =>
      obtain ⟨named, -, h⟩ := Option.bind_eq_some_iff.mp h
      obtain ⟨entries, hentries, rfl⟩ := Option.map_eq_some_iff.mp h
      intro e he
      obtain ⟨m, -, hm⟩ := exists_of_mem_mapM hentries (SortedMap.mem_of_mem_ofList he)
      obtain ⟨v, hv, rfl⟩ := Option.map_eq_some_iff.mp hm
      obtain ⟨j, -, hj⟩ := Option.bind_eq_some_iff.mp hv
      exact AttributeValue.canonical_of_ofJson? hj
  | null | bool | number | string | array => cases h

theorem codable_of_logRecord? {r : LogRecord} (h : d.logRecord? (nestingLimit - 2) = some r) : r.Codable := by
  rw [logRecord?, if_neg (by decide)] at h
  obtain ⟨slots, -, h⟩ := Option.bind_eq_some_iff.mp h
  obtain ⟨timeUnixNano, -, h⟩ := Option.bind_eq_some_iff.mp h
  obtain ⟨severityText, -, h⟩ := Option.bind_eq_some_iff.mp h
  obtain ⟨body, hbody, h⟩ := Option.bind_eq_some_iff.mp h
  obtain ⟨attributes, hattributes, h⟩ := Option.bind_eq_some_iff.mp h
  obtain rfl := Option.some.inj h
  exact
    { body := of_fieldOr hbody (.null _) fun d v => fits_of_value? d _ v
      attributes := of_fieldOr hattributes Attributes.canonical_empty fun d v => canonical_of_attributes? }

theorem codable_of_logRecords? {records : List LogRecord} (h : d.logRecords? (nestingLimit - 1) = some records) :
    ∀ r ∈ records, r.Codable := by
  cases d with
  | array items =>
    rw [logRecords?, if_neg (by decide)] at h
    intro r hr
    obtain ⟨item, -, hitem⟩ := exists_of_mem_mapM h hr
    exact codable_of_logRecord? hitem
  | null | bool | number | string | object => cases h

theorem canonical_of_resource? {r : Resource} (h : d.resource? depth = some r) : r.attributes.Canonical := by
  rw [resource?] at h
  split at h
  case isTrue => cases h
  case isFalse =>
    obtain ⟨slots, -, h⟩ := Option.bind_eq_some_iff.mp h
    obtain ⟨attributes, hattributes, h⟩ := Option.bind_eq_some_iff.mp h
    obtain rfl := Option.some.inj h
    exact of_fieldOr hattributes Attributes.canonical_empty fun d v => canonical_of_attributes?

theorem codable_of_resourceLogs? {b : ResourceLogs} (h : d.resourceLogs? nestingLimit = some b) : b.Codable := by
  rw [resourceLogs?, if_neg (by decide)] at h
  obtain ⟨slots, -, h⟩ := Option.bind_eq_some_iff.mp h
  obtain ⟨resource, hresource, h⟩ := Option.bind_eq_some_iff.mp h
  obtain ⟨records, hrecords, h⟩ := Option.bind_eq_some_iff.mp h
  obtain rfl := Option.some.inj h
  exact
    { resource := of_fieldOr (P := fun r => r.attributes.Canonical) hresource Attributes.canonical_empty
        fun d r => canonical_of_resource?
      records := of_fieldOr (P := fun records => ∀ r ∈ records, r.Codable) hrecords (by simp)
        fun d records => codable_of_logRecords? }

end Json.Draft

/-- Records that were read can be written and read back. -/
theorem ResourceLogs.codable_of_ofText? {s : String} {b : ResourceLogs} (h : ofText? s = some b) : b.Codable := by
  obtain ⟨d, -, hd⟩ := Option.bind_eq_some_iff.mp h
  exact Json.Draft.codable_of_resourceLogs? hd

/-! ### What is written -/

namespace Json.Draft

theorem namedMembers?_memberDrafts (fields : List (String × Json)) :
    namedMembers? (memberDrafts fields) = some (fields.map fun e => (e.1, draftOf e.2)) := by
  induction fields with
  | nil => rfl
  | cons e rest ih =>
    rw [namedMembers?] at ih
    rw [memberDrafts, namedMembers?, List.mapM_cons, textOfUnits?_unitsOf, ih]
    rfl

/-- The fields of an object are found by name, if it has none of the names twice. -/
theorem slots?_draftOf {names : List String} {fields : List (String × Json)}
    (h : names.all (atMostOnce (fields.map fun e => (e.1, draftOf e.2))) = true) :
    (draftOf (.object fields)).slots? names = some (fields.map fun e => (e.1, draftOf e.2)) := by
  rw [draftOf, slots?, namedMembers?_memberDrafts, Option.bind_some, if_pos h]

theorem fieldOr_eq_some {α : Type} {slots : List (String × Draft)} {name : String} {read : Draft → Option α} {value : α}
    (hslot : SortedMap.lookup name slots = some d) (hread : read d = some value) (default : α) :
    fieldOr slots name read default = some value := by
  rw [fieldOr, hslot]
  exact hread

theorem attributes?_draftOf {attributes : Attributes} (hcanonical : attributes.Canonical)
    (h : attributes.toJson.Legible) (depth : Nat) :
    (draftOf attributes.toJson).attributes? (depth + 1) = some attributes := by
  have hvalues : ∀ e ∈ attributes.entries,
      (attributeValue? depth (draftOf e.2.toJson)).map (fun v => (e.1, v)) = some e := by
    intro e he
    have hlegible : e.2.toJson.Legible := h.field (e.1, e.2.toJson) (List.mem_map.mpr ⟨e, he, rfl⟩)
    have hread : AttributeValue.ofJson? e.2.toJson = some e.2 := hcanonical e he
    rw [attributeValue?, value?_draftOf _ hlegible depth (e.2.fits_toJson depth), Option.bind_some, hread,
      Option.map_some]
  rw [Attributes.toJson, ofMap, draftOf, attributes?, if_neg (Nat.succ_ne_zero depth), namedMembers?_memberDrafts,
    Option.bind_some, List.map_map, Nat.add_sub_cancel, mapM_map_eq_some hvalues, Option.map_some,
    SortedMap.ofList_entries]

theorem uint64?_draftOf (n : UInt64) (depth : Nat) : (draftOf (.ofUInt64 n)).uint64? depth = some n := by
  have hlegible : (Json.ofUInt64 n).Legible := by
    intro x hx
    cases hx
  have hpositive : 0 ≤ (WholeNumber.ofUInt64 n).value := Int.natCast_nonneg n.toNat
  have hvalue : (WholeNumber.ofUInt64 n).value.toNat = n.toNat := Int.toNat_natCast n.toNat
  rw [uint64?, value?_draftOf _ hlegible depth (.number depth _)]
  simp only [Json.ofUInt64, if_pos hpositive, hvalue, UInt64.ofNat_toNat]

theorem string?_draftOf (s : String) (depth : Nat) : (draftOf (.string s)).string? depth = some s := by
  have hlegible : (Json.string s).Legible := by
    intro x hx
    cases hx
  rw [string?, value?_draftOf _ hlegible depth (.string depth s)]

theorem logRecord?_draftOf {r : LogRecord} (hr : r.Codable) (h : r.toJson.Legible) :
    (draftOf r.toJson).logRecord? (nestingLimit - 2) = some r := by
  have hslots : (draftOf r.toJson).slots? ["time_unix_nano", "severity_text", "body", "attributes"] = _ :=
    slots?_draftOf (by simp [atMostOnce])
  have hbody := value?_draftOf r.body (h.field ("body", r.body) (by simp)) _ hr.body
  have hattributes := attributes?_draftOf hr.attributes
    (h.field ("attributes", r.attributes.toJson) (by simp)) (nestingLimit - 4)
  have htime := uint64?_draftOf r.timeUnixNano (nestingLimit - 3)
  have hseverity := string?_draftOf r.severityText (nestingLimit - 3)
  rw [logRecord?, if_neg (by decide)]
  refine Option.bind_eq_some_iff.mpr ⟨_, hslots, ?_⟩
  refine Option.bind_eq_some_iff.mpr ⟨_, fieldOr_eq_some (by simp [SortedMap.lookup]) htime _, ?_⟩
  refine Option.bind_eq_some_iff.mpr ⟨_, fieldOr_eq_some (by simp [SortedMap.lookup]) hseverity _, ?_⟩
  refine Option.bind_eq_some_iff.mpr ⟨_, fieldOr_eq_some (by simp [SortedMap.lookup]) hbody _, ?_⟩
  exact Option.bind_eq_some_iff.mpr ⟨_, fieldOr_eq_some (by simp [SortedMap.lookup]) hattributes _, rfl⟩

theorem resource?_draftOf {r : Resource} (hr : r.attributes.Canonical) (h : r.toJson.Legible) :
    (draftOf r.toJson).resource? (nestingLimit - 1) = some r := by
  have hslots : (draftOf r.toJson).slots? ["attributes"] = _ := slots?_draftOf (by simp [atMostOnce])
  have hattributes := attributes?_draftOf hr (h.field ("attributes", r.attributes.toJson) (by simp)) (nestingLimit - 3)
  rw [resource?, if_neg (by decide)]
  refine Option.bind_eq_some_iff.mpr ⟨_, hslots, ?_⟩
  exact Option.bind_eq_some_iff.mpr ⟨_, fieldOr_eq_some (by simp [SortedMap.lookup]) hattributes _, rfl⟩

theorem logRecords?_draftOf {records : List LogRecord} (hrecords : ∀ r ∈ records, r.Codable)
    (h : (Json.array (records.map LogRecord.toJson)).Legible) :
    (draftOf (.array (records.map LogRecord.toJson))).logRecords? (nestingLimit - 1) = some records := by
  rw [draftOf, itemDrafts_eq_map, List.map_map, logRecords?, if_neg (by decide)]
  exact mapM_map_eq_some fun r hr => logRecord?_draftOf (hrecords r hr) (h.item _ (List.mem_map_of_mem hr))

theorem resourceLogs?_draftOf {b : ResourceLogs} (hb : b.Codable) (h : b.toJson.Legible) :
    (draftOf b.toJson).resourceLogs? nestingLimit = some b := by
  have hslots : (draftOf b.toJson).slots? ["resource", "records"] = _ := slots?_draftOf (by simp [atMostOnce])
  have hresource := resource?_draftOf hb.resource (h.field ("resource", b.resource.toJson) (by simp))
  have hrecords := logRecords?_draftOf hb.records
    (h.field ("records", .array (b.records.map LogRecord.toJson)) (by simp))
  rw [resourceLogs?, if_neg (by decide)]
  refine Option.bind_eq_some_iff.mpr ⟨_, hslots, ?_⟩
  refine Option.bind_eq_some_iff.mpr ⟨_, fieldOr_eq_some (by simp [SortedMap.lookup]) hresource _, ?_⟩
  exact Option.bind_eq_some_iff.mpr ⟨_, fieldOr_eq_some (by simp [SortedMap.lookup]) hrecords _, rfl⟩

end Json.Draft

/-- Records that can be written are read back from their line. -/
theorem ResourceLogs.ofText?_line {b : ResourceLogs} (hb : b.Codable) (h : b.toJson.Legible) :
    ofText? b.line = some b := by
  rw [ofText?, line, Json.render, String.toList_ofList, Json.Reader.draft?_chars h, Option.bind_some]
  exact Json.Draft.resourceLogs?_draftOf hb h

end LogTagger
