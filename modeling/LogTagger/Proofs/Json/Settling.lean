import LogTagger.Proofs.Json.RoundTrip
import LogTagger.Proofs.SortedMap

/-!
# What a draft settles to

Of a draft that settles, the value nests no deeper than it may and lists the fields of each object in
order (`fits_of_value?`). The other way round, the draft of such a value settles to it, if every double in
it is read back (`value?_draftOf`).
-/

namespace LogTagger

namespace Json

/-- A value nests no deeper than to a depth, and its objects list their fields in order. -/
inductive Fits : Nat → Json → Prop where
  | null (depth : Nat) : Fits depth .null
  | bool (depth : Nat) (b : Bool) : Fits depth (.bool b)
  | number (depth : Nat) (n : Number) : Fits depth (.number n)
  | string (depth : Nat) (s : String) : Fits depth (.string s)
  | array {depth : Nat} {items : List Json} (h : ∀ v ∈ items, Fits depth v) : Fits (depth + 1) (.array items)
  | object {depth : Nat} {fields : List (String × Json)} (names : fields.Pairwise KeyBefore)
      (h : ∀ e ∈ fields, Fits depth e.2) : Fits (depth + 1) (.object fields)

theorem Fits.sorted {depth : Nat} {v : Json} (h : Fits depth v) : v.Sorted := by
  induction h with
  | null => exact .null
  | bool depth b => exact .bool b
  | number depth n => exact .number n
  | string depth s => exact .string s
  | array h ih => exact .array ih
  | object names h ih => exact .object names ih

mutual

theorem fits_of_value? : (d : Draft) → (depth : Nat) → (v : Json) → d.value? depth = some v → Fits depth v
  | .null, depth, v, h => by
    obtain rfl := Option.some.inj h
    exact .null depth
  | .bool b, depth, v, h => by
    obtain rfl := Option.some.inj h
    exact .bool depth b
  | .number t, depth, v, h => by
    obtain ⟨n, -, rfl⟩ := Option.map_eq_some_iff.mp h
    exact .number depth n
  | .string units, depth, v, h => by
    obtain ⟨s, -, rfl⟩ := Option.map_eq_some_iff.mp h
    exact .string depth s
  | .array items, depth, v, h => by
    rw [Draft.value?] at h
    split at h
    case isTrue => cases h
    case isFalse hdepth =>
      obtain ⟨vs, hvs, rfl⟩ := Option.map_eq_some_iff.mp h
      obtain ⟨depth, rfl⟩ := Nat.exists_eq_succ_of_ne_zero hdepth
      exact .array (fits_of_values? items depth vs hvs)
  | .object members, depth, v, h => by
    rw [Draft.value?] at h
    split at h
    case isTrue => cases h
    case isFalse hdepth =>
      obtain ⟨fields, hfields, rfl⟩ := Option.map_eq_some_iff.mp h
      obtain ⟨depth, rfl⟩ := Nat.exists_eq_succ_of_ne_zero hdepth
      obtain ⟨hnames, hfits⟩ := fits_of_fields? members depth [] fields .nil (by simp) hfields
      exact .object hnames hfits

theorem fits_of_values? : (ds : List Draft) → (depth : Nat) → (vs : List Json) → Draft.values? depth ds = some vs →
    ∀ v ∈ vs, Fits depth v
  | [], depth, vs, h => by
    obtain rfl := Option.some.inj h
    simp
  | d :: ds, depth, vs, h => by
    obtain ⟨v, hv, h⟩ := Option.bind_eq_some_iff.mp h
    obtain ⟨rest, hrest, rfl⟩ := Option.map_eq_some_iff.mp h
    exact List.forall_mem_cons.mpr ⟨fits_of_value? d depth v hv, fits_of_values? ds depth rest hrest⟩

theorem fits_of_fields? : (members : List (List TextUnit × Draft)) → (depth : Nat) →
    (acc fields : List (String × Json)) → acc.Pairwise KeyBefore → (∀ e ∈ acc, Fits depth e.2) →
      Draft.fields? depth members acc = some fields →
      fields.Pairwise KeyBefore ∧ ∀ e ∈ fields, Fits depth e.2
  | [], depth, acc, fields, hnames, hfits, h => by
    obtain rfl := Option.some.inj h
    exact ⟨hnames, hfits⟩
  | (units, d) :: rest, depth, acc, fields, hnames, hfits, h => by
    obtain ⟨name, -, h⟩ := Option.bind_eq_some_iff.mp h
    obtain ⟨v, hv, h⟩ := Option.bind_eq_some_iff.mp h
    refine fits_of_fields? rest depth _ fields (SortedMap.pairwise_insertEntry name v hnames) (fun e he => ?_) h
    rcases SortedMap.mem_insertEntry he with rfl | he
    · exact fits_of_value? d depth v hv
    · exact hfits e he

end

/-- A value that was read from a text lists the fields of its objects in order. -/
theorem sorted_of_read? {s : String} {v : Json} (h : read? s = some v) : v.Sorted := by
  obtain ⟨d, -, hvalue⟩ := Option.bind_eq_some_iff.mp h
  exact (fits_of_value? d nestingLimit v hvalue).sorted

mutual

/-- The draft of a value settles to the value. -/
theorem value?_draftOf : (v : Json) → v.Legible → (depth : Nat) → Fits depth v → (draftOf v).value? depth = some v
  | .null, _, _, _ => rfl
  | .bool b, _, _, _ => rfl
  | .number n, h, _, _ => by rw [draftOf, Draft.value?, h.number.parts.2, Option.map_some]
  | .string s, _, _, _ => by rw [draftOf, Draft.value?, textOfUnits?_unitsOf, Option.map_some]
  | .array items, h, _, .array hfits => by
    rw [draftOf, Draft.value?, if_neg (Nat.succ_ne_zero _), Nat.add_sub_cancel, values?_itemDrafts items h _ hfits,
      Option.map_some]
  | .object fields, h, _, .object hnames hfits => by
    rw [draftOf, Draft.value?, if_neg (Nat.succ_ne_zero _), Nat.add_sub_cancel,
      fields?_memberDrafts fields h _ hfits [] hnames, Option.map_some]
    rfl

theorem values?_itemDrafts : (items : List Json) → (Json.array items).Legible → (depth : Nat) →
    (∀ v ∈ items, Fits depth v) → Draft.values? depth (itemDrafts items) = some items
  | [], _, _, _ => rfl
  | v :: rest, h, depth, hfits => by
    obtain ⟨hlegible, hmore⟩ := legible_array_cons.mp h
    obtain ⟨hv, hrest⟩ := List.forall_mem_cons.mp hfits
    rw [itemDrafts, Draft.values?, value?_draftOf v hlegible depth hv, Option.bind_some,
      values?_itemDrafts rest hmore depth hrest, Option.map_some]

theorem fields?_memberDrafts : (fields : List (String × Json)) → (Json.object fields).Legible →
    (depth : Nat) → (∀ e ∈ fields, Fits depth e.2) → (acc : List (String × Json)) →
      (acc ++ fields).Pairwise KeyBefore → Draft.fields? depth (memberDrafts fields) acc = some (acc ++ fields)
  | [], _, _, _, acc, _ => by rw [List.append_nil]; rfl
  | (name, v) :: rest, h, depth, hfits, acc, hnames => by
    obtain ⟨hlegible, hmore⟩ := legible_object_cons.mp h
    obtain ⟨hv, hrest⟩ := List.forall_mem_cons.mp hfits
    have hlast : ∀ e ∈ acc, e.1 < name := fun e he =>
      (List.pairwise_append.mp hnames).2.2 e he (name, v) List.mem_cons_self
    rw [List.append_cons] at hnames
    rw [memberDrafts, Draft.fields?, textOfUnits?_unitsOf, Option.bind_some, value?_draftOf v hlegible depth hv,
      Option.bind_some, SortedMap.insertEntry_concat v hlast,
      fields?_memberDrafts rest hmore depth hrest (acc ++ [(name, v)]) hnames, List.append_assoc, List.singleton_append]

end

end Json

end LogTagger
