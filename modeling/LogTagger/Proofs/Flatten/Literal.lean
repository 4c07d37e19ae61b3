import LogTagger.Proofs.Flatten.Distinct
import LogTagger.Proofs.Flatten.Outline

/-!
# Flattening under the fields' own names

Under literal naming a key is the path of a leaf, so a leaf whose key is taken has no other key to go
under, and is dropped. It is left to say when a path is that of two leaves.

A path names its leaf as long as it can be read back: if no name is empty or has a dot in it, what stands
between the dots of a path are the names and indices that lead to the leaf (`joined_inj`). These are
different for different leaves, as the names of an object differ, and so do the indices of an array
(`nodup_segments`); it does not matter that a name may look like an index.

**`ofDocument_literal`**: in any document the first leaf with a path keeps it, and nothing else is found.
In a document with plain names (`Json.Plain`) every leaf keeps its path.
-/

namespace LogTagger

namespace Flattening

/-! ### Entering under literal names -/

variable {f : Flattening} {e : Leaf}

/-- Nothing is ever renamed. -/
theorem renamed_enter_literal : (f.enter .literal e).renamed = f.renamed := by
  obtain ⟨-, heq⟩ | ⟨-, -, heq⟩ | ⟨-, -, hother, -⟩ | ⟨-, -, -, heq⟩ := enter_cases .literal f e
  · rw [heq]
  · rw [heq]
  · exact absurd rfl hother
  · rw [heq]

/-- A leaf is found under its path, if it has one and no leaf before it had the same. -/
theorem get?_enter_literal (k : String) : (f.enter .literal e).attributes.get? k =
    (f.attributes.get? k).or (if e.1 = k ∧ k ≠ "" then some e.2 else none) := by
  obtain ⟨hempty, heq⟩ | ⟨hne, hfree, heq⟩ | ⟨-, -, hother, -⟩ | ⟨hne, htaken, -, heq⟩ := enter_cases .literal f e
  · have hnone : ¬(e.1 = k ∧ k ≠ "") := fun h => h.2 (h.1 ▸ hempty)
    rw [heq, if_neg hnone, Option.or_none]
  · have hfree : f.attributes.get? e.1 = none := SortedMap.contains_eq_false_iff.mp hfree
    by_cases hk : e.1 = k
    · subst hk
      rw [heq, if_pos ⟨rfl, hne⟩, hfree, Option.none_or]
      exact SortedMap.get?_insert_self _ _ _
    · rw [heq, if_neg fun h => hk h.1, Option.or_none]
      exact SortedMap.get?_insert_of_ne _ _ (Ne.symm hk)
  · exact absurd rfl hother
  · obtain ⟨v, hv⟩ : ∃ v, f.attributes.get? e.1 = some v := SortedMap.contains_eq_true_iff.mp htaken
    by_cases hk : e.1 = k
    · subst hk
      rw [heq, hv, Option.some_or]
    · rw [heq, if_neg fun h => hk h.1, Option.or_none]

theorem renamed_enterAll_literal (leaves : List Leaf) : (enterAll .literal leaves).renamed = 0 := by
  induction leaves using List.reverseRecOn with
  | nil => rfl
  | append_singleton earlier e ih => rw [enterAll_concat, renamed_enter_literal, ih]

/-- What is found under a path is the first leaf with it. -/
theorem get?_enterAll_literal (leaves : List Leaf) {k : String} (hk : k ≠ "") :
    (enterAll .literal leaves).attributes.get? k = SortedMap.lookup k leaves := by
  induction leaves using List.reverseRecOn with
  | nil => rfl
  | append_singleton earlier e ih =>
    rw [enterAll_concat, get?_enter_literal, ih, SortedMap.lookup_append]
    congr 1
    simp only [SortedMap.lookup, hk, ne_eq, not_false_eq_true, and_true, eq_comm]

theorem get?_enterAll_literal_empty (leaves : List Leaf) : (enterAll .literal leaves).attributes.get? "" = none := by
  induction leaves using List.reverseRecOn with
  | nil => rfl
  | append_singleton earlier e ih =>
    rw [enterAll_concat, get?_enter_literal, ih]
    simp

end Flattening

/-! ### Segments -/

namespace Json

/-- The names and indices on the way to leaves. -/
def segments {α : Type} (l : List (Route × α)) : List (List String) := l.map fun e => e.1.map Step.text

/-- The names and indices on a way, with dots between them. -/
def Route.joined (route : Route) : String := ".".intercalate (route.map Step.text)

/-- No name of a field is empty or has a dot in it. -/
inductive Plain : Json → Prop
  | null : Plain .null
  | bool (b : Bool) : Plain (.bool b)
  | number (n : Number) : Plain (.number n)
  | string (s : String) : Plain (.string s)
  | array {items : List Json} (h : ∀ v ∈ items, Plain v) : Plain (.array items)
  | object {fields : List (String × Json)} (names : ∀ e ∈ fields, e.1 ≠ "" ∧ '.' ∉ e.1.toList)
      (h : ∀ e ∈ fields, Plain e.2) : Plain (.object fields)

section

variable {α : Type}

theorem segments_append (l r : List (Route × α)) : segments (l ++ r) = segments l ++ segments r := List.map_append

theorem segments_through (s : Step) (l : List (Route × α)) :
    segments (through s l) = (segments l).map (s.text :: ·) := by
  simp [segments, through]

end

theorem exists_of_mem_segments_items {index : Nat} {items : List Json} {t : List String}
    (h : t ∈ segments (routedItems index items)) : ∃ i rest, index ≤ i ∧ t = toString i :: rest := by
  induction items generalizing index with
  | nil => cases h
  | cons v rest ih =>
    rw [routedItems, segments_append, segments_through, List.mem_append] at h
    rcases h with h | h
    · obtain ⟨t, -, rfl⟩ := List.mem_map.mp h
      exact ⟨index, t, Nat.le_refl _, rfl⟩
    · obtain ⟨i, t, hi, rfl⟩ := ih h
      exact ⟨i, t, Nat.le_of_succ_le hi, rfl⟩

theorem exists_of_mem_segments_fields {fields : List (String × Json)} {t : List String}
    (h : t ∈ segments (routedFields fields)) : ∃ name rest, name ∈ fields.map Prod.fst ∧ t = name :: rest := by
  induction fields with
  | nil => cases h
  | cons e rest ih =>
    obtain ⟨name, v⟩ := e
    rw [routedFields, segments_append, segments_through, List.mem_append] at h
    rcases h with h | h
    · obtain ⟨t, -, rfl⟩ := List.mem_map.mp h
      exact ⟨name, t, List.mem_cons_self, rfl⟩
    · obtain ⟨name', t, hname, rfl⟩ := ih h
      exact ⟨name', t, List.mem_cons_of_mem _ hname, rfl⟩

mutual

/-- **Different leaves are reached by different names and indices.** -/
theorem nodup_segments : ∀ v : Json, v.Sorted → (segments v.routed).Nodup
  | .null, _ => .nil
  | .bool _, _ => List.nodup_singleton _
  | .number _, _ => List.nodup_singleton _
  | .string _, _ => List.nodup_singleton _
  | .array items, h => by
    rw [routed]
    cases h with
    | array hitems => exact nodup_segments_items 0 items hitems
  | .object fields, h => by
    rw [routed]
    cases h with
    | object names hfields => exact nodup_segments_fields fields (SortedMap.nodup_of_pairwise names) hfields

theorem nodup_segments_items (index : Nat) : ∀ items : List Json, (∀ v ∈ items, v.Sorted) →
    (segments (routedItems index items)).Nodup
  | [], _ => .nil
  | v :: rest, h => by
    obtain ⟨hv, hrest⟩ := List.forall_mem_cons.mp h
    rw [routedItems, segments_append, segments_through, List.nodup_append]
    refine ⟨(nodup_segments v hv).map (List.cons_injective), nodup_segments_items (index + 1) rest hrest, ?_⟩
    intro a ha b hb hab
    obtain ⟨t, -, rfl⟩ := List.mem_map.mp ha
    obtain ⟨i, t', hi, rfl⟩ := exists_of_mem_segments_items hb
    have hindex : index = i := Nat.repr_inj.mp (List.cons.inj hab).1
    omega

theorem nodup_segments_fields : ∀ fields : List (String × Json), (fields.map Prod.fst).Nodup →
    (∀ e ∈ fields, e.2.Sorted) → (segments (routedFields fields)).Nodup
  | [], _, _ => .nil
  | (name, v) :: rest, hnames, h => by
    obtain ⟨hv, hrest⟩ := List.forall_mem_cons.mp h
    obtain ⟨hnew, hnames⟩ := List.nodup_cons.mp hnames
    rw [routedFields, segments_append, segments_through, List.nodup_append]
    refine ⟨(nodup_segments v hv).map (List.cons_injective), nodup_segments_fields rest hnames hrest, ?_⟩
    intro a ha b hb hab
    obtain ⟨t, -, rfl⟩ := List.mem_map.mp ha
    obtain ⟨name', t', hname, rfl⟩ := exists_of_mem_segments_fields hb
    obtain rfl : name = name' := (List.cons.inj hab).1
    exact hnew hname

end

/-! ### Plain names -/

/-- A name or an index that can be told from those around it. -/
def PlainSegment (s : String) : Prop := s ≠ "" ∧ '.' ∉ s.toList

theorem plainSegment_toString (index : Nat) : PlainSegment (toString index) :=
  ⟨fun h => absurd (congrArg String.toList h) (by simp), not_mem_dot_toString index⟩

mutual

theorem Plain.segments : ∀ {v : Json}, v.Plain → ∀ t ∈ Json.segments v.routed, ∀ s ∈ t, PlainSegment s
  | .null, _ => fun t ht => by cases ht
  | .bool _, _ => by simp [routed, Json.segments]
  | .number _, _ => by simp [routed, Json.segments]
  | .string _, _ => by simp [routed, Json.segments]
  | .array items, h => by
    rw [routed]
    cases h with
    | array hitems => exact Plain.segments_items 0 items hitems
  | .object fields, h => by
    rw [routed]
    cases h with
    | object names hfields => exact Plain.segments_fields fields names hfields

theorem Plain.segments_items (index : Nat) : ∀ items : List Json, (∀ v ∈ items, v.Plain) →
    ∀ t ∈ Json.segments (routedItems index items), ∀ s ∈ t, PlainSegment s
  | [], _ => fun t ht => by cases ht
  | v :: rest, h => by
    obtain ⟨hv, hrest⟩ := List.forall_mem_cons.mp h
    intro t ht
    rw [routedItems, segments_append, segments_through, List.mem_append] at ht
    rcases ht with ht | ht
    · obtain ⟨below, hbelow, rfl⟩ := List.mem_map.mp ht
      exact List.forall_mem_cons.mpr ⟨plainSegment_toString index, Plain.segments hv below hbelow⟩
    · exact Plain.segments_items (index + 1) rest hrest t ht

theorem Plain.segments_fields : ∀ fields : List (String × Json), (∀ e ∈ fields, PlainSegment e.1) →
    (∀ e ∈ fields, e.2.Plain) → ∀ t ∈ Json.segments (routedFields fields), ∀ s ∈ t, PlainSegment s
  | [], _, _ => fun t ht => by cases ht
  | (name, v) :: rest, hnames, h => by
    obtain ⟨hname, hnames⟩ := List.forall_mem_cons.mp hnames
    obtain ⟨hv, hrest⟩ := List.forall_mem_cons.mp h
    intro t ht
    rw [routedFields, segments_append, segments_through, List.mem_append] at ht
    rcases ht with ht | ht
    · obtain ⟨below, hbelow, rfl⟩ := List.mem_map.mp ht
      exact List.forall_mem_cons.mpr ⟨hname, Plain.segments hv below hbelow⟩
    · exact Plain.segments_fields rest hnames hrest t ht

end

/-- What is joined by dots can be read back if none of it has a dot in it. -/
theorem joined_inj {l r : List String} (hl : ∀ s ∈ l, PlainSegment s) (hr : ∀ s ∈ r, PlainSegment s) (hl' : l ≠ [])
    (hr' : r ≠ []) (h : ".".intercalate l = ".".intercalate r) : l = r := by
  have hsplit : ∀ {l : List String}, (∀ s ∈ l, PlainSegment s) → l ≠ [] →
      (".".intercalate l).toList.splitOn '.' = l.map String.toList := by
    intro l hl hne
    have hnodot : ∀ cs ∈ l.map String.toList, '.' ∉ cs := List.forall_mem_map.mpr fun s hs => (hl s hs).2
    rw [String.toList_intercalate]
    exact List.splitOn_intercalate '.' hnodot (by simpa using hne)
  have hchars : l.map String.toList = r.map String.toList := by rw [← hsplit hl hl', h, hsplit hr hr']
  exact List.map_injective_iff.mpr (fun _ _ => String.toList_inj.mp) hchars

/-- The path of a route that starts below another path. -/
theorem Route.path_eq_intercalate {start : String} (hstart : start ≠ "") (route : Route) :
    route.path start = ".".intercalate (start :: route.map Step.text) := by
  induction route generalizing start with
  | nil => simp [Route.path]
  | cons s rest ih =>
    have hjoin : KeyPath.join start s.text = start ++ "." ++ s.text := by simp [KeyPath.join, hstart]
    have hne : start ++ "." ++ s.text ≠ "" := by simp [hstart]
    have hstep : Route.path start (s :: rest) = Route.path (start ++ "." ++ s.text) rest := by
      rw [Route.path, List.foldl_cons, hjoin]
      rfl
    rw [hstep, ih hne, List.map_cons, String.intercalate_cons_cons, String.intercalate_cons_append]

/-- The path of a route is joined from its names and indices, if none is empty. -/
theorem Route.path_eq_joined {s : Step} (rest : Route) (hs : s.text ≠ "") :
    Route.path "" (s :: rest) = Route.joined (s :: rest) := by
  have hstep : Route.path "" (s :: rest) = Route.path s.text rest := rfl
  rw [hstep, Route.path_eq_intercalate hs, Route.joined, List.map_cons]

theorem Route.joined_ne_empty {s : Step} (rest : Route) (hs : s.text ≠ "") : Route.joined (s :: rest) ≠ "" := by
  rw [Route.joined, List.map_cons]
  cases rest with
  | nil => simpa using hs
  | cons s' rest => simp [String.intercalate_cons_cons, hs]

/-- The value holds others. -/
inductive Compound : Json → Prop
  | array (items : List Json) : Compound (.array items)
  | object (fields : List (String × Json)) : Compound (.object fields)

/-- Something leads to each leaf of a value that is none itself. -/
theorem Compound.ne_nil {v : Json} (h : v.Compound) : ∀ t ∈ Json.segments v.routed, t ≠ [] := by
  intro t ht
  cases h with
  | array items =>
    obtain ⟨i, rest, -, rfl⟩ := exists_of_mem_segments_items ht
    exact List.cons_ne_nil _ _
  | object fields =>
    obtain ⟨name, rest, -, rfl⟩ := exists_of_mem_segments_fields ht
    exact List.cons_ne_nil _ _

section

variable {document : Json} (hplain : document.Plain) (hcompound : document.Compound)

include hplain hcompound

/-- A name or an index leads to each leaf. -/
theorem exists_step : ∀ e ∈ document.routed, ∃ s rest, e.1 = s :: rest ∧ s.text ≠ "" := by
  intro e he
  obtain ⟨route, value⟩ := e
  have hmem : route.map Step.text ∈ segments document.routed := List.mem_map.mpr ⟨_, he, rfl⟩
  cases route with
  | nil => exact absurd rfl (hcompound.ne_nil _ hmem)
  | cons s rest => exact ⟨s, rest, rfl, (hplain.segments _ hmem s.text (by simp)).1⟩

/-- In a document with plain names the path of a leaf is joined from what leads to it. -/
theorem literalLeaves_eq_joined : document.literalLeaves = document.routed.map fun e => (e.1.joined, e.2) := by
  rw [literalLeaves, leavesBelow_eq_map_routed]
  refine List.map_congr_left fun e he => ?_
  obtain ⟨s, rest, heq, hs⟩ := exists_step hplain hcompound e he
  rw [heq, Route.path_eq_joined rest hs]

theorem path_ne_empty_of_plain : ∀ e ∈ document.literalLeaves, e.1 ≠ "" := by
  rw [literalLeaves_eq_joined hplain hcompound]
  refine List.forall_mem_map.mpr fun e he => ?_
  obtain ⟨s, rest, heq, hs⟩ := exists_step hplain hcompound e he
  rw [heq]
  exact Route.joined_ne_empty rest hs

/-- **Different leaves have different paths.** -/
theorem nodup_joined (hsorted : document.Sorted) : (document.routed.map fun e => e.1.joined).Nodup := by
  have hjoined : (document.routed.map fun e => e.1.joined) = (segments document.routed).map ".".intercalate := by
    rw [segments, List.map_map]
    rfl
  rw [hjoined]
  refine (nodup_segments document hsorted).map_on fun t ht u hu h => ?_
  exact joined_inj (hplain.segments t ht) (hplain.segments u hu) (hcompound.ne_nil t ht) (hcompound.ne_nil u hu) h

end

end Json

/-! ### Documents -/

namespace Flattening

/-- Every leaf of the document has a key of its own. -/
structure KeyPerLeaf (document : Json) : Prop where
  /-- No two leaves have the same path. -/
  distinct : (document.routed.map fun e => e.1.joined).Nodup
  /-- No leaf is dropped. -/
  dropped : (ofDocument .literal document).dropped = 0
  /-- The attributes are the leaves under their paths. -/
  exact : (ofDocument .literal document).attributes.entries.Perm (document.routed.map fun e => (e.1.joined, e.2))
  /-- There are as many as scalars other than null. -/
  size : (ofDocument .literal document).attributes.size = document.scalarCount

/-- What flattening under the fields' own names does with a document. -/
structure LiterallyResolved (document : Json) : Prop where
  /-- Nothing is renamed. -/
  renamed : (ofDocument .literal document).renamed = 0
  /-- What is found under a path is the first leaf that has it, and nothing is found elsewhere. -/
  first : ∀ path value, (ofDocument .literal document).attributes.get? path = some value ↔
    path ≠ "" ∧ ∃ earlier later, document.literalLeaves = earlier ++ (path, value) :: later ∧ ∀ e ∈ earlier, e.1 ≠ path
  /-- If all names are plain, no leaf takes the key of another. -/
  plain : document.Sorted → document.Plain → document.Compound → KeyPerLeaf document

theorem keyPerLeaf {document : Json} (hsorted : document.Sorted) (hplain : document.Plain)
    (hcompound : document.Compound) : KeyPerLeaf document := by
  have hleaves := Json.literalLeaves_eq_joined hplain hcompound
  have hdistinct := Json.nodup_joined hplain hcompound hsorted
  have hnames : (document.literalLeaves.map fun e => KeyNaming.literal.segment e.1).Nodup := by
    rw [hleaves, List.map_map]
    exact hdistinct
  obtain ⟨-, hdropped, hentries⟩ :=
    enterAll_of_nodup .literal (Json.path_ne_empty_of_plain hplain hcompound) hnames
  rw [← ofDocument_eq_enterAll] at hdropped hentries
  have hexact : (ofDocument .literal document).attributes.entries.Perm document.literalLeaves := by
    simpa [KeyNaming.segment] using hentries
  refine ⟨hdistinct, hdropped, hleaves ▸ hexact, ?_⟩
  rw [SortedMap.size, hexact.length_eq, Json.literalLeaves, Json.length_leavesBelow]

/-- **Under the fields' own names the first leaf with a path keeps it**, and in a document with plain names all of
them do. -/
theorem ofDocument_literal (document : Json) : LiterallyResolved document where
  renamed := by rw [ofDocument_eq_enterAll, renamed_enterAll_literal]
  first path value := by
    rw [ofDocument_eq_enterAll, ← SortedMap.lookup_eq_some_iff_first]
    by_cases hpath : path = ""
    · simp [hpath, get?_enterAll_literal_empty]
    · simp [hpath, get?_enterAll_literal _ hpath]
  plain hsorted hplain hcompound := keyPerLeaf hsorted hplain hcompound

/-- A name that has a dot in it may lead where two other names lead. -/
example : (ofDocument .literal (.object [("a", .object [("b", .bool true)]), ("a.b", .bool false)])).dropped = 1 := by
  decide +kernel

end Flattening

end LogTagger
