import LogTagger.Document
import LogTagger.Proofs.Flatten.Leaves
import LogTagger.Proofs.SortedMap
import Mathlib

/-!
# Colliding keys

What becomes of a leaf when it is entered (`enter_cases`): a leaf without a path is passed over; one
whose key is free keeps it; one whose key is taken goes under its path in the fields' own names if
that is another key and is free; and any other is dropped.

**`ofDocument_resolved`**: under dotted naming the outcome is settled by the leaves alone. The keys
without a capital are the dotted names, each with the value of the first leaf that has it; the keys
with a capital are the paths of leaves that came later. As a dotted name has no capital, neither kind
of key can ever take the place of the other.
-/

namespace LogTagger

namespace Flattening

/-! ### One leaf -/

variable {naming : KeyNaming} {f : Flattening} {e : Leaf}

/-- All that can become of a leaf. -/
theorem enter_cases (naming : KeyNaming) (f : Flattening) (e : Leaf) :
    (e.1 = "" ∧ f.enter naming e = f) ∨
    (e.1 ≠ "" ∧ f.attributes.contains (naming.segment e.1) = false ∧
      f.enter naming e = { f with attributes := f.attributes.insert (naming.segment e.1) e.2 }) ∨
    (e.1 ≠ "" ∧ f.attributes.contains (naming.segment e.1) = true ∧ e.1 ≠ naming.segment e.1 ∧
      f.attributes.contains e.1 = false ∧
      f.enter naming e = { f with attributes := f.attributes.insert e.1 e.2, renamed := f.renamed + 1 }) ∨
    (e.1 ≠ "" ∧ f.attributes.contains (naming.segment e.1) = true ∧
      (e.1 = naming.segment e.1 ∨ f.attributes.contains e.1 = true) ∧
      f.enter naming e = { f with dropped := f.dropped + 1 }) := by
  by_cases hempty : e.1 = ""
  · have hkey := naming.segment_eq_empty_iff.mpr hempty
    exact .inl ⟨hempty, by simp [enter, emit, KeyPath.named, hkey]⟩
  have hkey : naming.segment e.1 ≠ "" := fun h => hempty (naming.segment_eq_empty_iff.mp h)
  by_cases htaken : f.attributes.contains (naming.segment e.1) = true
  case neg =>
    rw [Bool.not_eq_true] at htaken
    exact .inr (.inl ⟨hempty, htaken, by simp [enter, emit, KeyPath.named, hkey, htaken]⟩)
  by_cases hself : e.1 = naming.segment e.1
  · refine .inr (.inr (.inr ⟨hempty, htaken, .inl hself, ?_⟩))
    rw [← hself] at htaken
    simp [enter, emit, KeyPath.named, hempty, htaken, ← hself]
  by_cases hfree : f.attributes.contains e.1 = true
  · refine .inr (.inr (.inr ⟨hempty, htaken, .inr hfree, ?_⟩))
    simp [enter, emit, KeyPath.named, hkey, htaken, hfree]
  · rw [Bool.not_eq_true] at hfree
    refine .inr (.inr (.inl ⟨hempty, htaken, hself, hfree, ?_⟩))
    simp [enter, emit, KeyPath.named, hkey, htaken, hself, hfree]

/-- No value is ever replaced. -/
theorem get?_enter_of_eq_some {k : String} {v : AttributeValue} (h : f.attributes.get? k = some v) :
    (f.enter naming e).attributes.get? k = some v := by
  have hne : ∀ k', f.attributes.contains k' = false → k ≠ k' := by
    rintro k' hfree rfl
    rw [SortedMap.contains_eq_false_iff, h] at hfree
    cases hfree
  obtain ⟨-, heq⟩ | ⟨-, hfree, heq⟩ | ⟨-, -, -, hfree, heq⟩ | ⟨-, -, -, heq⟩ := enter_cases naming f e
  · rw [heq, h]
  · rw [heq, SortedMap.get?_insert_of_ne _ _ (hne _ hfree), h]
  · rw [heq, SortedMap.get?_insert_of_ne _ _ (hne _ hfree), h]
  · rw [heq, h]

/-- Every leaf with a path is either found under a key or counted as dropped. -/
theorem size_add_dropped_enter (naming : KeyNaming) (f : Flattening) (e : Leaf) :
    (f.enter naming e).attributes.size + (f.enter naming e).dropped =
      f.attributes.size + f.dropped + if e.1 = "" then 0 else 1 := by
  obtain ⟨hempty, heq⟩ | ⟨hne, hfree, heq⟩ | ⟨hne, -, -, hfree, heq⟩ | ⟨hne, -, -, heq⟩ := enter_cases naming f e
  · rw [heq, if_pos hempty]
    rfl
  · simp only [heq, if_neg hne, SortedMap.size_insert _ hfree]
    omega
  · simp only [heq, if_neg hne, SortedMap.size_insert _ hfree]
    omega
  · simp only [heq, if_neg hne]
    omega

/-! ### All leaves -/

theorem get?_foldl_enter_of_eq_some (leaves : List Leaf) {k : String} {v : AttributeValue}
    (h : f.attributes.get? k = some v) : (leaves.foldl (enter naming) f).attributes.get? k = some v := by
  induction leaves generalizing f with
  | nil => exact h
  | cons e rest ih => exact ih (get?_enter_of_eq_some h)

theorem size_add_dropped_enterAll (naming : KeyNaming) (leaves : List Leaf) :
    (enterAll naming leaves).attributes.size + (enterAll naming leaves).dropped + leaves.countP (·.1 = "") =
      leaves.length := by
  induction leaves using List.reverseRecOn with
  | nil => rfl
  | append_singleton earlier e ih =>
    have hstep := size_add_dropped_enter naming (enterAll naming earlier) e
    rw [enterAll_concat, List.countP_append, List.countP_singleton, List.length_append, List.length_singleton]
    by_cases he : e.1 = ""
    · simp only [he, if_true, decide_true] at hstep ⊢
      omega
    · simp only [he, if_false, decide_false, Bool.false_eq_true] at hstep ⊢
      omega

/-- Leaves without a path leave no trace. -/
theorem enterAll_filter (naming : KeyNaming) (leaves : List Leaf) :
    enterAll naming (leaves.filter (·.1 ≠ "")) = enterAll naming leaves := by
  induction leaves using List.reverseRecOn with
  | nil => rfl
  | append_singleton earlier e ih =>
    rw [List.filter_append, enterAll_concat, ← ih]
    by_cases he : e.1 = ""
    · have hpass : ∀ g : Flattening, g.enter naming e = g := fun g => by
        simp [enter, emit, KeyPath.named, he, naming.segment_eq_empty_iff.mpr]
      simp [he, hpass]
    · simp [he, enterAll_concat]

/-- **Every scalar is accounted for, but one without a name**: the number of keys and of dropped
values is that of the scalars, less those to which only fields without a name lead. -/
theorem size_add_dropped_ofDocument (naming : KeyNaming) (document : Json) :
    (ofDocument naming document).attributes.size + (ofDocument naming document).dropped + document.namelessCount =
      document.scalarCount := by
  have h := size_add_dropped_enterAll naming document.literalLeaves
  rw [← ofDocument_eq_enterAll, Json.literalLeaves, Json.countP_leavesBelow, Json.length_leavesBelow] at h
  exact h

/-- No scalar is lost unnoticed exactly when some field with a name, or some item, leads to each. -/
theorem size_add_dropped_eq_scalarCount_iff (naming : KeyNaming) (document : Json) :
    (ofDocument naming document).attributes.size + (ofDocument naming document).dropped = document.scalarCount ↔
      document.namelessCount = 0 := by
  have h := size_add_dropped_ofDocument naming document
  omega

/-- A document whose only field has no name loses its scalar, and no count tells of it. -/
theorem exists_scalar_lost : ¬ ∃ reason, ∀ (naming : KeyNaming) (octets : ByteArray) (document : Json),
    Document.ofOctets reason octets = .ok document →
      (ofDocument naming document).attributes.size + (ofDocument naming document).dropped = document.scalarCount := by
  rintro ⟨reason, h⟩
  have hread : Document.ofOctets reason "\x7b\"\":1\x7d".toUTF8 =
      .ok (.object [("", .number (.whole ⟨1, by decide, by decide⟩))]) := by cbv
  exact absurd (h .dotted _ _ hread) (by decide +kernel)

/-! ### Which leaf has which key -/

/-- An earlier leaf has the same dotted name. -/
def Repeated (earlier : List Leaf) (e : Leaf) : Prop := ∃ e' ∈ earlier, dottedName e'.1 = dottedName e.1

instance (earlier : List Leaf) (e : Leaf) : Decidable (Repeated earlier e) :=
  inferInstanceAs (Decidable (∃ e' ∈ earlier, dottedName e'.1 = dottedName e.1))

/-- The leaves that are not the first with their dotted name, when some leaves went before. -/
def repeatsAfter (earlier : List Leaf) : List Leaf → List Leaf
  | [] => []
  | e :: rest =>
    if Repeated earlier e then e :: repeatsAfter (earlier ++ [e]) rest else repeatsAfter (earlier ++ [e]) rest

/-- The leaves that are not the first with their dotted name. -/
def repeats (leaves : List Leaf) : List Leaf := repeatsAfter [] leaves

/-- The leaves under their dotted names. -/
def dottedLeaves (leaves : List Leaf) : List Leaf := leaves.map (fun e => (dottedName e.1, e.2))

theorem repeatsAfter_append (earlier l r : List Leaf) :
    repeatsAfter earlier (l ++ r) = repeatsAfter earlier l ++ repeatsAfter (earlier ++ l) r := by
  induction l generalizing earlier with
  | nil => rw [List.nil_append, List.append_nil, repeatsAfter, List.nil_append]
  | cons e rest ih =>
    rw [List.cons_append, repeatsAfter, repeatsAfter, ih, List.append_assoc, List.singleton_append]
    split <;> rfl

theorem repeats_append (l r : List Leaf) : repeats (l ++ r) = repeats l ++ repeatsAfter l r :=
  repeatsAfter_append [] l r

theorem repeats_concat (leaves : List Leaf) (e : Leaf) :
    repeats (leaves ++ [e]) = repeats leaves ++ if Repeated leaves e then [e] else [] :=
  repeats_append leaves [e]

theorem dottedLeaves_append (l r : List Leaf) : dottedLeaves (l ++ r) = dottedLeaves l ++ dottedLeaves r :=
  List.map_append

/-- A name is found when it is the dotted name of a leaf. -/
theorem lookup_dottedLeaves_eq_none_iff {leaves : List Leaf} {k : String} :
    SortedMap.lookup k (dottedLeaves leaves) = none ↔ ∀ e ∈ leaves, dottedName e.1 ≠ k := by
  rw [SortedMap.lookup_eq_none_iff, dottedLeaves, List.forall_mem_map]

theorem not_repeated_iff {earlier : List Leaf} {e : Leaf} :
    ¬ Repeated earlier e ↔ SortedMap.lookup (dottedName e.1) (dottedLeaves earlier) = none := by
  simp [lookup_dottedLeaves_eq_none_iff, Repeated]

/-- The first leaf with a dotted name is the one that is found. -/
theorem lookup_dottedLeaves_of_not_repeated {earlier later : List Leaf} {e : Leaf} (h : ¬ Repeated earlier e) :
    SortedMap.lookup (dottedName e.1) (dottedLeaves (earlier ++ e :: later)) = some e.2 := by
  rw [dottedLeaves_append, SortedMap.lookup_append, not_repeated_iff.mp h]
  simp [dottedLeaves, SortedMap.lookup]

theorem lookup_repeats_of_repeated {earlier later : List Leaf} {e : Leaf} (h : Repeated earlier e)
    (hfirst : ∀ e' ∈ repeats earlier, e'.1 ≠ e.1) :
    SortedMap.lookup e.1 (repeats (earlier ++ e :: later)) = some e.2 := by
  rw [repeats_append, SortedMap.lookup_append, SortedMap.lookup_eq_none_iff.mpr hfirst, repeatsAfter, if_pos h]
  simp [SortedMap.lookup]

/-- What is found among the leaves that are not first is the first of them with its path. -/
theorem exists_of_lookup_repeats {leaves : List Leaf} {k : String} {v : AttributeValue}
    (h : SortedMap.lookup k (repeats leaves) = some v) :
    ∃ earlier later, leaves = earlier ++ (k, v) :: later ∧ Repeated earlier (k, v) ∧
      ∀ e ∈ repeats earlier, e.1 ≠ k := by
  induction leaves using List.reverseRecOn with
  | nil => simp [repeats, repeatsAfter, SortedMap.lookup] at h
  | append_singleton earlier e ih =>
    rw [repeats_concat, SortedMap.lookup_append, Option.or_eq_some_iff] at h
    obtain hfound | ⟨hnone, hfound⟩ := h
    · obtain ⟨before, after, rfl, hrepeated, hfirst⟩ := ih hfound
      exact ⟨before, after ++ [e], by simp, hrepeated, hfirst⟩
    · obtain ⟨path, w⟩ := e
      split at hfound
      case isFalse => cases hfound
      case isTrue hrepeated =>
        obtain ⟨rfl, rfl⟩ : k = path ∧ w = v := by simpa [SortedMap.lookup] using hfound
        exact ⟨earlier, [], rfl, hrepeated, SortedMap.lookup_eq_none_iff.mp hnone⟩

/-- What a look-up finds after leaves have been entered under dotted naming. -/
def settled (leaves : List Leaf) (k : String) : Option AttributeValue :=
  if hasCapital k then SortedMap.lookup k (repeats leaves) else SortedMap.lookup k (dottedLeaves leaves)

theorem settled_of_capital {leaves : List Leaf} {k : String} (h : hasCapital k = true) :
    settled leaves k = SortedMap.lookup k (repeats leaves) := by
  rw [settled, if_pos h]

theorem settled_dottedName (leaves : List Leaf) (name : String) :
    settled leaves (dottedName name) = SortedMap.lookup (dottedName name) (dottedLeaves leaves) := by
  simp [settled, hasCapital_dottedName]

/-- One more leaf settles its dotted name, unless an earlier leaf has, and else its own path. -/
theorem settled_concat (leaves : List Leaf) (e : Leaf) (k : String) :
    settled (leaves ++ [e]) k = (settled leaves k).or
      (if hasCapital k then if Repeated leaves e ∧ k = e.1 then some e.2 else none
      else if k = dottedName e.1 then some e.2 else none) := by
  obtain ⟨path, v⟩ := e
  simp only [settled, repeats_concat, dottedLeaves_append, SortedMap.lookup_append]
  by_cases hcapital : hasCapital k = true
  · rw [if_pos hcapital, if_pos hcapital, if_pos hcapital]
    by_cases hrepeated : Repeated leaves (path, v) <;> by_cases hk : k = path <;>
      simp [SortedMap.lookup, hrepeated, hk]
  · rw [if_neg hcapital, if_neg hcapital, if_neg hcapital]
    by_cases hk : k = dottedName path <;> simp [dottedLeaves, SortedMap.lookup, hk]

/-- A dotted name is taken exactly when a leaf before has it: no path takes its place. -/
theorem contains_dottedName_iff {leaves : List Leaf} (h : ∀ k, f.attributes.get? k = settled leaves k) :
    f.attributes.contains (dottedName e.1) = true ↔ Repeated leaves e := by
  rw [← Bool.not_eq_false, SortedMap.contains_eq_false_iff, h, settled_dottedName, ← not_repeated_iff, not_not]

/-- Entering one more leaf keeps to what is settled. -/
theorem get?_enter_eq_settled {leaves : List Leaf} (h : ∀ k, f.attributes.get? k = settled leaves k)
    (he : e.1 ≠ "") (k : String) : (f.enter .dotted e).attributes.get? k = settled (leaves ++ [e]) k := by
  have htaken_iff : f.attributes.contains (dottedName e.1) = true ↔ Repeated leaves e := contains_dottedName_iff h
  rw [settled_concat, ← h]
  obtain ⟨hempty, -⟩ | ⟨-, hfree, heq⟩ | ⟨-, htaken, hself, hfree, heq⟩ | ⟨-, htaken, hlost, heq⟩ :=
    enter_cases .dotted f e
  · exact absurd hempty he
  · -- The key is free: no leaf had it before.
    change f.attributes.contains (dottedName e.1) = false at hfree
    change _ = { f with attributes := f.attributes.insert (dottedName e.1) e.2 } at heq
    rw [heq, SortedMap.get?_insert]
    have hfirst : ¬ Repeated leaves e := by
      rw [← htaken_iff, hfree]
      exact Bool.false_ne_true
    by_cases hk : k = dottedName e.1
    · rw [hk, SortedMap.contains_eq_false_iff.mp hfree]
      simp [hasCapital_dottedName]
    · simp [hk, hfirst]
  · -- The key is taken: the leaf goes under its path, which has a capital.
    have hrepeated : Repeated leaves e := htaken_iff.mp htaken
    have hcapital : hasCapital e.1 = true := hasCapital_of_ne_dottedName hself
    obtain ⟨w, hw⟩ := SortedMap.contains_eq_true_iff.mp (htaken_iff.mpr hrepeated)
    rw [heq, SortedMap.get?_insert]
    by_cases hk : k = e.1
    · rw [hk, SortedMap.contains_eq_false_iff.mp hfree]
      simp [hcapital, hrepeated]
    · by_cases hd : k = dottedName e.1
      · rw [hd] at hk ⊢
        simp [hw, hk]
      · simp [hk, hd]
  · -- The leaf is dropped: its path is its key, or is taken as well.
    obtain ⟨w, hw⟩ := SortedMap.contains_eq_true_iff.mp htaken
    change f.attributes.get? (dottedName e.1) = some w at hw
    rw [heq]
    by_cases hd : k = dottedName e.1
    · simp [hd, hw]
    · by_cases hk : k = e.1
      · have hpath : f.attributes.contains e.1 = true := hlost.resolve_left (fun hself => hd (hk.trans hself))
        obtain ⟨w', hw'⟩ := SortedMap.contains_eq_true_iff.mp hpath
        simp [hk, hw']
      · simp [hk, hd]

theorem get?_enterAll {leaves : List Leaf} (h : ∀ e ∈ leaves, e.1 ≠ "") (k : String) :
    (enterAll .dotted leaves).attributes.get? k = settled leaves k := by
  induction leaves using List.reverseRecOn generalizing k with
  | nil => cases hc : hasCapital k <;> rw [settled, hc] <;> rfl
  | append_singleton earlier e ih =>
    rw [enterAll_concat]
    exact get?_enter_eq_settled (ih fun e' he' => h e' (by simp [he'])) (h e (by simp)) k

/-- The keys with a capital are counted as renamed. -/
theorem renamed_enter (h : f.renamed = f.attributes.keys.countP hasCapital) :
    (f.enter .dotted e).renamed = (f.enter .dotted e).attributes.keys.countP hasCapital := by
  obtain ⟨-, heq⟩ | ⟨-, hfree, heq⟩ | ⟨-, -, hself, hfree, heq⟩ | ⟨-, -, -, heq⟩ := enter_cases .dotted f e
  · rw [heq, h]
  · have hkey : hasCapital (KeyNaming.dotted.segment e.1) = false := hasCapital_dottedName e.1
    simp [heq, (SortedMap.perm_keys_insert e.2 hfree).countP_eq, hkey, h]
  · have hcapital : hasCapital e.1 = true := hasCapital_of_ne_dottedName hself
    simp [heq, (SortedMap.perm_keys_insert e.2 hfree).countP_eq, hcapital, h]
  · simp [heq, h]

theorem renamed_enterAll (leaves : List Leaf) :
    (enterAll .dotted leaves).renamed = (enterAll .dotted leaves).attributes.keys.countP hasCapital := by
  induction leaves using List.reverseRecOn with
  | nil => rfl
  | append_singleton earlier e ih =>
    rw [enterAll_concat]
    exact renamed_enter ih

/-! ### The outcome -/

/-- How leaves with a path share the keys under dotted naming. -/
structure Resolved (leaves : List Leaf) (f : Flattening) : Prop where
  /-- The leaves have been entered one after the other. -/
  entered : f = enterAll .dotted leaves
  /-- The first leaf with a dotted name has it as its key. -/
  first : ∀ earlier e later, leaves = earlier ++ e :: later → ¬ Repeated earlier e →
    f.attributes.get? (dottedName e.1) = some e.2
  /-- Any other key has a capital and is the path of a leaf that is not the first with its dotted name,
  and of no such leaf before it. -/
  other : ∀ k v, f.attributes.get? k = some v → (∀ e ∈ leaves, dottedName e.1 ≠ k) → hasCapital k = true ∧
    ∃ earlier later, leaves = earlier ++ (k, v) :: later ∧ Repeated earlier (k, v) ∧
      ∀ e ∈ repeats earlier, e.1 ≠ k
  /-- Such a leaf has its path as its key. -/
  fallback : ∀ earlier e later, leaves = earlier ++ e :: later → Repeated earlier e → hasCapital e.1 = true →
    (∀ e' ∈ repeats earlier, e'.1 ≠ e.1) → f.attributes.get? e.1 = some e.2
  /-- What a key holds at any time it holds at the end. -/
  kept : ∀ earlier later k v, leaves = earlier ++ later → (enterAll .dotted earlier).attributes.get? k = some v →
    f.attributes.get? k = some v
  /-- A leaf that goes under its path takes the dotted name of no leaf, earlier or later. -/
  apart : ∀ earlier e later, leaves = earlier ++ e :: later →
    (enterAll .dotted (earlier ++ [e])).renamed ≠ (enterAll .dotted earlier).renamed →
    (enterAll .dotted (earlier ++ [e])).attributes.get? e.1 = some e.2 ∧ ∀ e' ∈ leaves, dottedName e'.1 ≠ e.1
  /-- As many leaves are counted as renamed as there are keys with a capital. -/
  counted : f.renamed = f.attributes.keys.countP hasCapital

/-- A leaf that is counted as renamed goes under its path, which has a capital. -/
theorem of_renamed_enter_ne (h : (f.enter .dotted e).renamed ≠ f.renamed) :
    (f.enter .dotted e).attributes.get? e.1 = some e.2 ∧ hasCapital e.1 = true := by
  obtain ⟨-, heq⟩ | ⟨-, -, heq⟩ | ⟨-, -, hself, -, heq⟩ | ⟨-, -, -, heq⟩ := enter_cases .dotted f e
  · exact absurd (by rw [heq]) h
  · exact absurd (by rw [heq]) h
  · exact ⟨by rw [heq, SortedMap.get?_insert_self], hasCapital_of_ne_dottedName hself⟩
  · exact absurd (by rw [heq]) h

/-- **Colliding keys**: under dotted naming the leaves of any document that have a path share the keys
as `Resolved` says. -/
theorem ofDocument_resolved (document : Json) :
    Resolved (document.literalLeaves.filter (·.1 ≠ "")) (ofDocument .dotted document) := by
  rw [ofDocument_eq_enterAll, ← enterAll_filter]
  generalize hleaves : document.literalLeaves.filter (·.1 ≠ "") = leaves
  have hpath : ∀ e ∈ leaves, e.1 ≠ "" := by
    intro e he
    rw [← hleaves, List.mem_filter] at he
    simpa using he.2
  have hget := get?_enterAll hpath
  refine ⟨rfl, ?first, ?other, ?fallback, ?kept, ?apart, renamed_enterAll leaves⟩
  case first =>
    rintro earlier e later rfl hfirst
    rw [hget, settled_dottedName, lookup_dottedLeaves_of_not_repeated hfirst]
  case other =>
    intro k v hfound hother
    have hcapital : hasCapital k = true := by
      by_contra hno
      rw [hget, settled, if_neg hno, lookup_dottedLeaves_eq_none_iff.mpr hother] at hfound
      cases hfound
    rw [hget, settled_of_capital hcapital] at hfound
    exact ⟨hcapital, exists_of_lookup_repeats hfound⟩
  case fallback =>
    rintro earlier e later rfl hrepeated hcapital hfirst
    rw [hget, settled_of_capital hcapital, lookup_repeats_of_repeated hrepeated hfirst]
  case kept =>
    rintro earlier later k v rfl hfound
    rw [enterAll, List.foldl_append]
    exact get?_foldl_enter_of_eq_some later hfound
  case apart =>
    rintro earlier e later rfl hrenamed
    rw [enterAll_concat] at hrenamed ⊢
    obtain ⟨hfound, hcapital⟩ := of_renamed_enter_ne hrenamed
    refine ⟨hfound, fun e' _ heq => ?_⟩
    rw [← heq, hasCapital_dottedName] at hcapital
    cases hcapital

end Flattening

end LogTagger
