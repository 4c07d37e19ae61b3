import LogTagger.SortedMap

/-!
# Look-ups in sorted maps

What the operations of a map do to the names it binds, and look-ups in lists of entries that need
not be sorted: the first entry with a name counts.
-/

namespace LogTagger.SortedMap

variable {α : Type}

/-! ### Lists of entries -/

theorem lookup_append (k : String) (l r : List (String × α)) : lookup k (l ++ r) = (lookup k l).or (lookup k r) := by
  induction l with
  | nil => rfl
  | cons hd tl ih =>
    obtain ⟨k', v⟩ := hd
    by_cases h : k = k'
    · simp [lookup, h]
    · simp [lookup, h, ih]

/-- Only a name that stands in the list is found. -/
theorem lookup_eq_none_iff {k : String} {l : List (String × α)} : lookup k l = none ↔ ∀ e ∈ l, e.1 ≠ k := by
  induction l with
  | nil => simp [lookup]
  | cons hd tl ih =>
    obtain ⟨k', v⟩ := hd
    rw [lookup, List.forall_mem_cons, ← ih]
    by_cases h : k = k'
    · simp [h]
    · simp [h, Ne.symm h]

theorem lookup_eq_none_of_not_mem {k : String} {l : List (String × α)} (h : k ∉ l.map Prod.fst) : lookup k l = none :=
  lookup_eq_none_iff.mpr fun _ he heq => h (heq ▸ List.mem_map_of_mem he)

theorem mem_of_lookup_eq_some {k : String} {v : α} {l : List (String × α)} (h : lookup k l = some v) : (k, v) ∈ l := by
  induction l with
  | nil => cases h
  | cons hd tl ih =>
    obtain ⟨k', v'⟩ := hd
    rw [lookup] at h
    split at h
    case isTrue hk =>
      obtain rfl := Option.some.inj h
      rw [hk]
      exact List.mem_cons_self
    case isFalse => exact List.mem_cons_of_mem _ (ih h)

/-- What is found is the first entry with the name. -/
theorem lookup_eq_some_iff_first {k : String} {v : α} {l : List (String × α)} :
    lookup k l = some v ↔ ∃ earlier later, l = earlier ++ (k, v) :: later ∧ ∀ e ∈ earlier, e.1 ≠ k := by
  constructor
  · intro h
    induction l with
    | nil => cases h
    | cons hd tl ih =>
      obtain ⟨k', v'⟩ := hd
      rw [lookup] at h
      split at h
      case isTrue hk =>
        obtain rfl := Option.some.inj h
        exact ⟨[], tl, by rw [hk, List.nil_append], fun e he => by cases he⟩
      case isFalse hk =>
        obtain ⟨earlier, later, rfl, hfirst⟩ := ih h
        exact ⟨(k', v') :: earlier, later, rfl, List.forall_mem_cons.mpr ⟨Ne.symm hk, hfirst⟩⟩
  · rintro ⟨earlier, later, rfl, hfirst⟩
    rw [lookup_append, lookup_eq_none_iff.mpr hfirst, Option.none_or, lookup, if_pos rfl]

theorem perm_insertEntry {k : String} {l : List (String × α)} (v : α) (h : lookup k l = none) :
    (insertEntry k v l).Perm ((k, v) :: l) := by
  induction l with
  | nil => exact .refl _
  | cons hd tl ih =>
    obtain ⟨k', v'⟩ := hd
    by_cases hk : k = k'
    · simp [lookup, hk] at h
    · rw [lookup, if_neg hk] at h
      rw [insertEntry, if_neg hk]
      split
      · exact .refl _
      · exact ((ih h).cons _).trans (.swap _ _ _)

/-- An entry behind all others is put at the end. -/
theorem insertEntry_concat {k : String} (v : α) {l : List (String × α)} (h : ∀ e ∈ l, e.1 < k) :
    insertEntry k v l = l ++ [(k, v)] := by
  induction l with
  | nil => rfl
  | cons e rest ih =>
    have hlt : e.1 < k := h e List.mem_cons_self
    have hne : k ≠ e.1 := fun heq => String.lt_irrefl k (heq ▸ hlt)
    rw [insertEntry, if_neg (String.lt_asymm hlt), if_neg hne, ih fun e' he' => h e' (List.mem_cons_of_mem _ he')]
    rfl

/-! ### Maps of lists -/

/-- Only what stands in a list is bound by its map. -/
theorem mem_of_mem_ofList {e : String × α} {l : List (String × α)} (h : e ∈ (ofList l).entries) : e ∈ l := by
  have hfold : ∀ (l : List (String × α)) (m : SortedMap α),
      e ∈ (l.foldl (fun m e => m.insert e.1 e.2) m).entries → e ∈ m.entries ∨ e ∈ l := by
    intro l
    induction l with
    | nil => exact fun m he => .inl he
    | cons e' rest ih =>
      intro m he
      rcases ih _ he with he | he
      · rcases mem_insertEntry he with rfl | he
        · exact .inr List.mem_cons_self
        · exact .inl he
      · exact .inr (List.mem_cons_of_mem _ he)
  exact (hfold l empty h).resolve_left List.not_mem_nil

/-- The map of a list that has no name twice binds what the list holds. -/
theorem perm_ofList {l : List (String × α)} (h : (l.map Prod.fst).Nodup) :
    (ofList l).entries.Perm l := by
  have hfold : ∀ (l : List (String × α)) (m : SortedMap α), (m.entries.map Prod.fst ++ l.map Prod.fst).Nodup →
      (l.foldl (fun m e => m.insert e.1 e.2) m).entries.Perm (m.entries ++ l) := by
    intro l
    induction l with
    | nil => exact fun m _ => by rw [List.append_nil]; exact .refl _
    | cons e rest ih =>
      intro m hnames
      have hnew : lookup e.1 m.entries = none := by
        rw [lookup_eq_none_iff]
        intro e' he' heq
        have hapart := (List.nodup_append.mp hnames).2.2
        exact hapart e'.1 (List.mem_map_of_mem he') e.1 (by simp) heq
      have hinsert : (m.insert e.1 e.2).entries.Perm (e :: m.entries) := perm_insertEntry e.2 hnew
      have hmoved : (e :: m.entries ++ rest).Perm (m.entries ++ e :: rest) := List.perm_middle.symm
      have hnames' : ((m.insert e.1 e.2).entries.map Prod.fst ++ rest.map Prod.fst).Nodup := by
        rw [← List.map_append] at hnames ⊢
        exact (((hinsert.append_right rest).trans hmoved).map Prod.fst).nodup_iff.mpr hnames
      rw [List.foldl_cons]
      exact (ih _ hnames').trans ((hinsert.append_right rest).trans hmoved)
  exact hfold l empty (by simpa [empty] using h)

/-- Names that ascend are distinct. -/
theorem nodup_of_pairwise {l : List (String × α)} (h : l.Pairwise KeyBefore) : (l.map Prod.fst).Nodup := by
  refine List.pairwise_map.mpr (h.imp fun {a b} hlt heq => ?_)
  rw [KeyBefore, heq] at hlt
  exact String.lt_irrefl _ hlt

/-- The same entries are in one order if their names ascend. -/
theorem eq_of_perm {l r : List (String × α)} (hl : l.Pairwise KeyBefore) (hr : r.Pairwise KeyBefore) (h : l.Perm r) :
    l = r :=
  h.eq_of_pairwise (fun _ _ _ _ hab hba => absurd hba (String.lt_asymm hab)) hl hr

/-- The map of the entries of a map is that map. -/
theorem ofList_entries (m : SortedMap α) : ofList m.entries = m :=
  ext_entries (eq_of_perm (ofList m.entries).sorted m.sorted (perm_ofList (nodup_of_pairwise m.sorted)))

/-! ### Names that are bound -/

theorem contains_eq_true_iff {m : SortedMap α} {k : String} : m.contains k = true ↔ ∃ v, m.get? k = some v :=
  Option.isSome_iff_exists

theorem contains_eq_false_iff {m : SortedMap α} {k : String} : m.contains k = false ↔ m.get? k = none := by
  simp [contains]

@[simp] theorem contains_empty (k : String) : (∅ : SortedMap α).contains k = false := rfl

theorem contains_insert_iff {m : SortedMap α} {k k' : String} {v : α} :
    (m.insert k v).contains k' = true ↔ k' = k ∨ m.contains k' = true := by
  rw [contains, get?_insert]
  by_cases h : k' = k
  · simp [h]
  · simp [h, contains]

theorem mem_keys_iff {m : SortedMap α} {k : String} : k ∈ m.keys ↔ m.contains k = true := by
  rw [contains_eq_true_iff, keys, List.mem_map]
  constructor
  · rintro ⟨⟨k, v⟩, hmem, rfl⟩
    exact ⟨v, get?_eq_some_iff.mpr hmem⟩
  · rintro ⟨v, hv⟩
    exact ⟨(k, v), get?_eq_some_iff.mp hv, rfl⟩

/-- The names ascend, so none occurs twice. -/
theorem pairwise_keys (m : SortedMap α) : m.keys.Pairwise (· < ·) :=
  List.pairwise_map.mpr m.sorted

/-- A new name is one more. -/
theorem perm_keys_insert {m : SortedMap α} {k : String} (v : α) (h : m.contains k = false) :
    (m.insert k v).keys.Perm (k :: m.keys) :=
  (perm_insertEntry v (contains_eq_false_iff.mp h)).map Prod.fst

theorem size_insert {m : SortedMap α} {k : String} (v : α) (h : m.contains k = false) :
    (m.insert k v).size = m.size + 1 :=
  (perm_insertEntry v (contains_eq_false_iff.mp h)).length_eq

end LogTagger.SortedMap
