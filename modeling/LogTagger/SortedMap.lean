/-!
# Sorted maps

A map from names to values as the list of its entries in strictly ascending order of the names.
Strings are ordered by their code points, which is the order of their UTF-8 octets, so the entries
stand in the order in which a map is written. There is exactly one list for each map: two maps with
the same look-ups are equal (`ext_get?`).
-/

namespace LogTagger

/-- Strictly ascending order of the names of two entries. -/
def KeyBefore {α : Type} (a b : String × α) : Prop := a.1 < b.1

/-- A map from names to values, held as its entries in ascending order of the names. -/
structure SortedMap (α : Type) where
  /-- The entries, by ascending name. -/
  entries : List (String × α)
  /-- No name occurs twice and the names ascend. -/
  sorted : entries.Pairwise KeyBefore

namespace SortedMap

variable {α β : Type}

/-- Two maps are equal when their entries are. -/
theorem ext_entries {m n : SortedMap α} (h : m.entries = n.entries) : m = n := by
  cases m; cases n; simp_all

instance [DecidableEq α] : DecidableEq (SortedMap α) := fun m n =>
  if h : m.entries = n.entries then isTrue (ext_entries h)
  else isFalse (fun e => h (congrArg entries e))

/-- The map without entries. -/
def empty : SortedMap α := ⟨[], .nil⟩

instance : EmptyCollection (SortedMap α) := ⟨empty⟩

instance : Inhabited (SortedMap α) := ⟨empty⟩

/-! ### Operations on the entries -/

/-- The value of the first entry with the given name. -/
def lookup (k : String) : List (String × α) → Option α
  | [] => none
  | (k', v) :: rest => if k = k' then some v else lookup k rest

/-- The entries with `k` bound to `v`: in front of the first larger name, or in place of `k`. -/
def insertEntry (k : String) (v : α) : List (String × α) → List (String × α)
  | [] => [(k, v)]
  | (k', v') :: rest =>
    if k < k' then (k, v) :: (k', v') :: rest
    else if k = k' then (k, v) :: rest
    else (k', v') :: insertEntry k v rest

theorem mem_insertEntry {k : String} {v : α} {e : String × α} {l : List (String × α)}
    (h : e ∈ insertEntry k v l) : e = (k, v) ∨ e ∈ l := by
  induction l with
  | nil => simpa [insertEntry] using h
  | cons hd tl ih =>
    obtain ⟨k', v'⟩ := hd
    rw [insertEntry] at h
    split at h
    · simpa using h
    · split at h
      · simp only [List.mem_cons] at h ⊢
        rcases h with h | h
        · exact .inl h
        · exact .inr (.inr h)
      · simp only [List.mem_cons] at h ⊢
        rcases h with h | h
        · exact .inr (.inl h)
        · exact (ih h).imp id .inr

theorem pairwise_insertEntry (k : String) (v : α) {l : List (String × α)} (h : l.Pairwise KeyBefore) :
    (insertEntry k v l).Pairwise KeyBefore := by
  induction l with
  | nil => simp [insertEntry]
  | cons hd tl ih =>
    obtain ⟨k', v'⟩ := hd
    rw [List.pairwise_cons] at h
    rw [insertEntry]
    split
    case isTrue hlt =>
      refine List.pairwise_cons.mpr ⟨?_, List.pairwise_cons.mpr h⟩
      intro e he
      rcases List.mem_cons.mp he with rfl | he
      · exact hlt
      · exact String.lt_trans hlt (h.1 e he)
    case isFalse hge =>
      split
      case isTrue heq =>
        subst heq
        exact List.pairwise_cons.mpr ⟨h.1, h.2⟩
      case isFalse hne =>
        refine List.pairwise_cons.mpr ⟨?_, ih h.2⟩
        intro e he
        rcases mem_insertEntry he with rfl | he
        · have hle : k' ≤ k := String.not_lt.mp hge
          by_cases hlt : k' < k
          · exact hlt
          · exact absurd (String.le_antisymm (String.not_lt.mp hlt) hle) hne
        · exact h.1 e he

/-! ### The interface -/

/-- The value bound to a name. -/
def get? (m : SortedMap α) (k : String) : Option α := lookup k m.entries

/-- Whether a name is bound. -/
def contains (m : SortedMap α) (k : String) : Bool := (m.get? k).isSome

/-- The map with `k` bound to `v`, whatever it was bound to before. -/
def insert (m : SortedMap α) (k : String) (v : α) : SortedMap α :=
  ⟨insertEntry k v m.entries, pairwise_insertEntry k v m.sorted⟩

/-- The entries that satisfy a condition. -/
def filter (p : String → α → Bool) (m : SortedMap α) : SortedMap α :=
  ⟨m.entries.filter (fun e => p e.1 e.2), m.sorted.sublist List.filter_sublist⟩

/-- The same names with each value replaced. -/
def mapValues (f : α → β) (m : SortedMap α) : SortedMap β :=
  ⟨m.entries.map (fun e : String × α => (e.1, f e.2)), by
    rw [List.pairwise_map]; exact m.sorted.imp (fun h => h)⟩

/-- The map that binds the names of a list; of two entries with one name the later wins. -/
def ofList (l : List (String × α)) : SortedMap α := l.foldl (fun m e => m.insert e.1 e.2) empty

/-- The names, ascending. -/
def keys (m : SortedMap α) : List String := m.entries.map (·.1)

/-- The number of entries. -/
def size (m : SortedMap α) : Nat := m.entries.length

/-- Whether there is no entry. -/
def isEmpty (m : SortedMap α) : Bool := m.entries.isEmpty

/-! ### Look-up laws -/

theorem lookup_insertEntry (k k' : String) (v : α) (l : List (String × α)) :
    lookup k' (insertEntry k v l) = if k' = k then some v else lookup k' l := by
  induction l with
  | nil => simp [insertEntry, lookup]
  | cons hd tl ih =>
    obtain ⟨k₀, v₀⟩ := hd
    rw [insertEntry]
    split
    · simp [lookup]
    · split
      · simp only [lookup]; split <;> simp_all
      · simp only [lookup, ih]; split <;> grind

@[simp] theorem get?_empty (k : String) : (empty : SortedMap α).get? k = none := rfl

theorem get?_insert (m : SortedMap α) (k k' : String) (v : α) :
    (m.insert k v).get? k' = if k' = k then some v else m.get? k' :=
  lookup_insertEntry k k' v m.entries

@[simp] theorem get?_insert_self (m : SortedMap α) (k : String) (v : α) : (m.insert k v).get? k = some v := by
  simp [get?_insert]

theorem get?_insert_of_ne (m : SortedMap α) {k k' : String} (v : α) (h : k' ≠ k) :
    (m.insert k v).get? k' = m.get? k' := by
  simp [get?_insert, h]

theorem lookup_eq_none_of_forall_lt {k : String} {l : List (String × α)} (h : ∀ e ∈ l, k < e.1) :
    lookup k l = none := by
  induction l with
  | nil => rfl
  | cons hd tl ih =>
    have hk : k ≠ hd.1 := fun e => String.lt_irrefl k (e ▸ h hd (by simp))
    simp [lookup, hk, ih (fun e he => h e (by simp [he]))]

theorem lookup_eq_some_iff {k : String} {v : α} {l : List (String × α)} (h : l.Pairwise KeyBefore) :
    lookup k l = some v ↔ (k, v) ∈ l := by
  induction l with
  | nil => simp [lookup]
  | cons hd tl ih =>
    obtain ⟨k', v'⟩ := hd
    rw [List.pairwise_cons] at h
    by_cases hk : k = k'
    · subst hk
      constructor
      · intro e
        have : v' = v := by simpa [lookup] using e
        simp [this]
      · intro e
        rcases List.mem_cons.mp e with e | e
        · have : v = v' := (Prod.mk.inj e).2
          simp [lookup, this]
        · exact absurd (h.1 _ e) (String.lt_irrefl k)
    · simp [lookup, hk, ih h.2]

theorem get?_eq_some_iff {m : SortedMap α} {k : String} {v : α} : m.get? k = some v ↔ (k, v) ∈ m.entries :=
  lookup_eq_some_iff m.sorted

private theorem entries_eq_of_lookup {l r : List (String × α)} (hl : l.Pairwise KeyBefore)
    (hr : r.Pairwise KeyBefore) (h : ∀ k, lookup k l = lookup k r) : l = r := by
  induction l generalizing r with
  | nil =>
    cases r with
    | nil => rfl
    | cons b r => have := h b.1; simp [lookup] at this
  | cons a l ih =>
    cases r with
    | nil => have := h a.1; simp [lookup] at this
    | cons b r =>
      rw [List.pairwise_cons] at hl hr
      have hab : a.1 = b.1 := by
        by_cases hlt : a.1 < b.1
        · have h1 : lookup a.1 (b :: r) = none := by
            apply lookup_eq_none_of_forall_lt
            intro e he
            rcases List.mem_cons.mp he with rfl | he
            · exact hlt
            · exact String.lt_trans hlt (hr.1 e he)
          have := h a.1
          rw [h1] at this
          simp [lookup] at this
        · by_cases hgt : b.1 < a.1
          · have h1 : lookup b.1 (a :: l) = none := by
              apply lookup_eq_none_of_forall_lt
              intro e he
              rcases List.mem_cons.mp he with rfl | he
              · exact hgt
              · exact String.lt_trans hgt (hl.1 e he)
            have := h b.1
            rw [h1] at this
            simp [lookup] at this
          · exact String.le_antisymm (String.not_lt.mp hgt) (String.not_lt.mp hlt)
      obtain ⟨ka, va⟩ := a
      obtain ⟨kb, vb⟩ := b
      simp only at hab
      subst hab
      have hv : va = vb := by have := h ka; simpa [lookup] using this
      subst hv
      congr 1
      refine ih hl.2 hr.2 (fun k => ?_)
      by_cases hk : k = ka
      · subst hk
        rw [lookup_eq_none_of_forall_lt hl.1, lookup_eq_none_of_forall_lt hr.1]
      · have := h k
        simpa [lookup, hk] using this

/-- Maps with the same look-ups are equal. -/
theorem ext_get? {m n : SortedMap α} (h : ∀ k, m.get? k = n.get? k) : m = n :=
  ext_entries (entries_eq_of_lookup m.sorted n.sorted h)

theorem get?_filter (p : String → α → Bool) (m : SortedMap α) (k : String) :
    (m.filter p).get? k = (m.get? k).filter (p k) := by
  rcases h : m.get? k with _ | v
  · rcases h' : (m.filter p).get? k with _ | v'
    · rfl
    · have hm := get?_eq_some_iff.mp h'
      have : (k, v') ∈ m.entries := (List.mem_filter.mp hm).1
      rw [get?_eq_some_iff.mpr this] at h
      cases h
  · by_cases hp : p k v = true
    · have : (k, v) ∈ (m.filter p).entries := List.mem_filter.mpr ⟨get?_eq_some_iff.mp h, hp⟩
      rw [get?_eq_some_iff.mpr this]
      simp [Option.filter, hp]
    · rcases h' : (m.filter p).get? k with _ | v'
      · simp [Option.filter, hp]
      · have hm := List.mem_filter.mp (get?_eq_some_iff.mp h')
        have hv := get?_eq_some_iff.mpr hm.1
        rw [h] at hv
        cases hv
        exact absurd hm.2 hp

end SortedMap

end LogTagger
