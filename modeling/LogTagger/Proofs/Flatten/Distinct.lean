import LogTagger.Proofs.Flatten.Collisions

/-!
# Keys that do not collide

Leaves whose keys are all different keep them (`enterAll_of_nodup`): none is renamed, none is dropped, and
the attributes are the leaves under their keys. So it is with dotted names (`ofDocument_of_nodup`).

That keys are different is mostly seen from their first parts. A key lies under another (`Under`) if
the parts of the other are its first parts. Of two keys above the same key one lies under the other
(`Under.comparable`), so what lies under keys that are apart differs (`Apart.ne`); and as an index has no
dot in it, the keys of the items of a list are apart (`apart_toString`).
-/

namespace LogTagger

namespace Flattening

/-! ### Leaves without collisions -/

theorem enterAll_of_nodup (naming : KeyNaming) {leaves : List Leaf} (hpath : ∀ e ∈ leaves, e.1 ≠ "")
    (hnames : (leaves.map fun e => naming.segment e.1).Nodup) :
    (enterAll naming leaves).renamed = 0 ∧ (enterAll naming leaves).dropped = 0 ∧
      (enterAll naming leaves).attributes.entries.Perm (leaves.map fun e => (naming.segment e.1, e.2)) := by
  induction leaves using List.reverseRecOn with
  | nil => exact ⟨rfl, rfl, .refl _⟩
  | append_singleton earlier e ih =>
    rw [List.map_append, List.nodup_append] at hnames
    obtain ⟨hearlier, -, hapart⟩ := hnames
    obtain ⟨hrenamed, hdropped, hentries⟩ := ih (fun e' he' => hpath e' (by simp [he'])) hearlier
    -- No leaf before has the name, so the key is free.
    have hfree : SortedMap.lookup (naming.segment e.1) (enterAll naming earlier).attributes.entries = none := by
      rw [SortedMap.lookup_eq_none_iff]
      intro e' he' heq
      obtain ⟨e'', he'', rfl⟩ := List.mem_map.mp (hentries.mem_iff.mp he')
      exact hapart _ (List.mem_map_of_mem he'') (naming.segment e.1) (by simp) heq
    have hcontains : (enterAll naming earlier).attributes.contains (naming.segment e.1) = false :=
      SortedMap.contains_eq_false_iff.mpr hfree
    rw [enterAll_concat]
    obtain ⟨hempty, -⟩ | ⟨-, -, heq⟩ | ⟨-, htaken, -⟩ | ⟨-, htaken, -⟩ :=
      enter_cases naming (enterAll naming earlier) e
    · exact absurd hempty (hpath e (by simp))
    · rw [heq]
      refine ⟨hrenamed, hdropped, ?_⟩
      rw [List.map_append]
      have hinsert := (SortedMap.perm_insertEntry e.2 hfree).trans (hentries.cons (naming.segment e.1, e.2))
      exact hinsert.trans (List.perm_append_singleton _ _).symm
    · rw [hcontains] at htaken
      cases htaken
    · rw [hcontains] at htaken
      cases htaken

/-- **Leaves whose dotted names are all different keep them.** -/
theorem ofDocument_of_nodup {document : Json} (hpath : ∀ e ∈ document.literalLeaves, e.1 ≠ "")
    (hnames : ((dottedLeaves document.literalLeaves).map Prod.fst).Nodup) :
    (ofDocument .dotted document).renamed = 0 ∧ (ofDocument .dotted document).dropped = 0 ∧
      (ofDocument .dotted document).attributes.entries.Perm (dottedLeaves document.literalLeaves) := by
  rw [dottedLeaves, List.map_map] at hnames
  rw [ofDocument_eq_enterAll]
  exact enterAll_of_nodup .dotted hpath hnames

end Flattening

/-! ### Keys under keys -/

/-- The parts of the key `k` are the first parts of the key `s`. -/
def Under (k s : String) : Prop := (k.toList ++ ['.']) <+: (s.toList ++ ['.'])

instance (k s : String) : Decidable (Under k s) := inferInstanceAs (Decidable (_ <+: _))

namespace Under

variable {k k' s : String}

theorem refl (k : String) : Under k k := List.prefix_refl _

theorem trans (h : Under k k') (h' : Under k' s) : Under k s := List.IsPrefix.trans h h'

/-- Of two keys above the same key one lies under the other. -/
theorem comparable (h : Under k s) (h' : Under k' s) : Under k k' ∨ Under k' k :=
  List.prefix_or_prefix_of_prefix h h'

theorem append_left_iff (p : String) : Under (p ++ k) (p ++ k') ↔ Under k k' := by
  simp [Under, List.append_assoc, List.prefix_append_right_inj]

/-- A key with more parts. -/
theorem append (k : String) (h : Under "" s) : Under k (k ++ s) := by
  have happend := (append_left_iff k).mpr h
  rwa [String.append_empty] at happend

theorem append_dot (k s : String) : Under k (k ++ "." ++ s) := by
  simp [Under, List.append_assoc, List.prefix_append_right_inj]

/-- Under a name without a dot in it lies no other that is none of its first parts. -/
theorem eq_of_not_mem (h : Under k s) (hs : '.' ∉ s.toList) : k = s := by
  obtain ⟨t, ht⟩ := h
  rcases List.eq_nil_or_concat t with rfl | ⟨before, last, rfl⟩
  · rw [List.append_nil] at ht
    exact String.toList_inj.mp (List.append_cancel_right ht)
  · rw [List.concat_eq_append, ← List.append_assoc] at ht
    obtain ⟨hs', -⟩ := List.append_inj' ht rfl
    exact absurd (by simp [← hs']) hs

end Under

/-- Neither key lies under the other. -/
def Apart (k k' : String) : Prop := ¬ Under k k' ∧ ¬ Under k' k

instance (k k' : String) : Decidable (Apart k k') := inferInstanceAs (Decidable (_ ∧ _))

theorem Apart.append_left {k k' : String} (h : Apart k k') (p : String) : Apart (p ++ k) (p ++ k') :=
  ⟨mt (Under.append_left_iff p).mp h.1, mt (Under.append_left_iff p).mp h.2⟩

theorem Apart.ne {k k' s s' : String} (h : Apart k k') (hs : Under k s) (hs' : Under k' s') : s ≠ s' := by
  rintro rfl
  rcases hs.comparable hs' with hu | hu
  · exact h.1 hu
  · exact h.2 hu

theorem not_mem_dot_toString (index : Nat) : '.' ∉ (toString index).toList := by
  intro hmem
  have hmem : '.' ∈ Nat.toDigits 10 index := by simpa using hmem
  have hdigit : '.'.isDigit = true := Nat.isDigit_of_mem_toDigits (by decide) (by decide) hmem
  exact absurd hdigit (by decide)

theorem apart_toString {i j : Nat} (h : i ≠ j) : Apart (toString i) (toString j) := by
  have hne : ∀ {i j : Nat}, i ≠ j → ¬ Under (toString i) (toString j) := fun hij hunder =>
    hij (Nat.repr_inj.mp (hunder.eq_of_not_mem (not_mem_dot_toString _)))
  exact ⟨hne h, hne h.symm⟩

end LogTagger
