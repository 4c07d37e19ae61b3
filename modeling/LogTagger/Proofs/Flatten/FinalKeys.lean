import LogTagger.Proofs.Flatten.Collisions
import LogTagger.Proofs.Flatten.Outline

/-!
# The key that each leaf ends up under

Which key a leaf gets depends on the keys that the leaves before it got: its key in the naming if that is
free, else its path if that is free, and else none (`Flattening.keyFor`). So the keys follow from the paths
alone, in visiting order (`Flattening.keysFrom`), and no value has a part in them.

`perm_ofDocument`: the attributes of a flattened document are its leaves under these keys. And two lists of
leaves with the same paths lead to the same keys and the same counts (`Alike.enterAll`), whatever the values.
-/

namespace LogTagger

namespace Flattening

/-! ### Keys from paths -/

/-- The key of a path when some keys are taken. -/
def keyFor (naming : KeyNaming) (taken : List String) (path : String) : Option String :=
  if path = "" then none
  else if naming.segment path ∉ taken then some (naming.segment path)
  else if path ∉ taken then some path
  else none

/-- The keys of paths in visiting order when some keys are taken. -/
def keysFrom (naming : KeyNaming) : List String → List String → List (Option String)
  | _, [] => []
  | taken, path :: rest =>
    keyFor naming taken path :: keysFrom naming (taken ++ (keyFor naming taken path).toList) rest

/-- The entries of values with their keys; a value without a key has none. -/
def keep (keys : List (Option String)) (values : List AttributeValue) : List (String × AttributeValue) :=
  (keys.zip values).filterMap fun e => e.1.map (·, e.2)

theorem keep_cons (key : Option String) (keys : List (Option String)) (v : AttributeValue)
    (values : List AttributeValue) :
    keep (key :: keys) (v :: values) = (key.map (·, v)).toList ++ keep keys values := by
  cases key <;> rfl

/-! ### Entering -/

variable {naming : KeyNaming} {f g : Flattening}

/-- Entering a leaf adds its entry, if it gets a key. -/
theorem perm_enter (naming : KeyNaming) {entries : List Leaf} (h : f.attributes.entries.Perm entries) (e : Leaf) :
    (f.enter naming e).attributes.entries.Perm
      (entries ++ ((keyFor naming (entries.map Prod.fst) e.1).map (·, e.2)).toList) := by
  have htaken : ∀ k, f.attributes.contains k = true ↔ k ∈ entries.map Prod.fst := fun k => by
    rw [← SortedMap.mem_keys_iff]
    exact (h.map Prod.fst).mem_iff
  have hfree : ∀ k, f.attributes.contains k = false ↔ k ∉ entries.map Prod.fst := fun k => by
    rw [← htaken, Bool.not_eq_true]
  have hinsert : ∀ k, f.attributes.contains k = false →
      (f.attributes.insert k e.2).entries.Perm (entries ++ [(k, e.2)]) := fun k hk =>
    (SortedMap.perm_insertEntry e.2 (SortedMap.contains_eq_false_iff.mp hk)).trans
      ((h.cons _).trans (List.perm_append_singleton _ _).symm)
  obtain ⟨hempty, heq⟩ | ⟨hpath, hkey, heq⟩ | ⟨hpath, hkey, -, hliteral, heq⟩ | ⟨hpath, hkey, hliteral, heq⟩ :=
    enter_cases naming f e
  · rw [heq, keyFor, if_pos hempty]
    simpa using h
  · rw [heq, keyFor, if_neg hpath, if_pos ((hfree _).mp hkey)]
    exact hinsert _ hkey
  · rw [heq, keyFor, if_neg hpath, if_neg (not_not.mpr ((htaken _).mp hkey)), if_pos ((hfree _).mp hliteral)]
    exact hinsert _ hliteral
  · have hmem : e.1 ∈ entries.map Prod.fst := by
      rcases hliteral with hself | hliteral
      · rw [hself]
        exact (htaken _).mp hkey
      · exact (htaken _).mp hliteral
    rw [heq, keyFor, if_neg hpath, if_neg (not_not.mpr ((htaken _).mp hkey)), if_neg (not_not.mpr hmem)]
    simpa using h

theorem perm_foldl_enter (naming : KeyNaming) (leaves : List Leaf) {entries : List Leaf}
    (h : f.attributes.entries.Perm entries) :
    (leaves.foldl (enter naming) f).attributes.entries.Perm
      (entries ++ keep (keysFrom naming (entries.map Prod.fst) (leaves.map Prod.fst)) (leaves.map Prod.snd)) := by
  induction leaves generalizing f entries with
  | nil => simpa [keysFrom, keep] using h
  | cons e rest ih =>
    have hkeys : (entries ++ ((keyFor naming (entries.map Prod.fst) e.1).map (·, e.2)).toList).map Prod.fst =
        entries.map Prod.fst ++ (keyFor naming (entries.map Prod.fst) e.1).toList := by
      rw [List.map_append]
      cases keyFor naming (entries.map Prod.fst) e.1 <;> rfl
    have hrest := ih (perm_enter naming h e)
    rw [hkeys, List.append_assoc] at hrest
    rw [List.foldl_cons, List.map_cons, List.map_cons, keysFrom, keep_cons]
    exact hrest

/-- The keys of a document's leaves, in visiting order. -/
def finalKeys (naming : KeyNaming) (document : Json) : List (Option String) :=
  keysFrom naming [] (document.routes.map (Json.Route.path ""))

/-- **The attributes are the leaves under their final keys.** -/
theorem perm_ofDocument (naming : KeyNaming) (document : Json) :
    (ofDocument naming document).attributes.entries.Perm (keep (finalKeys naming document) document.leafValues) := by
  have hperm := perm_foldl_enter naming (f := {}) document.literalLeaves (.refl _)
  rw [Json.map_fst_literalLeaves, Json.map_snd_literalLeaves] at hperm
  rw [ofDocument_eq_enterAll]
  exact hperm

/-! ### The same paths with other values -/

/-- The same keys are taken, and as many values were renamed and dropped. -/
structure Alike (f g : Flattening) : Prop where
  contains : ∀ k, f.attributes.contains k = g.attributes.contains k
  renamed : f.renamed = g.renamed
  dropped : f.dropped = g.dropped

theorem Alike.refl (f : Flattening) : Alike f f := ⟨fun _ => rfl, rfl, rfl⟩

theorem contains_insert_congr {m n : Attributes} (h : ∀ k, m.contains k = n.contains k) (key : String)
    (v w : AttributeValue) (k : String) : (m.insert key v).contains k = (n.insert key w).contains k := by
  rw [Bool.eq_iff_iff, SortedMap.contains_insert_iff, SortedMap.contains_insert_iff, h]

/-- What a leaf does but for its value depends on its path. -/
theorem Alike.emit (h : Alike f g) (p : KeyPath) (v w : AttributeValue) : Alike (f.emit p v) (g.emit p w) := by
  rw [Flattening.emit, Flattening.emit, h.contains, h.contains]
  split
  · exact h
  · split
    · exact ⟨contains_insert_congr h.contains _ v w, h.renamed, h.dropped⟩
    · split
      · exact ⟨contains_insert_congr h.contains _ v w, congrArg (· + 1) h.renamed, h.dropped⟩
      · exact ⟨h.contains, h.renamed, congrArg (· + 1) h.dropped⟩

theorem Alike.foldl_enter {l r : List Leaf} (hpaths : l.map Prod.fst = r.map Prod.fst) (h : Alike f g) :
    Alike (l.foldl (enter naming) f) (r.foldl (enter naming) g) := by
  induction l generalizing r f g with
  | nil =>
    rw [List.map_eq_nil_iff.mp hpaths.symm]
    exact h
  | cons e rest ih =>
    obtain ⟨e', rest', rfl, hpath, hrest⟩ := List.map_eq_cons_iff.mp hpaths.symm
    have henter : Alike (f.enter naming e) (g.enter naming e') := by
      rw [enter, enter, hpath]
      exact h.emit _ _ _
    rw [List.foldl_cons, List.foldl_cons]
    exact ih hrest.symm henter

/-- Documents with their leaves in the same places are flattened alike. -/
theorem Alike.ofDocument (naming : KeyNaming) {v w : Json} (h : v.routes = w.routes) :
    Alike (ofDocument naming v) (ofDocument naming w) := by
  rw [ofDocument_eq_enterAll, ofDocument_eq_enterAll]
  refine Alike.foldl_enter ?_ (.refl _)
  rw [Json.map_fst_literalLeaves, Json.map_fst_literalLeaves, h]

end Flattening

end LogTagger
