import LogTagger.Proofs.Flatten.Naming

/-!
# Flattening is entering the leaves

The leaves of a document are its scalars other than null, in visiting order: the items of an array by
index, the fields of an object as they are listed, which is by ascending name in a document that was
read. Each stands under the path that leads to it in the fields' own names (`Json.literalLeaves`).

`ofDocument_eq_enterAll`: flattening a document enters its leaves one after the other, each under the
key that is its path in the chosen naming. So what is to be said of the walk through a document can be
said of a list, and proved by induction on that list.
-/

namespace LogTagger

/-! ### Keys and paths -/

namespace KeyNaming

theorem segment_join (naming : KeyNaming) (path segment : String) :
    naming.segment (KeyPath.join path segment) = KeyPath.join (naming.segment path) (naming.segment segment) := by
  cases naming with
  | dotted => exact dottedName_join path segment
  | literal => rfl

theorem segment_toString (naming : KeyNaming) (index : Nat) : naming.segment (toString index) = toString index := by
  cases naming with
  | dotted => exact dottedName_toString index
  | literal => rfl

theorem segment_eq_empty_iff (naming : KeyNaming) {name : String} : naming.segment name = "" ↔ name = "" := by
  cases naming with
  | dotted => exact dottedName_eq_empty_iff
  | literal => rfl

end KeyNaming

namespace KeyPath

/-- The path with its key in a naming. -/
def named (naming : KeyNaming) (literal : String) : KeyPath := ⟨naming.segment literal, literal⟩

theorem field_named (naming : KeyNaming) (literal name : String) :
    (named naming literal).field naming name = named naming (join literal name) := by
  simp only [named, field, naming.segment_join]

theorem item_named (naming : KeyNaming) (literal : String) (index : Nat) :
    (named naming literal).item index = named naming (join literal (toString index)) := by
  simp only [named, item, naming.segment_join, naming.segment_toString]

theorem named_empty (naming : KeyNaming) : named naming "" = {} := by
  cases naming <;> rfl

end KeyPath

/-! ### Leaves -/

/-- A scalar with the path that leads to it in the fields' own names. -/
abbrev Leaf := String × AttributeValue

/-- The path of a leaf with its key in a naming, and its value. -/
def Leaf.named (naming : KeyNaming) (e : Leaf) : KeyPath × AttributeValue := (KeyPath.named naming e.1, e.2)

namespace Json

mutual

/-- The leaves of a value that is reached by a path. -/
def leavesBelow (path : String) : Json → List Leaf
  | .null => []
  | .bool b => [(path, .bool b)]
  | .number n => [(path, .ofNumber n)]
  | .string s => [(path, .string s)]
  | .array items => itemLeavesBelow path 0 items
  | .object fields => fieldLeavesBelow path fields

/-- The leaves of items from `index` on. -/
def itemLeavesBelow (path : String) (index : Nat) : List Json → List Leaf
  | [] => []
  | v :: rest => v.leavesBelow (KeyPath.join path (toString index)) ++ itemLeavesBelow path (index + 1) rest

/-- The leaves of fields. -/
def fieldLeavesBelow (path : String) : List (String × Json) → List Leaf
  | [] => []
  | (name, v) :: rest => v.leavesBelow (KeyPath.join path name) ++ fieldLeavesBelow path rest

end

/-- The leaves of a document. -/
def literalLeaves (document : Json) : List Leaf := document.leavesBelow ""

mutual

/-- Under any naming a value has the same leaves, with keys in that naming. -/
theorem leaves_named (naming : KeyNaming) (path : String) : ∀ v : Json,
    v.leaves naming (.named naming path) = (v.leavesBelow path).map (Leaf.named naming)
  | .null => rfl
  | .bool _ => rfl
  | .number _ => rfl
  | .string _ => rfl
  | .array items => by rw [leaves, leavesBelow, itemLeaves_named naming path 0 items]
  | .object fields => by rw [leaves, leavesBelow, fieldLeaves_named naming path fields]

theorem itemLeaves_named (naming : KeyNaming) (path : String) (index : Nat) : ∀ items : List Json,
    itemLeaves naming (.named naming path) index items = (itemLeavesBelow path index items).map (Leaf.named naming)
  | [] => rfl
  | v :: rest => by
    rw [itemLeaves, itemLeavesBelow, KeyPath.item_named, leaves_named naming _ v,
      itemLeaves_named naming path (index + 1) rest, List.map_append]

theorem fieldLeaves_named (naming : KeyNaming) (path : String) : ∀ fields : List (String × Json),
    fieldLeaves naming (.named naming path) fields = (fieldLeavesBelow path fields).map (Leaf.named naming)
  | [] => rfl
  | (name, v) :: rest => by
    rw [fieldLeaves, fieldLeavesBelow, KeyPath.field_named, leaves_named naming _ v,
      fieldLeaves_named naming path rest, List.map_append]

end

/-! ### Counting leaves -/

mutual

/-- The number of scalars other than null. -/
def scalarCount : Json → Nat
  | .null => 0
  | .bool _ | .number _ | .string _ => 1
  | .array items => itemScalarCount items
  | .object fields => fieldScalarCount fields

/-- The number of scalars other than null in items. -/
def itemScalarCount : List Json → Nat
  | [] => 0
  | v :: rest => v.scalarCount + itemScalarCount rest

/-- The number of scalars other than null in fields. -/
def fieldScalarCount : List (String × Json) → Nat
  | [] => 0
  | (_, v) :: rest => v.scalarCount + fieldScalarCount rest

end

mutual

/-- The number of scalars other than null to which fields without a name lead, and nothing else: the
value itself, or such scalars in its fields whose name is empty. -/
def namelessCount : Json → Nat
  | .null | .array _ => 0
  | .bool _ | .number _ | .string _ => 1
  | .object fields => namelessFieldCount fields

/-- The number of such scalars in fields. -/
def namelessFieldCount : List (String × Json) → Nat
  | [] => 0
  | (name, v) :: rest => (if name = "" then v.namelessCount else 0) + namelessFieldCount rest

end

mutual

/-- Every scalar other than null is one leaf. -/
theorem length_leavesBelow (path : String) : ∀ v : Json, (v.leavesBelow path).length = v.scalarCount
  | .null => rfl
  | .bool _ => rfl
  | .number _ => rfl
  | .string _ => rfl
  | .array items => by rw [leavesBelow, scalarCount, length_itemLeavesBelow path 0 items]
  | .object fields => by rw [leavesBelow, scalarCount, length_fieldLeavesBelow path fields]

theorem length_itemLeavesBelow (path : String) (index : Nat) : ∀ items : List Json,
    (itemLeavesBelow path index items).length = itemScalarCount items
  | [] => rfl
  | v :: rest => by
    rw [itemLeavesBelow, itemScalarCount, List.length_append, length_leavesBelow _ v,
      length_itemLeavesBelow path (index + 1) rest]

theorem length_fieldLeavesBelow (path : String) : ∀ fields : List (String × Json),
    (fieldLeavesBelow path fields).length = fieldScalarCount fields
  | [] => rfl
  | (name, v) :: rest => by
    rw [fieldLeavesBelow, fieldScalarCount, List.length_append, length_leavesBelow _ v,
      length_fieldLeavesBelow path rest]

end

end Json

theorem KeyPath.join_eq_empty_iff {path segment : String} : join path segment = "" ↔ path = "" ∧ segment = "" := by
  by_cases h : path = "" <;> simp [join, h]

namespace Json

mutual

/-- Below a path that is not empty no leaf has the empty path. -/
theorem path_ne_empty_of_mem_leavesBelow {path : String} (h : path ≠ "") :
    ∀ v : Json, ∀ e ∈ v.leavesBelow path, e.1 ≠ ""
  | .null => by simp [leavesBelow]
  | .bool _ => by simpa [leavesBelow] using h
  | .number _ => by simpa [leavesBelow] using h
  | .string _ => by simpa [leavesBelow] using h
  | .array items => by rw [leavesBelow]; exact path_ne_empty_of_mem_itemLeavesBelow h 0 items
  | .object fields => by rw [leavesBelow]; exact path_ne_empty_of_mem_fieldLeavesBelow h fields

theorem path_ne_empty_of_mem_itemLeavesBelow {path : String} (h : path ≠ "") (index : Nat) :
    ∀ items : List Json, ∀ e ∈ itemLeavesBelow path index items, e.1 ≠ ""
  | [] => by simp [itemLeavesBelow]
  | v :: rest => by
    intro e he
    rw [itemLeavesBelow, List.mem_append] at he
    rcases he with he | he
    · exact path_ne_empty_of_mem_leavesBelow (fun hj => h (KeyPath.join_eq_empty_iff.mp hj).1) v e he
    · exact path_ne_empty_of_mem_itemLeavesBelow h (index + 1) rest e he

theorem path_ne_empty_of_mem_fieldLeavesBelow {path : String} (h : path ≠ "") :
    ∀ fields : List (String × Json), ∀ e ∈ fieldLeavesBelow path fields, e.1 ≠ ""
  | [] => by simp [fieldLeavesBelow]
  | (name, v) :: rest => by
    intro e he
    rw [fieldLeavesBelow, List.mem_append] at he
    rcases he with he | he
    · exact path_ne_empty_of_mem_leavesBelow (fun hj => h (KeyPath.join_eq_empty_iff.mp hj).1) v e he
    · exact path_ne_empty_of_mem_fieldLeavesBelow h rest e he

end

/-- An index is part of the path, so no item has the empty path. -/
theorem path_ne_empty_of_mem_items (index : Nat) :
    ∀ items : List Json, ∀ e ∈ itemLeavesBelow "" index items, e.1 ≠ ""
  | [] => by simp [itemLeavesBelow]
  | v :: rest => by
    intro e he
    rw [itemLeavesBelow, List.mem_append] at he
    rcases he with he | he
    · refine path_ne_empty_of_mem_leavesBelow (fun hj => ?_) v e he
      have hindex : toString index = "" := (KeyPath.join_eq_empty_iff.mp hj).2
      exact absurd (congrArg String.toList hindex) (by simp)
    · exact path_ne_empty_of_mem_items (index + 1) rest e he

mutual

/-- The leaves with the empty path are those to which only fields without a name lead. -/
theorem countP_leavesBelow : ∀ v : Json, (v.leavesBelow "").countP (·.1 = "") = v.namelessCount
  | .null => rfl
  | .bool _ => rfl
  | .number _ => rfl
  | .string _ => rfl
  | .array items => by
    rw [leavesBelow, namelessCount, List.countP_eq_zero]
    simpa using path_ne_empty_of_mem_items 0 items
  | .object fields => by rw [leavesBelow, namelessCount, countP_fieldLeavesBelow fields]

theorem countP_fieldLeavesBelow : ∀ fields : List (String × Json),
    (fieldLeavesBelow "" fields).countP (·.1 = "") = namelessFieldCount fields
  | [] => rfl
  | (name, v) :: rest => by
    have hjoin : KeyPath.join "" name = name := rfl
    rw [fieldLeavesBelow, namelessFieldCount, List.countP_append, countP_fieldLeavesBelow rest, hjoin]
    congr 1
    split
    case isTrue h => rw [h, countP_leavesBelow v]
    case isFalse h =>
      rw [List.countP_eq_zero]
      simpa using path_ne_empty_of_mem_leavesBelow h v

end

end Json

/-! ### Entering -/

namespace Flattening

/-- Enters a leaf under its path in a naming. -/
def enter (naming : KeyNaming) (f : Flattening) (e : Leaf) : Flattening := f.emit (KeyPath.named naming e.1) e.2

/-- Enters leaves one after the other. -/
def enterAll (naming : KeyNaming) (leaves : List Leaf) : Flattening := leaves.foldl (enter naming) {}

theorem enterAll_concat (naming : KeyNaming) (leaves : List Leaf) (e : Leaf) :
    enterAll naming (leaves ++ [e]) = (enterAll naming leaves).enter naming e := by
  simp [enterAll]

mutual

/-- Walking through a value enters its scalars in order. -/
theorem walk_eq_foldl (naming : KeyNaming) (p : KeyPath) : ∀ (v : Json) (f : Flattening),
    walk naming p v f = (v.leaves naming p).foldl (fun f e => f.emit e.1 e.2) f
  | .null, _ => rfl
  | .bool _, _ => rfl
  | .number _, _ => rfl
  | .string _, _ => rfl
  | .array items, f => by simp only [walk, Json.leaves]; exact walkItems_eq_foldl naming p 0 items f
  | .object fields, f => by simp only [walk, Json.leaves]; exact walkFields_eq_foldl naming p fields f

theorem walkItems_eq_foldl (naming : KeyNaming) (p : KeyPath) (index : Nat) : ∀ (items : List Json) (f : Flattening),
    walkItems naming p index items f =
      (Json.itemLeaves naming p index items).foldl (fun f e => f.emit e.1 e.2) f
  | [], _ => rfl
  | v :: rest, f => by
    simp only [walkItems, Json.itemLeaves, List.foldl_append]
    rw [walkItems_eq_foldl naming p (index + 1) rest, walk_eq_foldl naming _ v]

theorem walkFields_eq_foldl (naming : KeyNaming) (p : KeyPath) : ∀ (fields : List (String × Json)) (f : Flattening),
    walkFields naming p fields f = (Json.fieldLeaves naming p fields).foldl (fun f e => f.emit e.1 e.2) f
  | [], _ => rfl
  | (name, v) :: rest, f => by
    simp only [walkFields, Json.fieldLeaves, List.foldl_append]
    rw [walkFields_eq_foldl naming p rest, walk_eq_foldl naming _ v]

end

/-- **Flattening a document is entering its leaves.** -/
theorem ofDocument_eq_enterAll (naming : KeyNaming) (document : Json) :
    ofDocument naming document = enterAll naming document.literalLeaves := by
  rw [ofDocument, walk_eq_foldl, ← KeyPath.named_empty naming, Json.leaves_named, List.foldl_map]
  rfl

end Flattening

end LogTagger
