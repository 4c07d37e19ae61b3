import LogTagger.Attribute
import LogTagger.Flatten.Naming

/-!
# Flattening any document

Every scalar of a document becomes an attribute under the path that leads to it: the names of the
fields and the indices of the items, joined by dots. Null and the scalar at the top leave no trace.

Different paths may become the same key, such as `Image.Id` and `ImageId`. The first scalar keeps the
key; a later one goes under its path in the fields' own names if that is free, and is dropped
otherwise. Both are counted.
-/

namespace LogTagger

/-- The path to a value: as a key in the chosen naming and in the fields' own names. -/
structure KeyPath where
  /-- The path in the chosen naming. -/
  key : String := ""
  /-- The path in the fields' own names. -/
  literal : String := ""
  deriving DecidableEq

namespace KeyPath

/-- A path with one more segment; an empty path takes no separator. -/
def join (path segment : String) : String := if path.isEmpty then segment else path ++ "." ++ segment

/-- The path to a field. -/
def field (naming : KeyNaming) (p : KeyPath) (name : String) : KeyPath :=
  ⟨join p.key (naming.segment name), join p.literal name⟩

/-- The path to an item. -/
def item (p : KeyPath) (index : Nat) : KeyPath :=
  ⟨join p.key (toString index), join p.literal (toString index)⟩

end KeyPath

/-- The attributes gathered so far and what became of colliding keys. -/
structure Flattening where
  /-- The attributes. -/
  attributes : Attributes := ∅
  /-- The number of values that went under their fields' own names. -/
  renamed : Nat := 0
  /-- The number of values that found both keys taken. -/
  dropped : Nat := 0
  deriving DecidableEq

namespace Flattening

/-- Enters one scalar. -/
def emit (f : Flattening) (p : KeyPath) (v : AttributeValue) : Flattening :=
  if p.key.isEmpty then f
  else if !f.attributes.contains p.key then { f with attributes := f.attributes.insert p.key v }
  else if p.literal != p.key && !f.attributes.contains p.literal then
    { f with attributes := f.attributes.insert p.literal v, renamed := f.renamed + 1 }
  else { f with dropped := f.dropped + 1 }

mutual

/-- Enters the scalars of a value, in the order of its items and fields. -/
def walk (naming : KeyNaming) (p : KeyPath) : Json → Flattening → Flattening
  | .null, f => f
  | .bool b, f => f.emit p (.bool b)
  | .number n, f => f.emit p (.ofNumber n)
  | .string s, f => f.emit p (.string s)
  | .array items, f => walkItems naming p 0 items f
  | .object fields, f => walkFields naming p fields f

/-- Enters the scalars of the items from `index` on. -/
def walkItems (naming : KeyNaming) (p : KeyPath) (index : Nat) : List Json → Flattening → Flattening
  | [], f => f
  | v :: rest, f => walkItems naming p (index + 1) rest (walk naming (p.item index) v f)

/-- Enters the scalars of fields. -/
def walkFields (naming : KeyNaming) (p : KeyPath) : List (String × Json) → Flattening → Flattening
  | [], f => f
  | (name, v) :: rest, f => walkFields naming p rest (walk naming (p.field naming name) v f)

end

/-- Flattens a whole document. -/
def ofDocument (naming : KeyNaming) (document : Json) : Flattening := walk naming {} document {}

/-- Whether every scalar kept its key. -/
def collisionFree (f : Flattening) : Bool := f.renamed == 0 && f.dropped == 0

end Flattening

/-! ### The scalars of a document -/

mutual

/-- The scalars of a value with their paths, in visiting order. -/
def Json.leaves (naming : KeyNaming) (p : KeyPath) : Json → List (KeyPath × AttributeValue)
  | .null => []
  | .bool b => [(p, .bool b)]
  | .number n => [(p, .ofNumber n)]
  | .string s => [(p, .string s)]
  | .array items => itemLeaves naming p 0 items
  | .object fields => fieldLeaves naming p fields

/-- The scalars of items from `index` on. -/
def Json.itemLeaves (naming : KeyNaming) (p : KeyPath) (index : Nat) : List Json → List (KeyPath × AttributeValue)
  | [] => []
  | v :: rest => v.leaves naming (p.item index) ++ itemLeaves naming p (index + 1) rest

/-- The scalars of fields. -/
def Json.fieldLeaves (naming : KeyNaming) (p : KeyPath) : List (String × Json) → List (KeyPath × AttributeValue)
  | [] => []
  | (name, v) :: rest => v.leaves naming (p.field naming name) ++ fieldLeaves naming p rest

end

end LogTagger
