import LogTagger.SortedMap
import LogTagger.Json.Number

/-!
# JSON values

A JSON value as a tree. The fields of an object are a list of names and values; in a value that was
read from text no name occurs twice and the names ascend (`Sorted`), because the reader binds each
field with `SortedMap.insertEntry`. A value that is built to be written may list its fields in any
order.
-/

namespace LogTagger

/-- A JSON value. -/
inductive Json where
  /-- The null value. -/
  | null
  /-- A truth value. -/
  | bool (b : Bool)
  /-- A number. -/
  | number (n : Json.Number)
  /-- A string. -/
  | string (s : String)
  /-- An array. -/
  | array (items : List Json)
  /-- An object. -/
  | object (fields : List (String × Json))
  deriving Inhabited

namespace Json

/-- The value of a field of an object. -/
def field? (name : String) : Json → Option Json
  | .object fields => SortedMap.lookup name fields
  | _ => none

/-- A natural number as a JSON number, when it fits 64 bits. -/
def ofNat? (n : Nat) : Option Json := (WholeNumber.ofInt? n).map (fun w => .number (.whole w))

/-- An unsigned 64-bit integer as a JSON number. -/
def ofUInt64 (n : UInt64) : Json := .number (.whole (.ofUInt64 n))

/-- The entries of a map as an object. -/
def ofMap {α : Type} (f : α → Json) (m : SortedMap α) : Json := .object (m.entries.map (fun e => (e.1, f e.2)))

/-- The names of every object in the value ascend and none occurs twice. -/
inductive Sorted : Json → Prop where
  | null : Sorted .null
  | bool (b : Bool) : Sorted (.bool b)
  | number (n : Number) : Sorted (.number n)
  | string (s : String) : Sorted (.string s)
  | array {items : List Json} (h : ∀ v ∈ items, Sorted v) : Sorted (.array items)
  | object {fields : List (String × Json)} (names : fields.Pairwise KeyBefore)
      (h : ∀ e ∈ fields, Sorted e.2) : Sorted (.object fields)

end Json

end LogTagger
