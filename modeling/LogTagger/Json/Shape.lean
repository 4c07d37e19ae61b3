import LogTagger.Json.Basic

/-!
# Shapes of JSON values

A shape says what form a value must have: which kind of scalar, which items, which fields. A value of
a record is an object with the fields of the record, where a field that may be null may also be
missing and other fields are passed over, or an array of all the fields by position.
-/

namespace LogTagger.Json

/-- The form that a value must have. -/
inductive Shape where
  /-- A string. -/
  | text
  /-- A truth value. -/
  | flag
  /-- An integer between two bounds. -/
  | integer (least greatest : Int)
  /-- One of some names: a string, or an object in which the name stands for null. -/
  | choice (names : List String)
  /-- Null or a value of a shape. -/
  | optional (s : Shape)
  /-- An array of values of a shape. -/
  | list (s : Shape)
  /-- An object whose fields have any names and values of a shape. -/
  | map (s : Shape)
  /-- An object without fields. -/
  | vacant
  /-- A record: the names of the fields that must not be missing, and all fields in order. -/
  | record (required : List String) (fields : List (String × Shape))

namespace Shape

/-- An integer of 64 bits with a sign. -/
def int64 : Shape := .integer (-0x8000000000000000) 0x7FFFFFFFFFFFFFFF

/-- An integer of 32 bits with a sign. -/
def int32 : Shape := .integer (-0x80000000) 0x7FFFFFFF

/-- An integer of 64 bits without a sign. -/
def uint64 : Shape := .integer 0 0xFFFFFFFFFFFFFFFF

/-- An integer of 16 bits without a sign. -/
def uint16 : Shape := .integer 0 0xFFFF

/-- A record all of whose fields may be null or missing. -/
def partialRecord (fields : List (String × Shape)) : Shape :=
  .record [] (fields.map (fun f => (f.1, .optional f.2)))

end Shape

end LogTagger.Json
