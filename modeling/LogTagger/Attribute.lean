import LogTagger.Json.Printer

/-!
# Attribute values

The scalar value of an attribute of a resource or of a log record. A JSON number becomes the
narrowest kind that holds it: a signed integer if it fits, else an unsigned one, else a double.
Null, arrays and objects are no attribute values.

A value comes from a number in a document (`ofNumber`), from the attributes of a record, where the
kinds are tried one after the other (`ofJson?`), or from a count (`ofUInt64`). The first two agree
(`ofJson?_number`).
-/

namespace LogTagger

/-- The value of an attribute. -/
inductive AttributeValue where
  /-- A truth value. -/
  | bool (b : Bool)
  /-- A signed integer. -/
  | int (n : Int64)
  /-- An unsigned integer; those that come from text or from counts exceed the signed range. -/
  | uint (n : UInt64)
  /-- A double-precision number. -/
  | double (x : Double)
  /-- A string. -/
  | string (s : String)
  deriving DecidableEq

/-- Attributes by name. -/
abbrev Attributes := SortedMap AttributeValue

namespace AttributeValue

/-- The name of the kind of a value. -/
def kind : AttributeValue → String
  | .bool _ => "bool"
  | .int _ => "int"
  | .uint _ => "uint"
  | .double _ => "double"
  | .string _ => "string"

/-- The text of a value: a string as it is, a number in positional notation. -/
def text : AttributeValue → String
  | .bool b => if b then "true" else "false"
  | .int n => toString n.toInt
  | .uint n => toString n.toNat
  | .double x => x.plain
  | .string s => s

/-! ### Where values come from -/

/-- The value of a JSON number in a document: an integer if one holds it, and a signed one if it can be. -/
def ofNumber (n : Json.Number) : AttributeValue :=
  match n.int64? with
  | some i => .int i
  | none =>
    match n.uint64? with
    | some u => .uint u
    | none => .double ((n.double?.map .finite).getD .nan)

/-- A JSON value as a truth value. -/
def bool? : Json → Option AttributeValue
  | .bool b => some (.bool b)
  | _ => none

/-- A JSON value as a signed integer. -/
def int? : Json → Option AttributeValue
  | .number n => n.int64?.map .int
  | _ => none

/-- A JSON value as an unsigned integer. -/
def uint? : Json → Option AttributeValue
  | .number n => n.uint64?.map .uint
  | _ => none

/-- A JSON value as a double, to which any number is rounded. -/
def double? : Json → Option AttributeValue
  | .number n => n.double?.map (fun x => .double (.finite x))
  | _ => none

/-- A JSON value as a string. -/
def string? : Json → Option AttributeValue
  | .string s => some (.string s)
  | _ => none

/-- The value of a JSON scalar: the kinds are tried one after the other, and the first that takes it counts. -/
def ofJson? (v : Json) : Option AttributeValue := [bool?, int?, uint?, double?, string?].findSome? (· v)

theorem ofNumber_whole_of_lt {n : WholeNumber} (h : n.value < 0x8000000000000000) :
    ofNumber (.whole n) = .int (Int64.ofInt n.value) := by
  rw [ofNumber, Json.Number.int64?, if_pos h]

theorem ofNumber_whole_of_le {n : WholeNumber} (h : 0x8000000000000000 ≤ n.value) :
    ofNumber (.whole n) = .uint (UInt64.ofNat n.value.toNat) := by
  have hlarge : ¬ n.value < 0x8000000000000000 := Int.not_lt.mpr h
  have hpositive : 0 ≤ n.value := by omega
  rw [ofNumber, Json.Number.int64?, if_neg hlarge, Json.Number.uint64?, if_pos hpositive]

/-- The first kind that takes a number is the one it has in a document. -/
theorem ofJson?_number (n : Json.Number) : ofJson? (.number n) = some (ofNumber n) := by
  cases n with
  | double x => rfl
  | whole n =>
    by_cases h : n.value < 0x8000000000000000
    · have hsigned : (Json.Number.whole n).int64? = some (Int64.ofInt n.value) := if_pos h
      rw [ofNumber_whole_of_lt h]
      simp only [ofJson?, List.findSome?_cons, bool?, int?, hsigned, Option.map_some]
    · have hunsigned : (Json.Number.whole n).int64? = none := if_neg h
      have hpositive : 0 ≤ n.value := by omega
      have hvalue : (Json.Number.whole n).uint64? = some (UInt64.ofNat n.value.toNat) := if_pos hpositive
      rw [ofNumber_whole_of_le (Int.not_lt.mp h)]
      simp only [ofJson?, List.findSome?_cons, bool?, int?, uint?, hunsigned, hvalue, Option.map_none, Option.map_some]

/-- The value of an unsigned count: signed when that holds it. -/
def ofUInt64 (n : UInt64) : AttributeValue := if n.toNat < 0x8000000000000000 then .int (Int64.ofNat n.toNat) else .uint n

/-! ### What values are written as -/

/-- The JSON value; a double that is not finite has none and is written as null. -/
def toJson : AttributeValue → Json
  | .bool b => .bool b
  | .int n => .number (.whole (.ofInt64 n))
  | .uint n => .number (.whole (.ofUInt64 n))
  | .double (.finite x) => .number (.double x)
  | .double _ => .null
  | .string s => .string s

/-- Whether the value is a string. -/
def isString : AttributeValue → Bool
  | .string _ => true
  | _ => false

end AttributeValue

/-- The JSON object of attributes. -/
def Attributes.toJson (attributes : Attributes) : Json := Json.ofMap AttributeValue.toJson attributes

end LogTagger
