import LogTagger.Json.Basic

/-!
# Drafts of JSON values

A draft is the tree of a JSON text as its grammar alone gives it: strings are lists of written
units, numbers keep their parts, an object keeps every member. Three things are still open in a
draft and are settled by `Draft.value?`: a string must not hold half of a surrogate pair, a number
must not be too large for a double, and arrays and objects must not nest deeper than `nestingLimit`.
A reader of fixed fields settles only the fields it knows, so a member that nobody reads may be any
text of the right form.
-/

namespace LogTagger.Json

/-- The greatest number of arrays and objects around a value, the value included. -/
def nestingLimit : Nat := 127

/-- One unit of a written string. -/
inductive TextUnit where
  /-- A character that stands for itself or is named by a short escape. -/
  | char (c : Char)
  /-- A UTF-16 unit given by four hexadecimal digits. -/
  | code (n : Nat)
  deriving DecidableEq

/-- Whether a number is a leading surrogate. -/
def isLeadingSurrogate (n : Nat) : Bool := 0xD800 ≤ n && n < 0xDC00

/-- Whether a number is a trailing surrogate. -/
def isTrailingSurrogate (n : Nat) : Bool := 0xDC00 ≤ n && n < 0xE000

/-- The characters of a written string, the last one first, or none if a surrogate stands alone. -/
def charsOfUnits : List TextUnit → List Char → Option (List Char)
  | [], acc => some acc
  | .char c :: rest, acc => charsOfUnits rest (c :: acc)
  | .code n :: rest, acc =>
    if isLeadingSurrogate n then
      match rest with
      | .code m :: rest' =>
        if isTrailingSurrogate m then
          charsOfUnits rest' (Char.ofNat (0x10000 + (n - 0xD800) * 0x400 + (m - 0xDC00)) :: acc)
        else none
      | _ => none
    else if isTrailingSurrogate n then none
    else charsOfUnits rest (Char.ofNat n :: acc)

/-- The string that written units stand for. -/
def textOfUnits? (units : List TextUnit) : Option String :=
  (charsOfUnits units []).map (fun cs => String.ofList cs.reverse)

/-- The tree of a JSON text by its grammar alone. -/
inductive Draft where
  /-- The null literal. -/
  | null
  /-- A truth literal. -/
  | bool (b : Bool)
  /-- A number, as written. -/
  | number (t : NumberText)
  /-- A string, as written. -/
  | string (units : List TextUnit)
  /-- An array. -/
  | array (items : List Draft)
  /-- An object with all its members in the order of the text. -/
  | object (members : List (List TextUnit × Draft))
  deriving Inhabited

namespace Draft

mutual

/-- The value of a draft around which `depth` more arrays and objects may nest. Of two members with
one name the later counts. -/
def value? (depth : Nat) : Draft → Option Json
  | .null => some .null
  | .bool b => some (.bool b)
  | .number t => t.number?.map .number
  | .string units => (textOfUnits? units).map .string
  | .array items => if depth = 0 then none else (values? (depth - 1) items).map .array
  | .object members => if depth = 0 then none else (fields? (depth - 1) members []).map .object

/-- The values of the items of an array. -/
def values? (depth : Nat) : List Draft → Option (List Json)
  | [] => some []
  | d :: ds => (value? depth d).bind (fun v => (values? depth ds).map (v :: ·))

/-- The fields of an object, bound one after the other. -/
def fields? (depth : Nat) : List (List TextUnit × Draft) → List (String × Json) → Option (List (String × Json))
  | [], acc => some acc
  | (units, d) :: rest, acc =>
    (textOfUnits? units).bind (fun name =>
      (value? depth d).bind (fun v => fields? depth rest (SortedMap.insertEntry name v acc)))

end

/-- The members of an object by name, if all their names are proper strings. -/
def namedMembers? (members : List (List TextUnit × Draft)) : Option (List (String × Draft)) :=
  members.mapM (fun m => (textOfUnits? m.1).map (fun name => (name, m.2)))

/-- Whether no two members have the given name. -/
def atMostOnce (members : List (String × Draft)) (name : String) : Bool :=
  (members.filter (fun m => m.1 = name)).length ≤ 1

/-- The drafts of fixed fields by name. An object gives each of them at most once and may have other
members; an array gives them by position and may end early, but not go on. -/
def slots? (names : List String) : Draft → Option (List (String × Draft))
  | .object members =>
    (namedMembers? members).bind (fun ms => if names.all (atMostOnce ms) then some ms else none)
  | .array items => if items.length ≤ names.length then some (names.zip items) else none
  | _ => none

/-- The value of a field: the default if the field is missing, else what `read` makes of it. -/
def fieldOr {α : Type} (slots : List (String × Draft)) (name : String) (read : Draft → Option α)
    (default : α) : Option α :=
  match SortedMap.lookup name slots with
  | none => some default
  | some d => read d

end Draft

end LogTagger.Json
