import LogTagger.Toml.Scalar
import LogTagger.Toml.Table
import LogTagger.Toml.Text

/-!
# Reading TOML text

A reader by recursive descent over the characters: a text is a list of sections, each a header with
the dotted keys under it. Every step returns what it read and the rest of the text. The reader of
values spends one unit of fuel on each value, item and entry, so twice the length of the text is
enough. `Toml.read?` puts the sections together.
-/

namespace LogTagger.Toml

/-- The greatest number of arrays and inline tables around a value, the value included; also that of
the names in a dotted key. -/
def nestingLimit : Nat := 80

namespace Reader

/-- Whether a character may stand in a key without quotes. -/
def isBareKeyChar (c : Char) : Bool := c.isAlphanum || c == '_' || c == '-'

/-- One name of a key; a quoted name stands on one line. -/
def name? (s : List Char) : Option (String × List Char) :=
  match s with
  | '"' :: rest => (basic? 0 rest []).map (fun (cs, rest') => (String.ofList cs.reverse, rest'))
  | '\'' :: rest => (literal? rest).map (fun (cs, rest') => (String.ofList cs, rest'))
  | _ =>
    let cs := s.takeWhile isBareKeyChar
    if cs.isEmpty then none else some (String.ofList cs, s.drop cs.length)

/-- Up to so many names parted by dots, with space around them. -/
def names? : Nat → List Char → Option (List String × List Char)
  | 0, _ => none
  | fuel + 1, s =>
    match name? (skipSpace s) with
    | none => none
    | some (k, rest) =>
      match skipSpace rest with
      | '.' :: rest' => (names? fuel rest').map (fun (path, rest'') => (k :: path, rest''))
      | rest' => some ([k], rest')

/-- A dotted key with space around its names. -/
def key? (s : List Char) : Option (List String × List Char) := names? nestingLimit s

mutual

/-- The value in front of a text, around which `depth` more arrays and inline tables may nest. -/
def value? : Nat → Nat → List Char → Option (Toml × List Char)
  | 0, _, _ => none
  | fuel + 1, depth, s =>
    match s with
    | '[' :: rest => if depth = 0 then none else items? fuel (depth - 1) rest []
    | '\x7b' :: rest => if depth = 0 then none else entries? fuel (depth - 1) rest []
    | '"' :: _ => (string? s).map (fun (t, rest) => (.string t, rest))
    | '\'' :: _ => (string? s).map (fun (t, rest) => (.string t, rest))
    | _ => scalarValue? s

/-- The items of an array up to its closing bracket; a comma may follow the last. -/
def items? : Nat → Nat → List Char → List Toml → Option (Toml × List Char)
  | 0, _, _, _ => none
  | fuel + 1, depth, s, acc =>
    match skipBlank s with
    | ']' :: rest => some (.array acc.reverse, rest)
    | s' =>
      match value? fuel depth s' with
      | none => none
      | some (v, rest) =>
        match skipBlank rest with
        | ',' :: rest' => items? fuel depth rest' (v :: acc)
        | ']' :: rest' => some (.array (v :: acc).reverse, rest')
        | _ => none

/-- The entries of an inline table up to its closing brace; a comma may follow the last. A line may end
anywhere but within a key. -/
def entries? : Nat → Nat → List Char → List (List String × Toml) → Option (Toml × List Char)
  | 0, _, _, _ => none
  | fuel + 1, depth, s, acc =>
    match skipBlank s with
    | '\x7d' :: rest => (inlineTable? acc.reverse).map (fun t => (t, rest))
    | s' =>
      match key? s' with
      | none => none
      | some (path, rest) =>
        match skipBlank rest with
        | '=' :: rest =>
          match value? fuel depth (skipBlank rest) with
          | none => none
          | some (v, rest') =>
            match skipBlank rest' with
            | ',' :: rest'' => entries? fuel depth rest'' ((path, v) :: acc)
            | '\x7d' :: rest'' => (inlineTable? ((path, v) :: acc).reverse).map (fun t => (t, rest''))
            | _ => none
        | _ => none

end

/-- A dotted key with its value, up to the end of the line. -/
def entry? (s : List Char) : Option ((List String × Toml) × List Char) :=
  match key? s with
  | some (path, '=' :: rest) =>
    match value? (2 * rest.length + 1) nestingLimit (skipSpace rest) with
    | some (v, rest') => (endOfLine? rest').map (fun rest'' => ((path, v), rest''))
    | none => none
  | _ => none

/-- A header, up to the end of the line. -/
def header? (s : List Char) : Option (Header × List Char) :=
  match s with
  | '[' :: '[' :: rest =>
    match key? rest with
    | some (path, ']' :: ']' :: rest') => (endOfLine? rest').map (fun rest'' => (.element path, rest''))
    | _ => none
  | '[' :: rest =>
    match key? rest with
    | some (path, ']' :: rest') => (endOfLine? rest').map (fun rest'' => (.table path, rest''))
    | _ => none
  | _ => none

/-- The sections of a text from a header on; each round of fuel takes one line. The entries read so
far under the header are given with the last one first. -/
def sections? : Nat → Header → List (List String × Toml) → List Char → Option (List Section)
  | 0, _, _, _ => none
  | fuel + 1, header, acc, s =>
    match skipSpace (skipBlank s) with
    | [] => some [⟨header, acc.reverse⟩]
    | '[' :: rest =>
      match header? ('[' :: rest) with
      | some (next, rest') => (sections? fuel next [] rest').map (⟨header, acc.reverse⟩ :: ·)
      | none => none
    | s' =>
      match entry? s' with
      | some (e, rest) => sections? fuel header (e :: acc) rest
      | none => none

/-- The text without a byte-order mark in front. -/
def skipMark : List Char → List Char
  | '\ufeff' :: rest => rest
  | s => s

end Reader

/-- The table of a whole text. -/
def read? (s : String) : Option Toml :=
  let cs := Reader.skipMark s.toList
  (Reader.sections? (cs.length + 1) .top [] cs).bind ofSections?

end LogTagger.Toml
