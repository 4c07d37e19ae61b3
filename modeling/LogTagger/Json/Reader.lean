import LogTagger.Json.Draft
import LogTagger.Text.Digits

/-!
# Reading JSON text

A reader by recursive descent over the characters. Every step returns what it read and the rest of
the text. The reader of values spends one unit of fuel on each value, item and member; twice the
length of the text is enough, since a bracket is closed by another and items are parted by commas.
-/

namespace LogTagger.Json.Reader

open Text (hexValue? digits decimal)

/-- The four characters that may stand between tokens. -/
def isSpace (c : Char) : Bool := c == ' ' || c == '\t' || c == '\n' || c == '\r'

/-- The text after the space in front of it. -/
def skip (s : List Char) : List Char := s.dropWhile isSpace

/-- The number written by four hexadecimal digits. -/
def hexCode? (a b c d : Char) : Option Nat := do
  let w ← hexValue? a
  let x ← hexValue? b
  let y ← hexValue? c
  let z ← hexValue? d
  return ((w * 16 + x) * 16 + y) * 16 + z

/-- The character named by a short escape. -/
def escaped? (c : Char) : Option Char :=
  match c with
  | '"' => some '"'
  | '\\' => some '\\'
  | '/' => some '/'
  | 'b' => some '\x08'
  | 'f' => some '\x0c'
  | 'n' => some '\n'
  | 'r' => some '\r'
  | 't' => some '\t'
  | _ => none

/-- The units of a string after its opening quote, and the text after its closing quote. -/
def string? : List Char → List TextUnit → Option (List TextUnit × List Char)
  | [], _ => none
  | '"' :: rest, acc => some (acc.reverse, rest)
  | '\\' :: 'u' :: a :: b :: c :: d :: rest, acc =>
    match hexCode? a b c d with
    | some n => string? rest (.code n :: acc)
    | none => none
  | '\\' :: c :: rest, acc =>
    match escaped? c with
    | some e => string? rest (.char e :: acc)
    | none => none
  | c :: rest, acc => if c.toNat < 0x20 || c == '\\' then none else string? rest (.char c :: acc)

/-- The digits after a point, if the text goes on with one; a point needs a digit. -/
def fraction? : List Char → Option (Option (List Nat) × List Char)
  | '.' :: rest =>
    match digits rest with
    | ([], _) => none
    | (ds, rest') => some (some ds, rest')
  | s => some (none, s)

/-- The sign of an exponent: whether it is negative, and the text after it. -/
def exponentSign : List Char → Bool × List Char
  | '+' :: rest => (false, rest)
  | '-' :: rest => (true, rest)
  | s => (false, s)

/-- The exponent, if the text goes on with one; its mark needs a digit. -/
def exponent? (s : List Char) : Option (Option Int × List Char) :=
  match s with
  | [] => some (none, [])
  | c :: rest =>
    if c == 'e' || c == 'E' then
      let (negative, rest') := exponentSign rest
      match digits rest' with
      | ([], _) => none
      | (ds, rest'') => some (some (if negative then -(decimal ds : Int) else decimal ds), rest'')
    else some (none, s)

/-- Whether digits may stand before the point: at least one, and no zero in front of others. -/
def isWholePart : List Nat → Bool
  | [] => false
  | [_] => true
  | d :: _ => d != 0

/-- The number in front of a text. -/
def number? (s : List Char) : Option (NumberText × List Char) :=
  let (negative, s₁) := match s with
    | '-' :: rest => (true, rest)
    | _ => (false, s)
  let (whole, s₂) := digits s₁
  if isWholePart whole then
    (fraction? s₂).bind (fun (fraction, s₃) =>
      (exponent? s₃).map (fun (exponent, s₄) => (⟨negative, whole, fraction, exponent⟩, s₄)))
  else none

mutual

/-- The value in front of a text, after space. -/
def value? : Nat → List Char → Option (Draft × List Char)
  | 0, _ => none
  | fuel + 1, s =>
    match skip s with
    | '\x7b' :: rest =>
      match skip rest with
      | '\x7d' :: rest' => some (.object [], rest')
      | _ => members? fuel rest []
    | '[' :: rest =>
      match skip rest with
      | ']' :: rest' => some (.array [], rest')
      | _ => items? fuel rest []
    | '"' :: rest => (string? rest []).map (fun (units, rest') => (.string units, rest'))
    | 'n' :: 'u' :: 'l' :: 'l' :: rest => some (.null, rest)
    | 't' :: 'r' :: 'u' :: 'e' :: rest => some (.bool true, rest)
    | 'f' :: 'a' :: 'l' :: 's' :: 'e' :: rest => some (.bool false, rest)
    | s' => (number? s').map (fun (t, rest) => (.number t, rest))

/-- The items of an array up to its closing bracket. -/
def items? : Nat → List Char → List Draft → Option (Draft × List Char)
  | 0, _, _ => none
  | fuel + 1, s, acc =>
    match value? fuel s with
    | none => none
    | some (v, rest) =>
      match skip rest with
      | ',' :: rest' => items? fuel rest' (v :: acc)
      | ']' :: rest' => some (.array (v :: acc).reverse, rest')
      | _ => none

/-- The members of an object up to its closing brace. -/
def members? : Nat → List Char → List (List TextUnit × Draft) → Option (Draft × List Char)
  | 0, _, _ => none
  | fuel + 1, s, acc =>
    match skip s with
    | '"' :: rest =>
      match string? rest [] with
      | none => none
      | some (name, rest₁) =>
        match skip rest₁ with
        | ':' :: rest₂ =>
          match value? fuel rest₂ with
          | none => none
          | some (v, rest₃) =>
            match skip rest₃ with
            | ',' :: rest₄ => members? fuel rest₄ ((name, v) :: acc)
            | '\x7d' :: rest₄ => some (.object ((name, v) :: acc).reverse, rest₄)
            | _ => none
        | _ => none
    | _ => none

end

/-- The draft of a whole text: one value with space around it. -/
def draft? (s : List Char) : Option Draft :=
  match value? (2 * s.length + 1) s with
  | some (d, rest) => if (skip rest).isEmpty then some d else none
  | none => none

end LogTagger.Json.Reader

namespace LogTagger.Json

/-- The value of a whole text. -/
def read? (s : String) : Option Json := (Reader.draft? s.toList).bind (Draft.value? nestingLimit)

end LogTagger.Json
