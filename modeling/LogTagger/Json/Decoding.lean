import LogTagger.Json.Reader
import LogTagger.Json.Shape
import LogTagger.Text.Lines

/-!
# Decoding octets in a shape

A value of a known shape is read from octets, from left to right and no further than is needed to
tell that they hold no such value. So octets that end too early are told from octets that no
continuation can mend: the former may go on in octets that have not arrived. What a shape passes over
need not be UTF-8. A number that is passed over is wrong as soon as it breaks off.

The decoder spends at most three units of fuel on each octet.
-/

namespace LogTagger.Json.Decoding

/-- Why octets hold no value of a shape. -/
inductive Fault where
  /-- They end before the value does. -/
  | incomplete
  /-- They go on otherwise than a value of the shape. -/
  | refused
  deriving DecidableEq

/-- The octet of a character of ASCII. -/
def octet (c : Char) : UInt8 := UInt8.ofNat c.toNat

/-- The character of an octet, for those of ASCII. -/
def charOf (o : UInt8) : Char := Char.ofNat o.toNat

/-- The octets after the space in front of them. -/
def skip (s : List UInt8) : List UInt8 := s.dropWhile (fun o => Reader.isSpace (charOf o))

/-- The octets of the rest of a word that must come next. -/
def word : List Char → List UInt8 → Except Fault (Unit × List UInt8)
  | [], s => .ok ((), s)
  | _ :: _, [] => .error .incomplete
  | c :: cs, o :: rest => if o = octet c then word cs rest else .error .refused

/-- The octets after a mark, with space around it. -/
def mark (c : Char) (s : List UInt8) : Except Fault (List UInt8) :=
  (word [c] (skip s)).map (·.2)

/-! ### Strings -/

/-- The number written by four hexadecimal digits. -/
def code : List UInt8 → Except Fault (Nat × List UInt8)
  | a :: b :: c :: d :: rest =>
    match Reader.hexCode? (charOf a) (charOf b) (charOf c) (charOf d) with
    | some n => .ok (n, rest)
    | none => .error .refused
  | _ => .error .incomplete

/-- The character of a code, which may be the first half of a surrogate pair. -/
def codedChar (s : List UInt8) : Except Fault (Char × List UInt8) := do
  let (n, rest) ← code s
  if isTrailingSurrogate n then .error .refused
  else if isLeadingSurrogate n then do
    let (_, rest) ← word ['\\', 'u'] rest
    let (m, rest) ← code rest
    if isTrailingSurrogate m then .ok (Char.ofNat (0x10000 + (n - 0xD800) * 0x400 + (m - 0xDC00)), rest)
    else .error .refused
  else .ok (Char.ofNat n, rest)

/-- The character that is written after a backslash. -/
def escapedChar : List UInt8 → Except Fault (Char × List UInt8)
  | [] => .error .incomplete
  | o :: rest =>
    if o = octet 'u' then codedChar rest
    else
      match Reader.escaped? (charOf o) with
      | some c => .ok (c, rest)
      | none => .error .refused

/-- A string after its opening quote. The octets of its characters so far are given with the last one
first; each round of fuel takes one character or octet. -/
def string : Nat → List UInt8 → List UInt8 → Except Fault (String × List UInt8)
  | 0, _, _ => .error .refused
  | _ + 1, _, [] => .error .incomplete
  | fuel + 1, acc, o :: rest =>
    if o = octet '"' then
      match Text.ofOctets? acc.reverse with
      | some s => .ok (s, rest)
      | none => .error .refused
    else if o = octet '\\' then do
      let (c, rest) ← escapedChar rest
      string fuel ((String.singleton c).toUTF8.toList.reverse ++ acc) rest
    else if o < 0x20 then .error .refused
    else string fuel (o :: acc) rest

/-- The octets after a character that is written after a backslash and passed over: any code counts as
one. -/
def passEscape : List UInt8 → Except Fault (List UInt8)
  | [] => .error .incomplete
  | o :: rest =>
    if o = octet 'u' then (code rest).map (·.2)
    else if (Reader.escaped? (charOf o)).isSome then .ok rest
    else .error .refused

/-- The octets after a string that is passed over, from after its opening quote on. -/
def passString : Nat → List UInt8 → Except Fault (List UInt8)
  | 0, _ => .error .refused
  | _ + 1, [] => .error .incomplete
  | fuel + 1, o :: rest =>
    if o = octet '"' then .ok rest
    else if o = octet '\\' then (passEscape rest).bind (passString fuel)
    else if o < 0x20 then .error .refused
    else passString fuel rest

/-! ### Numbers -/

/-- Whether an octet is a decimal digit. -/
def isDigit (o : UInt8) : Bool := (charOf o).isDigit

/-- The decimal digits in front of octets, as their values, and the rest. -/
def digits (s : List UInt8) : List Nat × List UInt8 :=
  ((s.takeWhile isDigit).map (fun o => o.toNat - '0'.toNat), s.dropWhile isDigit)

/-- Digits of which there must be one; `cut` is the fault if the octets end before it. -/
def someDigits (cut : Fault) (s : List UInt8) : Except Fault (List Nat × List UInt8) :=
  match digits s with
  | ([], []) => .error cut
  | ([], _ :: _) => .error .refused
  | (ds, rest) => .ok (ds, rest)

/-- The octets after a sign in front of them, if there is one. -/
def skipSign : List UInt8 → List UInt8
  | [] => []
  | o :: rest => if o = octet '+' ∨ o = octet '-' then rest else o :: rest

/-- The octets after a fraction, and whether there is one. -/
def fraction (cut : Fault) : List UInt8 → Except Fault (Bool × List UInt8)
  | [] => .ok (false, [])
  | o :: rest => if o = octet '.' then (someDigits cut rest).map (fun r => (true, r.2)) else .ok (false, o :: rest)

/-- The octets after an exponent, and whether there is one. -/
def exponent (cut : Fault) : List UInt8 → Except Fault (Bool × List UInt8)
  | [] => .ok (false, [])
  | o :: rest =>
    if o = octet 'e' ∨ o = octet 'E' then (someDigits cut (skipSign rest)).map (fun r => (true, r.2))
    else .ok (false, o :: rest)

/-- The number in front of octets; it has a value if it is written as an integer other than minus
zero. A number that breaks off has the fault `cut`. -/
def number (cut : Fault) (s : List UInt8) : Except Fault (Option Int × List UInt8) := do
  let (negative, s) := match s with
    | [] => (false, [])
    | o :: rest => if o = octet '-' then (true, rest) else (false, o :: rest)
  let (whole, s) ← someDigits cut s
  if !Reader.isWholePart whole then .error .refused
  else
    let (hasFraction, s) ← fraction cut s
    let (hasExponent, s) ← exponent cut s
    let n := Text.decimal whole
    .ok (if hasFraction || hasExponent || (negative && n == 0) then none
      else some (if negative then -(n : Int) else n), s)

/-- Whether an octet can be the first of a number. -/
def startsNumber (o : UInt8) : Bool := isDigit o || o == octet '-'

/-! ### Values that are passed over -/

mutual

/-- The octets after a value that is passed over. -/
def passValue : Nat → List UInt8 → Except Fault (List UInt8)
  | 0, _ => .error .refused
  | fuel + 1, s =>
    match skip s with
    | [] => .error .incomplete
    | o :: rest =>
      if o = octet 'n' then (word ['u', 'l', 'l'] rest).map (·.2)
      else if o = octet 't' then (word ['r', 'u', 'e'] rest).map (·.2)
      else if o = octet 'f' then (word ['a', 'l', 's', 'e'] rest).map (·.2)
      else if o = octet '"' then passString (rest.length + 1) rest
      else if o = octet '[' then passItems fuel true rest
      else if o = octet '\x7b' then passMembers fuel true rest
      else if startsNumber o then (number .refused (o :: rest)).map (·.2)
      else .error .refused

/-- The octets after the items of an array; `first` says that none came before. -/
def passItems : Nat → Bool → List UInt8 → Except Fault (List UInt8)
  | 0, _, _ => .error .refused
  | fuel + 1, first, s =>
    match skip s with
    | [] => .error .incomplete
    | o :: rest =>
      if o = octet ']' then .ok rest
      else if first then (passValue fuel (o :: rest)).bind (passItems fuel false)
      else if o = octet ',' then (passValue fuel rest).bind (passItems fuel false)
      else .error .refused

/-- The octets after the members of an object; `first` says that none came before. -/
def passMembers : Nat → Bool → List UInt8 → Except Fault (List UInt8)
  | 0, _, _ => .error .refused
  | fuel + 1, first, s =>
    match skip s with
    | [] => .error .incomplete
    | o :: rest =>
      if o = octet '\x7d' then .ok rest
      else if first || o = octet ',' then do
        let rest ← mark '"' (if first then o :: rest else rest)
        let rest ← passString (rest.length + 1) rest
        let rest ← mark ':' rest
        passMembers fuel false (← passValue fuel rest)
      else .error .refused

end

/-! ### Values of a shape -/

/-- Fails because of octets that begin no value of the shape: a string, number or literal is still
read first. -/
def mismatch {α : Type} (s : List UInt8) : Except Fault (α × List UInt8) :=
  match s with
  | [] => .error .incomplete
  | o :: rest =>
    if o = octet '"' then (string (rest.length + 1) [] rest).bind (fun _ => .error .refused)
    else if o = octet 'n' then (word ['u', 'l', 'l'] rest).bind (fun _ => .error .refused)
    else if o = octet 't' then (word ['r', 'u', 'e'] rest).bind (fun _ => .error .refused)
    else if o = octet 'f' then (word ['a', 'l', 's', 'e'] rest).bind (fun _ => .error .refused)
    else if startsNumber o then (number .incomplete (o :: rest)).bind (fun _ => .error .refused)
    else .error .refused

/-- A string. -/
def text (s : List UInt8) : Except Fault (String × List UInt8) :=
  match skip s with
  | [] => .error .incomplete
  | o :: rest => if o = octet '"' then string (rest.length + 1) [] rest else mismatch (o :: rest)

/-- The null literal. -/
def null (s : List UInt8) : Except Fault (Unit × List UInt8) :=
  match skip s with
  | [] => .error .incomplete
  | o :: rest => if o = octet 'n' then word ['u', 'l', 'l'] rest else mismatch (o :: rest)

/-- A truth value. -/
def flag (s : List UInt8) : Except Fault (Bool × List UInt8) :=
  match skip s with
  | [] => .error .incomplete
  | o :: rest =>
    if o = octet 't' then (word ['r', 'u', 'e'] rest).map (fun r => (true, r.2))
    else if o = octet 'f' then (word ['a', 'l', 's', 'e'] rest).map (fun r => (false, r.2))
    else mismatch (o :: rest)

/-- An integer between two bounds. -/
def integer (least greatest : Int) (s : List UInt8) : Except Fault (Int × List UInt8) :=
  match skip s with
  | [] => .error .incomplete
  | o :: rest =>
    if startsNumber o then
      match number .incomplete (o :: rest) with
      | .ok (some n, rest') => if least ≤ n ∧ n ≤ greatest then .ok (n, rest') else .error .refused
      | .ok (none, _) => .error .refused
      | .error f => .error f
    else mismatch (o :: rest)

/-- A string that is one of some names. -/
def nameOf (names : List String) (s : List UInt8) : Except Fault (String × List UInt8) :=
  (text s).bind (fun (name, rest) => if names.contains name then .ok (name, rest) else .error .refused)

/-- One of some names: a string, or an object in which the name stands for null. -/
def choice (names : List String) (s : List UInt8) : Except Fault (String × List UInt8) :=
  match skip s with
  | [] => .error .incomplete
  | o :: rest =>
    if o = octet '"' then nameOf names (o :: rest)
    else if o = octet '\x7b' then do
      let (name, rest) ← nameOf names rest
      let (_, rest) ← null (← mark ':' rest)
      return (name, ← mark '\x7d' rest)
    else .error .refused

/-- An object without fields. -/
def vacant (s : List UInt8) : Except Fault (Unit × List UInt8) :=
  match skip s with
  | [] => .error .incomplete
  | o :: rest =>
    if o = octet '\x7b' then
      match skip rest with
      | [] => .error .incomplete
      | o :: rest =>
        if o = octet '\x7d' then .ok ((), rest)
        else if o = octet '"' then mismatch (o :: rest)
        else .error .refused
    else mismatch (o :: rest)

/-- The octets from the next item or member on, or none after the last one, whose closing mark is
given; `first` says that none came before. -/
def next? (close : Char) (first : Bool) (s : List UInt8) : Except Fault (Bool × List UInt8) :=
  match skip s with
  | [] => .error .incomplete
  | o :: rest =>
    if o = octet close then .ok (false, rest)
    else if first then .ok (true, o :: rest)
    else if o = octet ',' then
      match skip rest with
      | [] => .error .incomplete
      | o :: rest => if o = octet close then .error .refused else .ok (true, o :: rest)
    else .error .refused

/-- The name of a member and the octets after the colon. -/
def memberName (s : List UInt8) : Except Fault (String × List UInt8) := do
  let rest ← mark '"' s
  string (rest.length + 1) [] rest

mutual

/-- A value of a shape. -/
def value : Nat → Shape → List UInt8 → Except Fault (Json × List UInt8)
  | 0, _, _ => .error .refused
  | fuel + 1, shape, s =>
    match shape with
    | .text => (text s).map (fun (t, rest) => (.string t, rest))
    | .flag => (flag s).map (fun (b, rest) => (.bool b, rest))
    | .integer least greatest =>
      (integer least greatest s).bind (fun (n, rest) =>
        match WholeNumber.ofInt? n with
        | some w => .ok (.number (.whole w), rest)
        | none => .error .refused)
    | .choice names => (choice names s).map (fun (t, rest) => (.string t, rest))
    | .vacant => (vacant s).map (fun (_, rest) => (.object [], rest))
    | .optional inner =>
      match skip s with
      | [] => .error .incomplete
      | o :: rest =>
        if o = octet 'n' then (word ['u', 'l', 'l'] rest).map (fun r => (.null, r.2))
        else value fuel inner (o :: rest)
    | .list item =>
      match skip s with
      | [] => .error .incomplete
      | o :: rest => if o = octet '[' then items fuel item true [] rest else mismatch (o :: rest)
    | .map item =>
      match skip s with
      | [] => .error .incomplete
      | o :: rest => if o = octet '\x7b' then entries fuel item true [] rest else mismatch (o :: rest)
    | .record required known =>
      match skip s with
      | [] => .error .incomplete
      | o :: rest =>
        if o = octet '\x7b' then fields fuel required known true [] rest
        else if o = octet '[' then positions fuel known true [] rest
        else mismatch (o :: rest)

/-- The items of an array, the last one so far first. -/
def items : Nat → Shape → Bool → List Json → List UInt8 → Except Fault (Json × List UInt8)
  | 0, _, _, _, _ => .error .refused
  | fuel + 1, item, first, acc, s =>
    match next? ']' first s with
    | .error f => .error f
    | .ok (false, rest) => .ok (.array acc.reverse, rest)
    | .ok (true, rest) =>
      match value fuel item rest with
      | .error f => .error f
      | .ok (v, rest) => items fuel item false (v :: acc) rest

/-- The entries of a map. -/
def entries : Nat → Shape → Bool → List (String × Json) → List UInt8 → Except Fault (Json × List UInt8)
  | 0, _, _, _, _ => .error .refused
  | fuel + 1, item, first, acc, s =>
    match next? '\x7d' first s with
    | .error f => .error f
    | .ok (false, rest) => .ok (.object acc, rest)
    | .ok (true, rest) => do
      let (name, rest) ← memberName rest
      let (v, rest) ← value fuel item (← mark ':' rest)
      entries fuel item false (SortedMap.insertEntry name v acc) rest

/-- The fields of a record by name. -/
def fields : Nat → List String → List (String × Shape) → Bool → List (String × Json) → List UInt8 →
    Except Fault (Json × List UInt8)
  | 0, _, _, _, _, _ => .error .refused
  | fuel + 1, required, known, first, acc, s =>
    match next? '\x7d' first s with
    | .error f => .error f
    | .ok (false, rest) =>
      if required.all (fun name => (SortedMap.lookup name acc).isSome) then .ok (.object acc, rest)
      else .error .refused
    | .ok (true, rest) => do
      let (name, rest) ← memberName rest
      match SortedMap.lookup name known with
      | none =>
        let rest ← passValue fuel (← mark ':' rest)
        fields fuel required known false acc rest
      | some shape =>
        if (SortedMap.lookup name acc).isSome then .error .refused
        else
          let (v, rest) ← value fuel shape (← mark ':' rest)
          fields fuel required known false (SortedMap.insertEntry name v acc) rest

/-- The fields of a record by position. -/
def positions : Nat → List (String × Shape) → Bool → List (String × Json) → List UInt8 →
    Except Fault (Json × List UInt8)
  | 0, _, _, _, _ => .error .refused
  | _ + 1, [], _, acc, s => (mark ']' s).map (fun rest => (.object acc, rest))
  | fuel + 1, (name, shape) :: others, first, acc, s =>
    match next? ']' first s with
    | .error f => .error f
    | .ok (false, _) => .error .refused
    | .ok (true, rest) => do
      let (v, rest) ← value fuel shape rest
      positions fuel others false (SortedMap.insertEntry name v acc) rest

end

end Decoding

/-- The value of a shape that octets hold, with space around it. -/
def decode (shape : Shape) (octets : List UInt8) : Except Decoding.Fault Json := do
  let (v, rest) ← Decoding.value (3 * octets.length + 3) shape octets
  if (Decoding.skip rest).isEmpty then .ok v else .error .refused

end LogTagger.Json
