import LogTagger.Pattern.Escape

/-!
# Sets in brackets

The syntax of sets of characters in brackets: characters and ranges, escapes, named sets of ASCII, brackets
within brackets, and the set operations `&&`, `--` and `~~`, which bind from the left and weaker than
writing items side by side.
-/

namespace LogTagger.Pattern

open LogTagger.Text (CharSet)

/-- The greatest depth of groups, repetitions, sequences, alternatives and brackets. -/
def nestingLimit : Nat := 250

/-- A set operation. -/
inductive SetOperator where
  /-- Both. -/
  | inter
  /-- The first alone. -/
  | diff
  /-- Either alone. -/
  | symmDiff

/-- A part of a bracket. -/
structure SetPart where
  /-- The characters. -/
  chars : CharSet
  /-- How deep the part nests. -/
  depth : Nat := 0

namespace SetPart

open Scanner

/-- Items side by side as one part. -/
def union (items : List SetPart) : SetPart :=
  let depth := (items.map depth).foldl max 0
  { chars := .unions (items.map chars), depth := if items.length < 2 then depth else depth + 1 }

/-- The operation of two parts, which are without regard to case first. -/
def operate (flags : Flags) (op : SetOperator) (a b : SetPart) : SetPart :=
  let (s, t) := (flags.fold a.chars, flags.fold b.chars)
  { chars := match op with
      | .inter => s ∩ t
      | .diff => s \ t
      | .symmDiff => s.symmDiff t
    depth := max a.depth b.depth + 1 }

/-- What has been read of a bracket as one part: the items since the last operation, and that operation
with its left side. -/
def combine (flags : Flags) (pending : Option (SetOperator × SetPart)) (items : List SetPart) : SetPart :=
  match pending with
  | none => union items
  | some (op, left) => operate flags op left (union items)

/-- The named set of ASCII after an opening bracket, and whether it is negated. -/
def asciiClass? (s : List Char) : Option (CharSet × Bool × List Char) :=
  match s with
  | ':' :: rest =>
    let (negated, rest) := match rest with
      | '^' :: rest => (true, rest)
      | _ => (false, rest)
    let name := rest.takeWhile (· != ':')
    match rest.drop name.length with
    | ':' :: ']' :: rest' => (asciiSet? (String.ofList name)).map (fun chars => (chars, negated, rest'))
    | _ => none
  | _ => none

/-- What stands for itself in a bracket, or an escape. -/
def item? (flags : Flags) : List Char → Option (Escape × List Char)
  | [] => none
  | '\\' :: rest => Escape.read? flags rest
  | c :: rest => some (.literal c, rest)

/-- The characters from one to another; without Unicode they must belong to ASCII. -/
def range? (flags : Flags) (first last : Char) : Option CharSet :=
  if first ≤ last ∧ (flags.unicode ∨ isAscii last) then some (.range first last) else none

/-- The set of a single item. An assertion is none. -/
def single? (flags : Flags) : Escape → Option CharSet
  | .literal c => range? flags c c
  | .set chars => some chars
  | .assertion _ => none

/-- A character, range or escape in a bracket. A hyphen is one of a range unless the bracket closes or
another hyphen follows. -/
def rangeOrItem? (flags : Flags) (s : List Char) : Option (CharSet × List Char) :=
  (item? flags s).bind (fun (first, rest) =>
    let alone (rest : List Char) : Option (CharSet × List Char) :=
      (single? flags first).map (fun chars => (chars, rest))
    match skip flags rest with
    | '-' :: rest' =>
      let next := peek flags rest'
      if next = some ']' ∨ next = some '-' then alone ('-' :: rest')
      else
        match first, item? flags (skip flags rest') with
        | .literal a, some (.literal b, rest'') => (range? flags a b).map (fun chars => (chars, rest''))
        | _, _ => none
    | rest' => alone rest')

/-- The hyphens in front of a bracket's content, which stand for themselves, and the rest. -/
def leadingHyphens (flags : Flags) (s : List Char) : List SetPart × List Char :=
  match s with
  | '-' :: rest =>
    let (items, rest') := leadingHyphens flags (skip flags rest)
    ({ chars := .one '-' } :: items, rest')
  | _ => ([], s)
termination_by s.length
decreasing_by exact Nat.lt_succ_of_le (length_skip_le flags rest)

/-- What opens a bracket: whether it is negated, the items in front that stand for themselves, and the
rest. -/
def opening (flags : Flags) (s : List Char) : Bool × List SetPart × List Char :=
  let (negated, s) := match skip flags s with
    | '^' :: rest => (true, skip flags rest)
    | rest => (false, rest)
  match leadingHyphens flags s with
  | ([], ']' :: rest) => (negated, [{ chars := .one ']' }], skip flags rest)
  | (items, rest) => (negated, items, rest)

/-- The rest of a bracket and the text after it, where `room` is how many brackets more may be opened
within it. The arguments are the items since the last operation, and that operation with its left side. -/
def bracket? (flags : Flags) : Nat → Nat → Bool → List SetPart → Option (SetOperator × SetPart) → List Char →
    Option (SetPart × List Char)
  | 0, _, _, _, _, _ => none
  | fuel + 1, room, negated, items, pending, s =>
    let operation (op : SetOperator) (rest : List Char) : Option (SetPart × List Char) :=
      bracket? flags fuel room negated [] (some (op, combine flags pending items)) rest
    match skip flags s with
    | [] => none
    | '[' :: rest =>
      match asciiClass? rest with
      | some (chars, inverse, rest') =>
        (flags.foldOrCompl? inverse chars).bind (fun chars =>
          bracket? flags fuel room negated ({ chars } :: items) pending rest')
      | none =>
        if room = 0 then none
        else
          let (inner, first, rest') := opening flags rest
          (bracket? flags fuel (room - 1) inner first none rest').bind (fun (part, rest'') =>
            bracket? flags fuel room negated ({ part with depth := part.depth + 1 } :: items) pending rest'')
    | ']' :: rest =>
      let part := combine flags pending items
      (flags.foldOrCompl? negated part.chars).map (fun chars => ({ part with chars }, rest))
    | '&' :: '&' :: rest => operation .inter rest
    | '-' :: '-' :: rest => operation .diff rest
    | '~' :: '~' :: rest => operation .symmDiff rest
    | s' =>
      (rangeOrItem? flags s').bind (fun (chars, rest) =>
        bracket? flags fuel room negated ({ chars } :: items) pending rest)

/-- The set of a bracket after its opening sign, and the text after it. The first argument bounds the length
of the bracket. -/
def read? (fuel : Nat) (flags : Flags) (s : List Char) : Option (SetPart × List Char) :=
  let (negated, items, rest) := opening flags s
  (bracket? flags fuel nestingLimit negated items none rest).map (fun (part, rest') =>
    ({ part with depth := part.depth + 1 }, rest'))

end SetPart

end LogTagger.Pattern
