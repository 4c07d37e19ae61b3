import LogTagger.Pattern.Automaton
import LogTagger.Pattern.Bracket

/-!
# Reading patterns

The syntax of patterns: alternatives, sequences, groups with names and flags, counted and uncounted
repetition, sets in brackets, assertions and escapes. There is neither look-around nor back-reference. A
text that is not of this syntax, that nests deeper than `nestingLimit`, or whose automata would be too
large has no expression.
-/

namespace LogTagger.Pattern

open LogTagger.Text (CharSet Category)

/-- What has been settled by the pattern so far. -/
structure Context where
  /-- The flags. -/
  flags : Flags := {}
  /-- The names of groups. -/
  names : List String := []
  /-- The number of groups that capture. -/
  groups : Nat := 0

/-- A part of an expression. -/
structure Piece where
  /-- The expression. -/
  regex : Regex
  /-- How deep the part nests. -/
  depth : Nat := 0
  /-- Whether a repetition may follow; none may follow flags. -/
  repeatable : Bool := true

namespace Parser

open Scanner

/-! ### Repetition -/

/-- Repeats the last part of a sequence, whose parts come the last one first. -/
def repeatLast? (flags : Flags) (least : Nat) (most : Option Nat) (reluctant : Bool) :
    List Piece → Option (List Piece)
  | p :: ps =>
    if p.repeatable then
      some ({ regex := p.regex.repetition least most (flags.reluctant == reluctant), depth := p.depth + 1 } :: ps)
    else none
  | [] => none

/-! ### Groups -/

/-- Whether a character may stand in the name of a group. -/
def isNameChar (first : Bool) (c : Char) : Bool :=
  c == '_' || Text.Property.alphabetic.mem c ||
    (!first && (c == '.' || c == '[' || c == ']' || (Category.chars Category.numbers).mem c))

/-- The name of a group up to the bracket that closes it. -/
def groupName? (names : List String) (s : List Char) : Option (String × List Char) :=
  let name := s.takeWhile (· != '>')
  match name, s.drop name.length with
  | c :: cs, _ :: rest =>
    let text := String.ofList name
    if isNameChar true c && cs.all (isNameChar false) && !names.contains text then some (text, rest) else none
  | _, _ => none

/-- The flags with one of them set or cleared. -/
def setFlag? (flags : Flags) (on : Bool) (c : Char) : Option Flags :=
  match c with
  | 'i' => some { flags with caseless := on }
  | 'm' => some { flags with multiLine := on }
  | 's' => some { flags with dotAll := on }
  | 'U' => some { flags with reluctant := on }
  | 'u' => some { flags with unicode := on }
  | 'R' => some { flags with carriageReturns := on }
  | 'x' => some { flags with verbose := on }
  | _ => none

/-- The flags in front of a colon or closing parenthesis: each at most once, after at most one minus
sign, which needs a flag after it. -/
def flags? : Flags → List Char → List Char → Option (Flags × List Char × List Char)
  | _, _, [] => none
  | flags, seen, c :: rest =>
    if c == ':' || c == ')' then
      if seen.head? == some '-' then none else some (flags, seen, c :: rest)
    else if seen.contains c then none
    else if c == '-' then flags? flags (c :: seen) rest
    else (setFlag? flags (!seen.contains '-') c).bind (fun flags => flags? flags (c :: seen) rest)

/-- What stands after an opening parenthesis. -/
inductive GroupStart where
  /-- Flags for the rest of the group around. -/
  | flagsOnly (flags : Flags)
  /-- A group that captures, and its name. -/
  | capturing (name : Option String)
  /-- A group that does not capture, with the flags inside it. -/
  | plain (flags : Flags)

/-- The start of a group and the text after it. -/
def groupStart? (ctx : Context) (s : List Char) : Option (GroupStart × List Char) :=
  let named (rest : List Char) : Option (GroupStart × List Char) :=
    (groupName? ctx.names rest).map (fun (n, rest') => (.capturing (some n), rest'))
  match skip ctx.flags s with
  | '?' :: 'P' :: '<' :: rest => named rest
  | '?' :: '=' :: _ => none
  | '?' :: '!' :: _ => none
  | '?' :: '<' :: '=' :: _ => none
  | '?' :: '<' :: '!' :: _ => none
  | '?' :: '<' :: rest => named rest
  | '?' :: rest =>
    match flags? ctx.flags [] rest with
    | some (flags, seen, ')' :: rest') => if seen.isEmpty then none else some (.flagsOnly flags, rest')
    | some (flags, _, _ :: rest') => some (.plain flags, rest')
    | _ => none
  | rest => some (.capturing none, rest)

/-! ### Sequences and alternatives -/

/-- The set of the dot, which without Unicode would take parts of characters. -/
def dot? (flags : Flags) : Option CharSet :=
  if !flags.unicode then none
  else if flags.dotAll then some .all
  else some (CharSet.ofText (if flags.carriageReturns then "A D" else "A")).compl

/-- A character of a pattern as an expression. -/
def literal (flags : Flags) (c : Char) : Regex := .ofSet (flags.fold (.one c))

/-- The single part in front of a text. -/
def primitive? (flags : Flags) : List Char → Option (Piece × List Char)
  | [] => none
  | '.' :: rest => (dot? flags).map (fun chars => ({ regex := .ofSet chars }, rest))
  | '^' :: rest =>
    some ({ regex := .assertion (if flags.multiLine then .lineStart flags.carriageReturns else .textStart) }, rest)
  | '$' :: rest =>
    some ({ regex := .assertion (if flags.multiLine then .lineEnd flags.carriageReturns else .textEnd) }, rest)
  | '\\' :: rest =>
    (Escape.read? flags rest).map (fun (e, rest') =>
      match e with
      | .literal c => ({ regex := literal flags c }, rest')
      | .set chars => ({ regex := .ofSet chars }, rest')
      | .assertion a => ({ regex := .assertion a }, rest'))
  | c :: rest => some ({ regex := literal flags c }, rest)

/-- The parts of a sequence, the last one first, as one part. -/
def sequence : List Piece → Piece
  | [] => { regex := .empty }
  | [p] => { p with repeatable := true }
  | ps => { regex := .concat (ps.reverse.map Piece.regex), depth := (ps.map Piece.depth).foldl max 0 + 1 }

/-- The alternatives, the last one first, as one part. -/
def alternatives : List Piece → Piece
  | [] => { regex := .empty }
  | [p] => p
  | ps => { regex := .alternation (ps.reverse.map Piece.regex), depth := (ps.map Piece.depth).foldl max 0 + 1 }

/-- The context inside a group that captures. -/
def Context.capture (ctx : Context) (name : Option String) : Context :=
  { ctx with names := name.toList ++ ctx.names, groups := ctx.groups + 1 }

/-- The alternatives in front of a text, up to its end or a closing parenthesis, where `room` is how many
groups more may be opened within them. The arguments are the parts of the current sequence and the
alternatives before it, each the last one first. -/
def expression? : Nat → Nat → Context → List Piece → List Piece → List Char → Option (Piece × Context × List Char)
  | 0, _, _, _, _, _ => none
  | fuel + 1, room, ctx, parts, before, s =>
    let repeated (least : Nat) (most : Option Nat) (rest : List Char) : Option (Piece × Context × List Char) :=
      let (reluctant, rest') := reluctance rest
      (repeatLast? ctx.flags least most reluctant parts).bind (fun parts' =>
        expression? fuel room ctx parts' before rest')
    let inner (inside : Context) (rest : List Char) : Option (Piece × Context × List Char) :=
      if room = 0 then none else expression? fuel (room - 1) inside [] [] rest
    match skip ctx.flags s with
    | [] => some (alternatives (sequence parts :: before), ctx, [])
    | ')' :: rest => some (alternatives (sequence parts :: before), ctx, ')' :: rest)
    | '|' :: rest => expression? fuel room ctx [] (sequence parts :: before) rest
    | '?' :: rest => repeated 0 (some 1) rest
    | '*' :: rest => repeated 0 none rest
    | '+' :: rest => repeated 1 none rest
    | '\x7b' :: rest =>
      (bounds? ctx.flags rest).bind (fun ((least, most), rest') => repeated least most (skip ctx.flags rest'))
    | '[' :: rest =>
      (SetPart.read? fuel ctx.flags rest).bind (fun (part, rest') =>
        expression? fuel room ctx ({ regex := .ofSet part.chars, depth := part.depth } :: parts) before rest')
    | '(' :: rest =>
      match groupStart? ctx rest with
      | none => none
      | some (.flagsOnly flags, rest') =>
        expression? fuel room { ctx with flags } ({ regex := .empty, repeatable := false } :: parts) before rest'
      | some (.capturing name, rest') =>
        match inner (Context.capture ctx name) rest' with
        | some (p, inside, ')' :: rest'') =>
          let part : Piece := { regex := .group (ctx.groups + 1) p.regex, depth := p.depth + 1 }
          expression? fuel room { inside with flags := ctx.flags } (part :: parts) before rest''
        | _ => none
      | some (.plain flags, rest') =>
        match inner { ctx with flags } rest' with
        | some (p, inside, ')' :: rest'') =>
          let part : Piece := { regex := p.regex, depth := p.depth + 1 }
          expression? fuel room { inside with flags := ctx.flags } (part :: parts) before rest''
        | _ => none
    | s' => (primitive? ctx.flags s').bind (fun (p, rest) => expression? fuel room ctx (p :: parts) before rest)

end Parser

/-- The expression of a pattern. -/
def Regex.ofPattern? (pattern : String) : Option Regex :=
  let s := pattern.toList
  match Parser.expression? (2 * s.length + 2) nestingLimit {} [] [] s with
  | some (p, _, []) => if p.depth ≤ nestingLimit ∧ !p.regex.isTooLarge then some p.regex else none
  | _ => none

end LogTagger.Pattern
