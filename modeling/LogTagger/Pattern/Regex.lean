import LogTagger.Text.Property

/-!
# Regular expressions

Regular expressions over characters with assertions about the place between two characters. They are
kept simplified: `Regex.concat`, `Regex.alternation` and `Regex.repetition` join literals, flatten
sequences and alternatives, turn alternatives of single characters into a set, and take out what is
repeated without effect. A matcher follows all places at once: `Regex.reach` takes the places at which a
match may start to those at which it may end. What an expression would capture, and how much of a text a
match would take, does not matter: only whether a text has a match somewhere.
-/

namespace LogTagger.Pattern

open LogTagger.Text (CharSet)

/-- A condition on a place in a text. -/
inductive Assertion where
  /-- The start of the text. -/
  | textStart
  /-- The end of the text. -/
  | textEnd
  /-- The start of a line; lines may also end with a carriage return. -/
  | lineStart (carriageReturns : Bool)
  /-- The end of a line. -/
  | lineEnd (carriageReturns : Bool)
  /-- A word on exactly one side. Words are made of word characters, of ASCII or of Unicode. -/
  | wordBoundary (ascii : Bool)
  /-- A word on both sides or on neither. -/
  | noWordBoundary (ascii : Bool)
  /-- The start of a word. -/
  | wordStart (ascii : Bool)
  /-- The end of a word. -/
  | wordEnd (ascii : Bool)
  /-- No word before the place. -/
  | noWordBefore (ascii : Bool)
  /-- No word after the place. -/
  | noWordAfter (ascii : Bool)
  deriving DecidableEq

/-- A regular expression. -/
inductive Regex where
  /-- The empty text. -/
  | empty
  /-- Some characters in order; at least one. -/
  | literal (text : List Char)
  /-- One character of a set. -/
  | set (chars : CharSet)
  /-- The empty text at a place of some kind. -/
  | assertion (a : Assertion)
  /-- Again and again, `least` times or more, up to `most` times if there is a bound; as often as
  possible or as seldom. -/
  | repeated (r : Regex) (least : Nat) (most : Option Nat) (greedy : Bool)
  /-- A group by its number. -/
  | group (number : Nat) (r : Regex)
  /-- One after the other. -/
  | seq (parts : List Regex)
  /-- One or another. -/
  | alt (branches : List Regex)

/-! ### Places -/

/-- Two ascending lists of places as one. -/
def mergePlaces : List Nat → List Nat → List Nat
  | [], bs => bs
  | as, [] => as
  | a :: as, b :: bs =>
    if a < b then a :: mergePlaces as (b :: bs)
    else if b < a then b :: mergePlaces (a :: as) bs
    else a :: mergePlaces as bs
termination_by as bs => as.length + bs.length

/-- Applies a step a number of times, but not beyond the first time it changes nothing. -/
def repeatStep (step : List Nat → List Nat) : Nat → List Nat → List Nat
  | 0, places => places
  | n + 1, places =>
    let next := step places
    if next = places then places else repeatStep step n next

/-- Whether some characters stand at a place of a text. -/
def standsAt (text : Array Char) : List Char → Nat → Bool
  | [], _ => true
  | c :: rest, i => text[i]? == some c && standsAt text rest (i + 1)

namespace Assertion

/-- Whether a character of ASCII may stand in a word. -/
def isAsciiWord (c : Char) : Bool := c.isAlphanum || c == '_'

/-- Whether there is a word character that belongs to ASCII or to Unicode. -/
def word (ascii : Bool) (c : Option Char) : Bool :=
  c.any (fun c => isAsciiWord c || (!ascii && Text.Property.word.mem c))

/-- Whether the condition holds between the character before a place and the one after it. -/
def holds (a : Assertion) (before after : Option Char) : Bool :=
  match a with
  | .textStart => before.isNone
  | .textEnd => after.isNone
  | .lineStart false => before.all (· == '\n')
  | .lineStart true => before.all (fun c => c == '\n' || (c == '\r' && after != some '\n'))
  | .lineEnd false => after.all (· == '\n')
  | .lineEnd true => after.all (fun c => c == '\r' || (c == '\n' && before != some '\r'))
  | .wordBoundary ascii => word ascii before != word ascii after
  | .noWordBoundary ascii => word ascii before == word ascii after
  | .wordStart ascii => !word ascii before && word ascii after
  | .wordEnd ascii => word ascii before && !word ascii after
  | .noWordBefore ascii => !word ascii before
  | .noWordAfter ascii => !word ascii after

end Assertion

namespace Regex

/-! ### Matching -/

mutual

/-- The places at which a match may end that starts at one of the given places. -/
def reach (text : Array Char) : Regex → List Nat → List Nat
  | .empty, places => places
  | .literal cs, places => (places.filter (standsAt text cs)).map (· + cs.length)
  | .set chars, places => (places.filter (fun i => text[i]?.any chars.mem)).map (· + 1)
  | .assertion a, places => places.filter (fun i => a.holds (if i = 0 then none else text[i - 1]?) text[i]?)
  | .repeated r least most _, places =>
    repeatStep (fun ps => mergePlaces ps (reach text r ps))
      (match most with
        | none => text.size + 1
        | some n => n - least)
      (repeatStep (reach text r) least places)
  | .group _ r, places => reach text r places
  | .seq parts, places => reachSeq text parts places
  | .alt branches, places => reachAlt text branches places

/-- The same for expressions one after the other. -/
def reachSeq (text : Array Char) : List Regex → List Nat → List Nat
  | [], places => places
  | r :: rest, places => reachSeq text rest (reach text r places)

/-- The same for one of some expressions. -/
def reachAlt (text : Array Char) : List Regex → List Nat → List Nat
  | [], _ => []
  | r :: rest, places => mergePlaces (reach text r places) (reachAlt text rest places)

end

/-- Whether the expression has a match somewhere in a text. -/
def matchesIn (r : Regex) (text : String) : Bool :=
  let chars := text.toList.toArray
  !(r.reach chars (List.range (chars.size + 1))).isEmpty

/-! ### Lengths

The lengths of matches are in octets of UTF-8. An expression that no text matches has neither a least nor
a greatest length. -/

/-- The number of octets of some characters. -/
def octetCount (cs : List Char) : Nat := cs.foldr (fun c n => c.utf8Size + n) 0

mutual

/-- The least length of a match. -/
def minLength? : Regex → Option Nat
  | .empty | .assertion _ => some 0
  | .literal cs => some (octetCount cs)
  | .set chars => chars.spans.head?.map (fun p => (Char.ofNat p.first).utf8Size)
  | .repeated r least _ _ => r.minLength?.map (· * least)
  | .group _ r => r.minLength?
  | .seq parts => minLengthSeq? parts
  | .alt branches => minLengthAlt? branches

/-- The sum of the least lengths. -/
def minLengthSeq? : List Regex → Option Nat
  | [] => some 0
  | r :: rest => r.minLength?.bind (fun n => (minLengthSeq? rest).map (n + ·))

/-- The least of the least lengths. -/
def minLengthAlt? : List Regex → Option Nat
  | [] => none
  | [r] => r.minLength?
  | r :: rest => r.minLength?.bind (fun n => (minLengthAlt? rest).map (min n))

end

mutual

/-- The greatest length of a match, if there is a bound. -/
def maxLength? : Regex → Option Nat
  | .empty | .assertion _ => some 0
  | .literal cs => some (octetCount cs)
  | .set chars => chars.spans.getLast?.map (fun p => (Char.ofNat p.last).utf8Size)
  | .repeated r _ most _ => most.bind (fun n => r.maxLength?.map (· * n))
  | .group _ r => r.maxLength?
  | .seq parts => maxLengthSeq? parts
  | .alt branches => maxLengthAlt? branches

/-- The sum of the greatest lengths. -/
def maxLengthSeq? : List Regex → Option Nat
  | [] => some 0
  | r :: rest => r.maxLength?.bind (fun n => (maxLengthSeq? rest).map (n + ·))

/-- The greatest of the greatest lengths. -/
def maxLengthAlt? : List Regex → Option Nat
  | [] => none
  | [r] => r.maxLength?
  | r :: rest => r.maxLength?.bind (fun n => (maxLengthAlt? rest).map (max n))

end

/-- Whether every match is empty. -/
def isEmptyOnly (r : Regex) : Bool := r.maxLength? == some 0

mutual

/-- Whether a match can only start at the start of the text. -/
def startsText : Regex → Bool
  | .assertion a => a == .textStart
  | .repeated r least _ _ => 0 < least && r.startsText
  | .group _ r => r.startsText
  | .seq parts => startsTextSeq parts
  | .alt branches => startsTextAlt branches
  | _ => false

/-- The same for a sequence: some part can, and those before it are empty. -/
def startsTextSeq : List Regex → Bool
  | [] => false
  | r :: rest => r.startsText || (r.isEmptyOnly && startsTextSeq rest)

/-- The same for alternatives: each one can. -/
def startsTextAlt : List Regex → Bool
  | [] => true
  | r :: rest => r.startsText && startsTextAlt rest

end

mutual

/-- Whether a match can only end at the end of the text. -/
def endsText : Regex → Bool
  | .assertion a => a == .textEnd
  | .repeated r least _ _ => 0 < least && r.endsText
  | .group _ r => r.endsText
  | .seq parts => endsTextSeq parts
  | .alt branches => endsTextAlt branches
  | _ => false

/-- The same for a sequence: some part can, and those after it are empty. -/
def endsTextSeq : List Regex → Bool
  | [] => false
  | r :: rest => endsTextSeq rest || (r.endsText && rest.all isEmptyOnly)

/-- The same for alternatives: each one can. -/
def endsTextAlt : List Regex → Bool
  | [] => true
  | r :: rest => r.endsText && endsTextAlt rest

end

/-! ### Simplification -/

mutual

/-- Whether two expressions are written alike. -/
def same : Regex → Regex → Bool
  | .empty, .empty => true
  | .literal a, .literal b => a == b
  | .set a, .set b => a == b
  | .assertion a, .assertion b => a == b
  | .repeated a least most greedy, .repeated b least' most' greedy' =>
    least == least' && most == most' && greedy == greedy' && same a b
  | .group m a, .group n b => m == n && same a b
  | .seq as, .seq bs => sameAll as bs
  | .alt as, .alt bs => sameAll as bs
  | _, _ => false

/-- The same for lists. -/
def sameAll : List Regex → List Regex → Bool
  | [], [] => true
  | a :: as, b :: bs => same a b && sameAll as bs
  | _, _ => false

end

/-- One character of a set; a set of one is a literal. -/
def ofSet (chars : CharSet) : Regex :=
  match chars.single? with
  | some c => .literal [c]
  | none => .set chars

/-- Joins literals that stand side by side. -/
def joinLiterals : List Regex → List Regex
  | [] => []
  | r :: rest =>
    match r, joinLiterals rest with
    | .literal a, .literal b :: rest' => .literal (a ++ b) :: rest'
    | r, rest' => r :: rest'

/-- Expressions one after the other. -/
def concat (parts : List Regex) : Regex :=
  match joinLiterals (parts.flatMap (fun
    | .seq inner => inner
    | .empty => []
    | r => [r])) with
  | [] => .empty
  | [r] => r
  | rs => .seq rs

/-- The characters of a literal of one character or of a set. -/
def singles? (literals : Bool) : Regex → Option CharSet
  | .literal [c] => if literals then some (.one c) else none
  | .set chars => if literals then none else some chars
  | _ => none

/-- Flat alternatives as one expression: single characters, and sets, become one set. -/
def ofBranches : List Regex → Regex
  | [] => .set ∅
  | [r] => r
  | rs =>
    match (rs.mapM (singles? true)).orElse (fun _ => rs.mapM (singles? false)) with
    | some sets => ofSet (.unions sets)
    | none => .alt rs

/-- Alternatives without alternatives among them. -/
def flatten (branches : List Regex) : List Regex :=
  branches.flatMap (fun
    | .alt inner => inner
    | r => [r])

/-- The part at the start that two lists have in common. -/
def commonStart : List Regex → List Regex → List Regex
  | a :: as, b :: bs => if same a b then a :: commonStart as bs else []
  | _, _ => []

/-- The parts of a sequence. -/
def parts? : Regex → Option (List Regex)
  | .seq parts => some parts
  | _ => none

/-- Alternatives. If all are sequences that start alike, that start comes before the alternatives of what
is left. -/
def alternation (branches : List Regex) : Regex :=
  match ofBranches (flatten branches) with
  | .alt rs =>
    match rs.mapM parts? with
    | some (first :: others) =>
      let start := others.foldl commonStart first
      if start.isEmpty then .alt rs
      else
        let rests := (first :: others).map (fun parts => concat (parts.drop start.length))
        concat (start ++ [ofBranches (flatten rests)])
    | _ => .alt rs
  | r => r

/-- Repetition. What only matches the empty text need not be repeated, and what is never or once repeated
is no repetition. -/
def repetition (r : Regex) (least : Nat) (most : Option Nat) (greedy : Bool) : Regex :=
  let (least, most) := if r.isEmptyOnly then (min least 1, some ((most.map (min · 1)).getD 1)) else (least, most)
  if most = some 0 then .empty
  else if least = 1 ∧ most = some 1 then r
  else .repeated r least most greedy

end Regex

end LogTagger.Pattern
