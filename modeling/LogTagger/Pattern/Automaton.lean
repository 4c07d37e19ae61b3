import Std.Data.HashMap
import LogTagger.Pattern.Regex
import LogTagger.Pattern.Utf8

/-!
# The size of automata

An expression is matched by an automaton over octets, and by another one that runs backwards. What an
automaton takes in memory is counted by building it: a state takes 32 octets, each transition of a state
that has several takes 8, and each branch of a state that has several takes 4. A part that is to be
repeated is built as often as it may count. An expression whose automata take more than `sizeLimit` is
refused (`Regex.isTooLarge`), unless it is nothing but very many literals, which need no automaton.

Only the counts are kept (`Tally`). The number of a state matters where states are shared: the states of a
set of characters are looked up in a table with a fixed number of slots, by a hash of the states they lead
to, and a state that has lost its slot to another is built again.
-/

namespace LogTagger.Pattern

open LogTagger.Text (CharSet OctetRange)

/-- The memory that an automaton may take, in octets. -/
def sizeLimit : Nat := 10 * 1024 * 1024

/-- How much of an automaton has been built. -/
structure Tally where
  /-- The number of states, which is the number of the next one. -/
  states : Nat := 0
  /-- The octets that transitions and branches take. -/
  links : Nat := 0

namespace Tally

/-- The memory taken so far. -/
def octets (t : Tally) : Nat := 32 * t.states + t.links

/-- Whether the automaton has grown too large; it does not shrink again. -/
def isFull (t : Tally) : Bool := sizeLimit < t.octets

/-- Some states more that have one transition or none. -/
def add (t : Tally) (n : Nat) : Tally := { t with states := t.states + n }

/-- A state more with several transitions. -/
def addTransitions (t : Tally) (n : Nat) : Tally := { states := t.states + 1, links := t.links + 8 * n }

/-- Some branches more. -/
def addBranches (t : Tally) (n : Nat) : Tally := { t with links := t.links + 4 * n }

/-- A link from the end of a part: if that state has branches, the link is one more. -/
def leave (t : Tally) (branching : Bool) : Tally := if branching then t.addBranches 1 else t

end Tally

/-! ### Sets of characters -/

/-- A transition: a range of octets and the number of the state after it. -/
structure Transition where
  /-- The octets. -/
  octets : OctetRange
  /-- The state after them. -/
  next : Nat
  deriving DecidableEq

/-- A hash of some numbers. -/
def hashNumbers (ns : List UInt64) : UInt64 :=
  ns.foldl (fun h n => (h ^^^ n) * 1099511628211) 14695981039346656037

/-- The slot of a state by its transitions. -/
def slotOf (slots : Nat) (transitions : List Transition) : Nat :=
  (hashNumbers (transitions.flatMap (fun t =>
    [t.octets.first.toUInt64, t.octets.last.toUInt64, .ofNat t.next]))).toNat % slots

/-- A table of states that have been built, each in the slot of its key. -/
abbrev Built (κ : Type) : Type := Std.HashMap Nat (κ × Nat)

/-- The state with a key, if it is still in its slot. -/
def Built.find? {κ : Type} [DecidableEq κ] (built : Built κ) (slot : Nat) (key : κ) : Option Nat :=
  (built.get? slot).bind (fun (k, state) => if k = key then some state else none)

namespace Forward

/-- A state that is not finished yet: its transitions, the last one first, and the octets of the one whose
target is not known yet. -/
structure Draft where
  /-- The transitions. -/
  transitions : List Transition := []
  /-- The octets that are open. -/
  pending : Option OctetRange := none

/-- The states built for a set so far. -/
structure Progress where
  /-- The automaton. -/
  tally : Tally
  /-- The states that may be shared. -/
  built : Built (List Transition) := ∅

/-- The number of slots. -/
def slots : Nat := 10000

/-- A draft whose open octets lead to a state. -/
def Draft.close (d : Draft) (next : Nat) : Draft :=
  match d.pending with
  | some octets => { transitions := ⟨octets, next⟩ :: d.transitions }
  | none => d

/-- The state with the transitions of a draft, which is built if there is none. -/
def finish (d : Draft) (p : Progress) : Nat × Progress :=
  let transitions := d.transitions.reverse
  let slot := slotOf slots transitions
  match p.built.find? slot transitions with
  | some state => (state, p)
  | none =>
    let state := p.tally.states
    (state, { tally := p.tally.addTransitions transitions.length, built := p.built.insert slot (transitions, state) })

/-- Finishes drafts on one path, the last one leading to the target. -/
def finishPath (target : Nat) : List Draft → Progress → Nat × Progress
  | [], p => (target, p)
  | d :: rest, p =>
    let (next, p) := finishPath target rest p
    finish (d.close next) p

/-- Adds a sequence of octets to a path of drafts: what both start with is kept, the drafts beyond are
finished. -/
def addSequence (target : Nat) : List Draft → List OctetRange → Progress → List Draft × Progress
  | d :: rest, r :: more, p =>
    if d.pending = some r then
      let (path, p) := addSequence target rest more p
      (d :: path, p)
    else
      let (next, p) := finishPath target rest p
      ({ d.close next with pending := some r } :: more.map (fun r => { pending := some r }), p)
  | path, _, p => (path, p)

/-- The states of a set. -/
def addSet (sequences : List (List OctetRange)) (t : Tally) : Tally :=
  let target := t.states
  let start : List Draft × Progress := ([{}], { tally := t.add 1 })
  let (path, p) := sequences.foldl (fun sofar s =>
    if sofar.2.tally.isFull then sofar else addSequence target sofar.1 s sofar.2) start
  (finishPath target path p).2.tally

end Forward

namespace Backward

/-- The states built for a set so far. -/
structure Progress where
  /-- The automaton. -/
  tally : Tally
  /-- The states that may be shared. -/
  built : Built Transition := ∅

/-- The number of slots. -/
def slots : Nat := 1000

/-- The slot of a state by its transition. -/
def slot (t : Transition) : Nat :=
  (hashNumbers [.ofNat t.next, t.octets.first.toUInt64, t.octets.last.toUInt64]).toNat % slots

/-- Adds a state for a range of octets before a state, unless there is one. -/
def addRange (next : Nat) (p : Progress) (octets : OctetRange) : Nat × Progress :=
  let key : Transition := ⟨octets, next⟩
  match p.built.find? (slot key) key with
  | some state => (state, p)
  | none =>
    let state := p.tally.states
    (state, { tally := p.tally.add 1, built := p.built.insert (slot key) (key, state) })

/-- Adds a sequence of octets as one more branch. -/
def addSequence (last : Nat) (s : List OctetRange) (p : Progress) : Progress :=
  let (_, p) := s.foldl (fun (next, p) octets => addRange next p octets) (last, p)
  { p with tally := p.tally.addBranches 1 }

/-- The states of a set: one that branches, the last one, and those between. -/
def addSet (sequences : List (List OctetRange)) (t : Tally) : Tally :=
  let last := t.states + 1
  let start : Progress := { tally := t.add 2 }
  (sequences.foldl (fun p s => if p.tally.isFull then p else addSequence last s p) start).tally

end Backward

/-- The states of a set. Within ASCII they are two: one with a transition for each stretch, and the last. -/
def Tally.addSet (backward : Bool) (s : CharSet) (t : Tally) : Tally :=
  if s.isAscii then (t.add 1).addTransitions s.spans.length
  else if backward then Backward.addSet (sequencesOf s) t
  else Forward.addSet (sequencesOf s) t

/-! ### Literals -/

/-- Groups literals by their first octets, in the order of their first appearance. -/
def groupByFirst (literals : List (List UInt8)) : List (List (List UInt8)) :=
  (literals.filterMap List.head?).eraseDups.map (fun octet =>
    literals.filterMap (fun
      | first :: rest => if first = octet then some rest else none
      | [] => none))

/-- Divides literals where one ends. Where several end before anything goes on, that is one end. -/
def divideAtEnds (literals : List (List UInt8)) : List (List (List UInt8)) :=
  let rest := literals.dropWhile List.isEmpty
  let literals := if rest.length = literals.length then rest else [] :: rest
  literals.foldr (fun l parts =>
    match l, parts with
    | [], parts => [] :: parts
    | l, part :: more => (l :: part) :: more
    | l, [] => [[l]]) [[]]

/-- The states of literals as alternatives, sharing what they start with: a state that branches for what
ends here and for what goes on before and after that, and a state with transitions for each that goes on.
The first argument bounds the lengths. -/
def addLiterals : Nat → List (List UInt8) → Tally → Tally
  | 0, _, t => t
  | fuel + 1, literals, t =>
    if t.isFull then t
    else
      let parts := divideAtEnds literals
      let addPart (t : Tally) (part : List (List UInt8)) : Tally :=
        let groups := groupByFirst part
        let t := groups.foldl (fun t group =>
          if group.all List.isEmpty then t else addLiterals fuel group t) t
        if groups.isEmpty then t
        else if groups.length = 1 then (t.add 1).addBranches 1
        else (t.addTransitions groups.length).addBranches 1
      ((parts.foldl addPart t).add 1).addBranches (parts.length - 1)

/-- The octets of a literal. -/
def literalOctets? (backward : Bool) : Regex → Option (List UInt8)
  | .literal cs => some (if backward then (octetsOfChars cs).reverse else octetsOfChars cs)
  | _ => none

/-! ### Expressions -/

/-- Adds a part some times, each time after the one before. With the automaton goes whether its last state
so far has branches. -/
def addTimes (part : Tally → Bool × Tally) : Nat → Bool × Tally → Bool × Tally
  | 0, built => built
  | n + 1, (branching, t) =>
    if t.isFull then (branching, t)
    else
      let (branching', t) := part t
      addTimes part n (branching', t.leave branching)

/-- Adds a part some times, each time after the one before; one state if it is never. -/
def addExactly (part : Tally → Bool × Tally) : Nat → Tally → Bool × Tally
  | 0, t => (false, t.add 1)
  | n + 1, t => addTimes part n (part t)

/-- Adds a part that may be left out, some times. -/
def addOptions (part : Tally → Bool × Tally) : Nat → Bool × Tally → Bool × Tally
  | 0, built => built
  | n + 1, (branching, t) =>
    if t.isFull then (branching, t)
    else
      let (branching', t) := part (t.add 1)
      addOptions part n (branching', (t.leave branching).addBranches 2)

/-- Adds a part that comes back to itself: `nullable` tells whether it has an empty match. -/
def addLoop (part : Tally → Bool × Tally) (nullable : Bool) : Nat → Tally → Bool × Tally
  | 0, t =>
    if nullable then
      let (branching, t) := part t
      (false, ((t.leave branching).add 3).addBranches 4)
    else
      let (branching, t) := part (t.add 1)
      (true, (t.leave branching).addBranches 1)
  | n + 1, t =>
    let (before, t) := if n = 0 then (false, t) else addExactly part n t
    let (branching, t) := part t
    (true, (((t.leave before).leave branching).add 1).addBranches 1)

mutual

/-- Adds an expression to an automaton. With the automaton goes whether the last state of the part has
branches, so that a link from it takes memory. -/
def addRegex (backward : Bool) : Regex → Tally → Bool × Tally
  | .empty, t => (false, t.add 1)
  | .assertion _, t => (false, t.add 1)
  | .literal cs, t => (false, t.add (octetsOfChars cs).length)
  | .set chars, t => (false, t.addSet backward chars)
  | .group _ r, t =>
    if backward then addRegex backward r t
    else
      let (branching, t) := addRegex backward r (t.add 1)
      (false, (t.add 1).leave branching)
  | .seq parts, t => addSeq backward parts t
  | .alt branches, t =>
    match branches.mapM (literalOctets? backward) with
    | some literals => (false, addLiterals literals.flatten.length.succ literals (t.add 1))
    | none => (false, addBranches backward branches 0 t)
  | .repeated r least most _, t =>
    let part (t : Tally) : Bool × Tally := addRegex backward r t
    match most with
    | none => addLoop part (r.minLength?.all (· == 0)) least t
    | some n =>
      if n = least then addExactly part n t
      else if least = 0 ∧ n = 1 then
        let (branching, t) := part (t.add 1)
        (false, ((t.add 1).addBranches 2).leave branching)
      else
        let (branching, t) := addExactly part least t
        let (branching, t) := addOptions part (n - least) (branching, t.add 1)
        (false, t.leave branching)

/-- Adds expressions one after the other, or the other way round. -/
def addSeq (backward : Bool) : List Regex → Tally → Bool × Tally
  | [], t => (false, t.add 1)
  | [r], t => addRegex backward r t
  | r :: rest, t =>
    if t.isFull then (false, t)
    else if backward then
      let (branching, t) := addSeq backward rest t
      let (branching', t) := addRegex backward r t
      (branching', t.leave branching)
    else
      let (branching, t) := addRegex backward r t
      let (branching', t) := addSeq backward rest t
      (branching', t.leave branching)

/-- Adds alternatives, of which some have been added before. The state that branches and the last one come
after the second. -/
def addBranches (backward : Bool) : List Regex → Nat → Tally → Tally
  | [], _, t => t
  | r :: rest, before, t =>
    if t.isFull then t
    else
      let (branching, t) := addRegex backward r t
      let t := (t.leave branching).addBranches 1
      addBranches backward rest (before + 1) (if before = 1 then t.add 2 else t)

end

/-- The states in front of an automaton: one that goes on, or, if a match can be anywhere, a loop over
octets. -/
def Tally.leading (anywhere : Bool) : Tally :=
  if anywhere then { states := 3, links := 8 + 4 } else { states := 1 }

namespace Regex

/-- The automaton that runs forwards. Its match is a group of its own. -/
def forwardTally (r : Regex) : Tally :=
  let anywhere := !r.startsText
  let (branching, t) := addRegex false r ((Tally.leading anywhere).add 1)
  ((t.add 2).leave branching).leave anywhere

/-- The automaton that runs backwards. -/
def backwardTally (r : Regex) : Tally :=
  let anywhere := !r.endsText
  let (branching, t) := addRegex true r (Tally.leading anywhere)
  ((t.add 1).leave branching).leave anywhere

/-- The number of literals from which on alternatives that are nothing else need no automaton. -/
def manyLiterals : Nat := 3000

/-- Whether the expression is found by comparing literals alone. -/
def isDictionary : Regex → Bool
  | .alt branches => manyLiterals ≤ branches.length && branches.all (fun r => (literalOctets? false r).isSome)
  | _ => false

/-- Whether an automaton for the expression takes too much memory. -/
def isTooLarge (r : Regex) : Bool := !r.isDictionary && (r.forwardTally.isFull || r.backwardTally.isFull)

end Regex

end LogTagger.Pattern
