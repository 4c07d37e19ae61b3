/-!
# Lines

Octets split after newlines. `splitLines` gives the lines that have ended and what follows the last
newline, so that octets which arrive in pieces can be treated line by line. The octets of a line may
or may not be text in UTF-8; `mend` makes text of any octets.
-/

namespace LogTagger.Text

/-- The lines that have ended, with their newlines, and the octets after the last newline. -/
def splitLines : List UInt8 → List (List UInt8) × List UInt8
  | [] => ([], [])
  | o :: rest =>
    if o = 10 then ([10] :: (splitLines rest).1, (splitLines rest).2)
    else
      match splitLines rest with
      | ([], tail) => ([], o :: tail)
      | (line :: others, tail) => ((o :: line) :: others, tail)

/-- All lines; the last one need not have ended, but has an octet. -/
def lines (octets : List UInt8) : List (List UInt8) :=
  let (ended, tail) := splitLines octets
  if tail.isEmpty then ended else ended ++ [tail]

/-- The first line, if it has ended, and the octets after its newline. -/
def firstLine? (octets : List UInt8) : Option (List UInt8 × List UInt8) :=
  let line := octets.takeWhile (· != 10)
  match octets.drop line.length with
  | [] => none
  | _ :: rest => some (line, rest)

/-! ### Text in octets -/

/-- The text of octets, if they are UTF-8. -/
def ofOctets? (octets : List UInt8) : Option String := String.fromUTF8? ⟨octets.toArray⟩

/-- The octets of the character in front of octets, if there is one. -/
def frontChar? (octets : List UInt8) : Option (List UInt8) :=
  ([1, 2, 3, 4].map octets.take).find? (fun front => (ofOctets? front).isSome)

/-- The octets of a text that has a replacement character for each octet outside of any character;
each round of fuel takes one character. -/
def mendWith : Nat → List UInt8 → List UInt8
  | 0, _ => []
  | _ + 1, [] => []
  | fuel + 1, o :: rest =>
    match frontChar? (o :: rest) with
    | some front => front ++ mendWith fuel ((o :: rest).drop front.length)
    | none => "\ufffd".toUTF8.toList ++ mendWith fuel rest

/-- The octets of a text that has a replacement character for each octet outside of any character. -/
def mend (octets : List UInt8) : List UInt8 := mendWith octets.length octets

end LogTagger.Text
