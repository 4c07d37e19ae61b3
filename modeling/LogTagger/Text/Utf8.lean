/-!
# Octets that are no text

Octets are a text if they are those of some characters in UTF-8. `faultOf` finds the place from which on they are
none: characters stand in front of it, and behind it stands an octet that fits into no character, or the octets end
before the character does.
-/

namespace LogTagger.Text

/-- The octets from one to another. -/
structure OctetRange where
  /-- The first octet. -/
  first : UInt8
  /-- The last octet. -/
  last : UInt8
  deriving DecidableEq

/-- Whether an octet lies in a range. -/
def OctetRange.contains (r : OctetRange) (o : UInt8) : Bool := r.first ≤ o && o ≤ r.last

/-- The octets of a character after the first two. -/
def tailRange : OctetRange := ⟨0x80, 0xbf⟩

/-- The second octets of characters with three that begin with an octet. Others would make a character that has two,
or a surrogate. -/
def secondOfThree (o : UInt8) : OctetRange := ⟨if o = 0xe0 then 0xa0 else 0x80, if o = 0xed then 0x9f else 0xbf⟩

/-- The second octets of characters with four that begin with an octet. Others would make a character that has three,
or go beyond the last one. -/
def secondOfFour (o : UInt8) : OctetRange := ⟨if o = 0xf0 then 0x90 else 0x80, if o = 0xf4 then 0x8f else 0xbf⟩

/-- The ranges of the octets that follow the first one of a character, if the octet is the first one of any. -/
def following? (o : UInt8) : Option (List OctetRange) :=
  if o < 0x80 then some []
  else if o < 0xc2 then none
  else if o < 0xe0 then some [tailRange]
  else if o < 0xf0 then some [secondOfThree o, tailRange]
  else if o < 0xf5 then some [secondOfFour o, tailRange, tailRange]
  else none

/-- The place from which on octets are no text. -/
structure Utf8Fault where
  /-- The number of octets in front of it. -/
  index : Nat
  /-- The number of octets that belong to no character; none if the octets end before the character does. -/
  length? : Option Nat
  deriving DecidableEq

/-- The wording of a fault. -/
def Utf8Fault.message (f : Utf8Fault) : String :=
  match f.length? with
  | some n => "invalid utf-8 sequence of " ++ toString n ++ " bytes from index " ++ toString f.index
  | none => "incomplete utf-8 byte sequence from index " ++ toString f.index

/-- The fault of octets that come after the beginning of a character: that is at an index, so many octets of the
character have been seen, and others are to follow in ranges. Octets without a fault have one at their end. -/
def faultFrom (index seen : Nat) : List OctetRange → List UInt8 → Utf8Fault
  | [], [] => ⟨index + seen, none⟩
  | _ :: _, [] => ⟨index, none⟩
  | [], o :: rest =>
    match following? o with
    | some ranges => faultFrom (index + seen) 1 ranges rest
    | none => ⟨index + seen, some 1⟩
  | r :: ranges, o :: rest => if r.contains o then faultFrom index (seen + 1) ranges rest else ⟨index, some seen⟩

/-- The fault of octets that are no text. -/
def faultOf (octets : List UInt8) : Utf8Fault := faultFrom 0 0 [] octets

end LogTagger.Text
