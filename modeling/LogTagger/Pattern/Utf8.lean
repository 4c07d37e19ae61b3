import LogTagger.Text.CharSet
import LogTagger.Text.Utf8

/-!
# Characters as octets

The octets of characters in UTF-8, and the stretches of characters as sequences of ranges of octets: a
stretch is divided until its characters are those whose octets lie, place by place, in ranges that do not
depend on each other.
-/

namespace LogTagger.Pattern

open LogTagger.Text (Span CharSet OctetRange)

/-- The octets of the character of a code point. -/
def octetsOf (n : Nat) : List UInt8 :=
  let tail (shift : Nat) : UInt8 := .ofNat (0x80 + (n >>> shift) % 0x40)
  if n < 0x80 then [.ofNat n]
  else if n < 0x800 then [.ofNat (0xC0 + (n >>> 6)), tail 0]
  else if n < 0x10000 then [.ofNat (0xE0 + (n >>> 12)), tail 6, tail 0]
  else [.ofNat (0xF0 + (n >>> 18)), tail 12, tail 6, tail 0]

/-- The octets of some characters. -/
def octetsOfChars (cs : List Char) : List UInt8 := cs.flatMap (fun c => octetsOf c.toNat)

/-- Where a stretch must be divided for its octets to be independent: the last code point of the first
part. The octets of the low `6 * k` bits are independent of the others if the bits above are those of the
whole stretch, or if the stretch begins and ends with all values of the low bits. -/
def alignedCut? (p : Span) (k : Nat) : Option Nat :=
  let block := 1 <<< (6 * k)
  if p.first / block = p.last / block then none
  else if p.first % block ≠ 0 then some (p.first / block * block + (block - 1))
  else if p.last % block ≠ block - 1 then some (p.last / block * block - 1)
  else none

/-- Where a stretch must be divided: at the surrogates, then where the number of octets changes, then
where the octets at the end depend on those before them. -/
def cut? (p : Span) : Option Nat :=
  if p.first < 0xE000 ∧ 0xD7FF < p.last then some 0xD7FF
  else
    match [0x7F, 0x7FF, 0xFFFF].find? (fun m => p.first ≤ m && m < p.last) with
    | some m => some m
    | none => if p.last ≤ 0x7F then none else [1, 2, 3].findSome? (alignedCut? p)

/-- The sequences of ranges of octets of a stretch, in ascending order. The first argument bounds the depth
of the division. -/
def octetSequences : Nat → Span → List (List OctetRange)
  | 0, _ => []
  | fuel + 1, p =>
    if p.last < p.first then []
    else
      match cut? p with
      | some m =>
        octetSequences fuel ⟨p.first, m⟩ ++ octetSequences fuel ⟨if m = 0xD7FF then 0xE000 else m + 1, p.last⟩
      | none => [List.zipWith OctetRange.mk (octetsOf p.first) (octetsOf p.last)]

/-- The sequences of ranges of octets of a set. A stretch is divided at most at the surrogates, at three
numbers of octets and at two ends for each of three places. -/
def sequencesOf (s : CharSet) : List (List OctetRange) := s.spans.flatMap (octetSequences 16)

end LogTagger.Pattern
