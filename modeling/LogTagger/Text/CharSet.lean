import LogTagger.Text.Digits

/-!
# Sets of characters

A set of characters is held as ascending stretches of code points that neither overlap nor meet, so
equal sets have equal stretches. Code points of surrogates are no characters: the one after U+D7FF is
U+E000, and a stretch that goes past both means only the characters in it.

The tables of the Unicode Character Database are written in two ways: as stretches in hexadecimal
(`CharSet.ofText`), and as runs that divide all code points (`readRuns`).
-/

namespace LogTagger.Text

/-- A stretch of characters by its first and last code points. -/
structure Span where
  /-- The first code point. -/
  first : Nat
  /-- The last code point. -/
  last : Nat
  deriving DecidableEq, Repr

/-- The greatest code point. -/
def lastPoint : Nat := 0x10FFFF

/-- The code point of the next character. -/
def nextPoint (n : Nat) : Nat := if n = 0xD7FF then 0xE000 else n + 1

/-- The code point of the character before. -/
def previousPoint (n : Nat) : Nat := if n = 0xE000 then 0xD7FF else n - 1

namespace Span

/-- Whether a code point lies in a stretch. -/
def contains (p : Span) (n : Nat) : Bool := p.first ≤ n && n ≤ p.last

/-- A stretch between characters: without surrogates at its ends, if anything is left. -/
def trimmed? (p : Span) : Option Span :=
  let first := if 0xD800 ≤ p.first ∧ p.first ≤ 0xDFFF then 0xE000 else p.first
  let last := if 0xD800 ≤ p.last ∧ p.last ≤ 0xDFFF then 0xD7FF else p.last
  if first ≤ last then some ⟨first, last⟩ else none

/-- A stretch in hexadecimal: one code point, or two with a hyphen between. -/
def ofText? (s : String) : Option Span :=
  match (s.splitOn "-").map (fun part => numeral? 16 part.toList) with
  | [some n] => some ⟨n, n⟩
  | [some first, some last] => some ⟨first, last⟩
  | _ => none

/-- Joins a stretch with the ones after it that it overlaps or meets; their first code points ascend. -/
def join (p : Span) : List Span → List Span
  | [] => [p]
  | q :: rest => if q.first ≤ nextPoint p.last then join ⟨p.first, max p.last q.last⟩ rest else p :: join q rest

/-- The stretches from a code point on that the given ones leave out. -/
def gaps (start : Nat) : List Span → List Span
  | [] => if start ≤ lastPoint then [⟨start, lastPoint⟩] else []
  | p :: rest =>
    if start < p.first then ⟨start, previousPoint p.first⟩ :: gaps (nextPoint p.last) rest
    else gaps (nextPoint p.last) rest

end Span

/-- A set of characters. -/
structure CharSet where
  /-- The stretches of the set, which ascend and do not meet. -/
  spans : List Span
  deriving DecidableEq, Repr

namespace CharSet

/-- Whether a character belongs to a set. -/
def mem (s : CharSet) (c : Char) : Bool := s.spans.any (fun p => p.contains c.toNat)

/-- Whether the set holds nothing. -/
def isEmpty (s : CharSet) : Bool := s.spans.isEmpty

/-- The set of ascending stretches that may overlap. -/
def ofAscending : List Span → CharSet
  | [] => ⟨[]⟩
  | p :: rest => ⟨Span.join p rest⟩

/-- The set of some stretches. -/
def ofSpans (spans : List Span) : CharSet :=
  ofAscending ((spans.filterMap Span.trimmed?).mergeSort (fun p q => p.first ≤ q.first))

/-- The set of stretches in hexadecimal, one after the other with a blank between. -/
def ofText (s : String) : CharSet := ofSpans ((s.splitOn " ").filterMap Span.ofText?)

/-- The characters from one to another. -/
def range (first last : Char) : CharSet := ofSpans [⟨first.toNat, last.toNat⟩]

/-- A single character. -/
def one (c : Char) : CharSet := range c c

/-- Every character. -/
def all : CharSet := ⟨[⟨0, lastPoint⟩]⟩

/-- The characters of either set. -/
def union (a b : CharSet) : CharSet := ofAscending (a.spans.merge b.spans (fun p q => p.first ≤ q.first))

/-- The characters outside a set. -/
def compl (a : CharSet) : CharSet := ⟨Span.gaps 0 a.spans⟩

instance : EmptyCollection CharSet := ⟨⟨[]⟩⟩

instance : Union CharSet := ⟨union⟩

instance : Inter CharSet := ⟨fun a b => (a.compl ∪ b.compl).compl⟩

instance : SDiff CharSet := ⟨fun a b => (a.compl ∪ b).compl⟩

/-- The characters of exactly one of two sets. -/
def symmDiff (a b : CharSet) : CharSet := (a ∪ b) \ (a ∩ b)

/-- The union of some sets. -/
def unions (sets : List CharSet) : CharSet := ofSpans (sets.flatMap spans)

/-- The characters a distance behind those of the set. -/
def shifted (s : CharSet) (distance : Int) : CharSet :=
  ofSpans (s.spans.map (fun p => ⟨(p.first + distance).toNat, (p.last + distance).toNat⟩))

/-- Whether the set lies within ASCII. -/
def isAscii (s : CharSet) : Bool := s.spans.all (fun p => p.last < 128)

/-- The only character of a set. -/
def single? (s : CharSet) : Option Char :=
  match s.spans with
  | [p] => if p.first = p.last then some (Char.ofNat p.first) else none
  | _ => none

end CharSet

/-! ### Runs -/

/-- The number in front of a text, or one if there is none. -/
def runLength (s : List Char) : Nat :=
  let ds := (digits s).1
  if ds.isEmpty then 1 else decimal ds

/-- Reads runs: each a code of some length and the number of code points that have it, where a run of
one has no number. The first argument bounds the number of runs. -/
def readRuns (codeLength : Nat) : Nat → Nat → List Char → List (String × Span)
  | 0, _, _ => []
  | fuel + 1, start, s =>
    if s.isEmpty then []
    else
      let rest := s.drop codeLength
      let length := runLength rest
      (String.ofList (s.take codeLength), ⟨start, start + length - 1⟩) ::
        readRuns codeLength fuel (start + length) (digits rest).2

/-- The runs of a table, which divide the code points from zero on. -/
def runsOf (codeLength : Nat) (table : List String) : List (String × Span) :=
  let s := (String.join table).toList
  readRuns codeLength s.length 0 s

/-- The characters in the runs with one of some codes. -/
def charsIn (runs : List (String × Span)) (codes : List String) : CharSet :=
  .ofSpans ((runs.filter (fun r => codes.contains r.1)).map Prod.snd)

end LogTagger.Text
