import LogTagger.Text.Blank
import LogTagger.Text.CaseFolding

/-!
# Scanning patterns

The flags that hold at a place of a pattern, and what is skipped there: with the flag `x` blanks do not
count, nor does what follows a number sign up to the end of its line. That holds between the characters of
numbers and names, too, which are gathered one by one.
-/

namespace LogTagger.Pattern

open LogTagger.Text (CharSet)

/-- The flags that hold at a place of a pattern. -/
structure Flags where
  /-- Case does not count. -/
  caseless : Bool := false
  /-- Line assertions look at every line. -/
  multiLine : Bool := false
  /-- The dot takes line ends. -/
  dotAll : Bool := false
  /-- Characters and classes are those of Unicode. -/
  unicode : Bool := true
  /-- Blanks and comments in the pattern do not count. -/
  verbose : Bool := false
  /-- Carriage returns end lines, too. -/
  carriageReturns : Bool := false
  /-- Repetition is reluctant unless marked otherwise. -/
  reluctant : Bool := false

namespace Flags

/-- A set without regard to case, if the flags say so. -/
def fold (flags : Flags) (s : CharSet) : CharSet :=
  if flags.caseless then s.foldedBy (if flags.unicode then Text.foldings else Text.asciiFoldings) else s

/-- The characters outside a set. Without Unicode they would be octets that are no characters. -/
def compl? (flags : Flags) (s : CharSet) : Option CharSet := if flags.unicode then some s.compl else none

/-- The set without regard to case, or the characters outside that. -/
def foldOrCompl? (flags : Flags) (negated : Bool) (s : CharSet) : Option CharSet :=
  if negated then flags.compl? (flags.fold s) else some (flags.fold s)

end Flags

/-- Whether a character belongs to ASCII. -/
def isAscii (c : Char) : Bool := c.toNat < 128

namespace Scanner

/-- A text without blanks and comments in front; the first argument tells whether a comment goes on. -/
def skipVerbose : Bool → List Char → List Char
  | _, [] => []
  | true, c :: rest => if c == '\n' then skipVerbose false rest else skipVerbose true rest
  | false, c :: rest =>
    if Text.isBlank c then skipVerbose false rest
    else if c == '#' then skipVerbose true rest
    else c :: rest

/-- A text without what does not count in front. -/
def skip (flags : Flags) (s : List Char) : List Char := if flags.verbose then skipVerbose false s else s

/-- What a look ahead finds in a text: the first character that is neither blank nor the first number sign.
It does not know the end of a comment, and where it finds nothing it takes the first character of all. -/
def peek (flags : Flags) (s : List Char) : Option Char :=
  if flags.verbose then
    let found := match s.dropWhile Text.isBlank with
      | '#' :: rest => (rest.dropWhile Text.isBlank).head?
      | rest => rest.head?
    found.orElse (fun _ => s.head?)
  else s.head?

theorem length_skipVerbose_le (comment : Bool) (s : List Char) : (skipVerbose comment s).length ≤ s.length := by
  induction s generalizing comment with
  | nil => cases comment <;> simp [skipVerbose]
  | cons c rest ih =>
    have again (b : Bool) : (skipVerbose b rest).length ≤ (c :: rest).length :=
      Nat.le_trans (ih b) (Nat.le_succ _)
    cases comment <;> simp only [skipVerbose] <;> (repeat' split) <;> first | exact again _ | exact Nat.le_refl _

theorem length_skip_le (flags : Flags) (s : List Char) : (skip flags s).length ≤ s.length := by
  unfold skip
  split
  · exact length_skipVerbose_le false s
  · exact Nat.le_refl _

/-- The characters in front of a text as long as they are of some kind, and the rest; what does not count
is left out before each of them and after the last. -/
def gather (flags : Flags) (wanted : Char → Bool) (s : List Char) : List Char × List Char :=
  match _h : skip flags s with
  | [] => ([], [])
  | c :: rest =>
    if wanted c then
      let (cs, rest') := gather flags wanted rest
      (c :: cs, rest')
    else ([], c :: rest)
termination_by s.length
decreasing_by
  have := length_skip_le flags s
  rw [_h] at this
  exact this

/-- The same for at most some characters. -/
def gatherAtMost (flags : Flags) (wanted : Char → Bool) : Nat → List Char → List Char × List Char
  | 0, s => ([], skip flags s)
  | n + 1, s =>
    match skip flags s with
    | [] => ([], [])
    | c :: rest =>
      if wanted c then
        let (cs, rest') := gatherAtMost flags wanted n rest
        (c :: cs, rest')
      else ([], c :: rest)

/-- The characters up to a closing brace, and what follows the brace. -/
def inBraces? (flags : Flags) (s : List Char) : Option (List Char × List Char) :=
  match gather flags (· != '\x7d') s with
  | (cs, _ :: rest) => some (cs, rest)
  | _ => none

/-- The decimal number in front of a text, if there is one, with blanks around it; at most 32 bits. -/
def count? (flags : Flags) (s : List Char) : Option (Option Nat × List Char) :=
  let (ds, rest) := gather flags Char.isDigit (s.dropWhile Text.isBlank)
  let rest := rest.dropWhile Text.isBlank
  match Text.numeral? 10 ds with
  | none => some (none, rest)
  | some n => if n < UInt32.size then some (some n, rest) else none

/-- The bounds of a counted repetition after its opening brace, and the text after its closing one. -/
def bounds? (flags : Flags) (s : List Char) : Option ((Nat × Option Nat) × List Char) :=
  match count? flags (skip flags s) with
  | some (some least, '\x7d' :: rest) => some ((least, some least), rest)
  | some (some least, ',' :: rest) =>
    match skip flags rest with
    | '\x7d' :: rest' => some ((least, none), rest')
    | rest' =>
      match count? flags rest' with
      | some (some most, '\x7d' :: rest'') => if least ≤ most then some ((least, some most), rest'') else none
      | _ => none
  | _ => none

/-- Whether a repetition is marked as reluctant, and the text after the mark. -/
def reluctance : List Char → Bool × List Char
  | '?' :: rest => (true, rest)
  | s => (false, s)

end Scanner

end LogTagger.Pattern
