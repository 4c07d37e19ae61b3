import LogTagger.Pattern.PropertyName
import LogTagger.Pattern.Regex
import LogTagger.Pattern.Scanner

/-!
# Escapes

What a backslash and the characters after it stand for in a pattern: a character, a set of characters or an
assertion.
-/

namespace LogTagger.Pattern

open LogTagger.Text (CharSet Category)

/-- What an escape stands for. -/
inductive Escape where
  /-- A character. -/
  | literal (c : Char)
  /-- A set of characters. -/
  | set (chars : CharSet)
  /-- An assertion. -/
  | assertion (a : Assertion)

/-- The set of ASCII with a name. -/
def asciiSet? (name : String) : Option CharSet :=
  match name with
  | "alnum" => some (.ofText "30-39 41-5A 61-7A")
  | "alpha" => some (.ofText "41-5A 61-7A")
  | "ascii" => some (.ofText "0-7F")
  | "blank" => some (.ofText "9 20")
  | "cntrl" => some (.ofText "0-1F 7F")
  | "digit" => some (.ofText "30-39")
  | "graph" => some (.ofText "21-7E")
  | "lower" => some (.ofText "61-7A")
  | "print" => some (.ofText "20-7E")
  | "punct" => some (.ofText "21-2F 3A-40 5B-60 7B-7E")
  | "space" => some (.ofText "9-D 20")
  | "upper" => some (.ofText "41-5A")
  | "word" => some (.ofText "30-39 41-5A 5F 61-7A")
  | "xdigit" => some (.ofText "30-39 41-46 61-66")
  | _ => none

namespace Escape

open Scanner

/-- Whether a character may be escaped to stand for itself. -/
def isEscapable (c : Char) : Bool := isAscii c && !c.isAlphanum && c != '<' && c != '>'

/-- The character of a code point. -/
def charOf? (n : Nat) : Option Char :=
  if n < 0xD800 ∨ (0xE000 ≤ n ∧ n < 0x110000) then some (Char.ofNat n) else none

/-- The character given by hexadecimal digits: a fixed number of them, or any in braces. Two digits without
Unicode give an octet, which must be one of ASCII. -/
def hexadecimal? (flags : Flags) (count : Nat) (s : List Char) : Option (Char × List Char) :=
  match skip flags s with
  | '\x7b' :: rest =>
    (inBraces? flags rest).bind (fun (ds, rest') =>
      ((Text.numeral? 16 ds).bind charOf?).map (fun c => (c, rest')))
  | s' =>
    let (ds, rest) := gatherAtMost flags (fun c => (Text.hexValue? c).isSome) count s'
    if ds.length < count then none
    else
      ((Text.numeral? 16 ds).bind charOf?).bind (fun c =>
        if count = 2 && !flags.unicode && !isAscii c then none else some (c, rest))

/-- The set of a property of Unicode: a name of one letter, or a name in braces. -/
def property? (flags : Flags) (negated : Bool) (s : List Char) : Option (CharSet × List Char) :=
  if !flags.unicode then none
  else
    match skip flags s with
    | [] => none
    | '\\' :: _ => none
    | '\x7b' :: rest =>
      (inBraces? flags rest).bind (fun (name, rest') =>
        (propertyCalled? name).bind (fun call =>
          (flags.foldOrCompl? (negated != call.negated) call.chars).map (fun chars => (chars, rest'))))
    | c :: rest =>
      (charsNamed? [c]).bind (fun chars => (flags.foldOrCompl? negated chars).map (fun chars => (chars, rest)))

/-- The set of a short escape: of Unicode, or of ASCII. -/
def shortSet? (flags : Flags) (unicode : CharSet) (ascii : String) (negated : Bool) : Option CharSet :=
  let found := if flags.unicode then some unicode else asciiSet? ascii
  found.bind (fun chars => if negated then flags.compl? chars else some chars)

/-- The assertion of a word boundary named in braces, and the text after it. There is none if the braces
do not begin with a letter or hyphen: they must be a repetition then. -/
def namedBoundary? (flags : Flags) (s : List Char) : Option (Option Assertion × List Char) :=
  let isNameChar (c : Char) : Bool := c.isAlpha || c == '-'
  match gather flags isNameChar s with
  | ([], []) => none
  | ([], _) => some (none, '\x7b' :: s)
  | (name, '\x7d' :: rest) =>
    let ascii := !flags.unicode
    match String.ofList name with
    | "start" => some (some (.wordStart ascii), rest)
    | "end" => some (some (.wordEnd ascii), rest)
    | "start-half" => some (some (.noWordBefore ascii), rest)
    | "end-half" => some (some (.noWordAfter ascii), rest)
    | _ => none
  | _ => none

/-- The assertion of a word boundary, with a name in braces or without. -/
def boundary? (flags : Flags) (s : List Char) : Option (Assertion × List Char) :=
  let plain : Assertion := .wordBoundary (!flags.unicode)
  match s with
  | '\x7b' :: rest => (namedBoundary? flags rest).map (fun (a, rest') => (a.getD plain, rest'))
  | _ => some (plain, s)

/-- The escape after a backslash. -/
def read? (flags : Flags) : List Char → Option (Escape × List Char)
  | [] => none
  | c :: rest =>
    let ascii := !flags.unicode
    let literal (c : Char) : Option (Escape × List Char) := some (.literal c, rest)
    let set (found : Option CharSet) : Option (Escape × List Char) := found.map (fun k => (.set k, rest))
    let assertion (a : Assertion) : Option (Escape × List Char) := some (.assertion a, rest)
    match c with
    | 'x' => (hexadecimal? flags 2 rest).map (fun (c, rest') => (.literal c, rest'))
    | 'u' => (hexadecimal? flags 4 rest).map (fun (c, rest') => (.literal c, rest'))
    | 'U' => (hexadecimal? flags 8 rest).map (fun (c, rest') => (.literal c, rest'))
    | 'p' => (property? flags false rest).map (fun (k, rest') => (.set k, rest'))
    | 'P' => (property? flags true rest).map (fun (k, rest') => (.set k, rest'))
    | 'd' => set (shortSet? flags (Category.chars [.decimalNumber]) "digit" false)
    | 'D' => set (shortSet? flags (Category.chars [.decimalNumber]) "digit" true)
    | 's' => set (shortSet? flags Text.Property.whiteSpace "space" false)
    | 'S' => set (shortSet? flags Text.Property.whiteSpace "space" true)
    | 'w' => set (shortSet? flags Text.Property.word "word" false)
    | 'W' => set (shortSet? flags Text.Property.word "word" true)
    | 'a' => literal '\x07'
    | 'f' => literal '\x0c'
    | 't' => literal '\t'
    | 'n' => literal '\n'
    | 'r' => literal '\r'
    | 'v' => literal '\x0b'
    | 'A' => assertion .textStart
    | 'z' => assertion .textEnd
    | 'b' => (boundary? flags rest).map (fun (a, rest') => (.assertion a, rest'))
    | 'B' => assertion (.noWordBoundary ascii)
    | '<' => assertion (.wordStart ascii)
    | '>' => assertion (.wordEnd ascii)
    | _ => if isEscapable c then literal c else none

end Escape

end LogTagger.Pattern
