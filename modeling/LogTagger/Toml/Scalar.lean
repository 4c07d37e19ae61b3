import LogTagger.Number.Reading
import LogTagger.Toml.Basic

/-!
# TOML scalars

Truth values, integers, floating-point numbers, dates and times, each given by the text of its
token. Underscores may part the digits of a number, each between two digits.
-/

namespace LogTagger.Toml

/-! ### Numbers -/

/-- The digits of a text in which an underscore may stand between two digits; `digit` says that a
digit stood in front. -/
def ungroup? (isDigit : Char → Bool) : Bool → List Char → Option (List Char)
  | digit, [] => if digit then some [] else none
  | digit, c :: rest =>
    if isDigit c then (ungroup? isDigit true rest).map (c :: ·)
    else if c == '_' && digit then ungroup? isDigit false rest
    else none

/-- Whether a character is a digit of a base. -/
def isDigitOf (base : Nat) (c : Char) : Bool := (Text.digitValue? base c).isSome

/-- Digits without a needless zero in front. -/
def wholeDigits? (s : List Char) : Option (List Char) :=
  match ungroup? Char.isDigit false s with
  | some ('0' :: _ :: _) => none
  | ds => ds

/-- An integer, if it fits 128 bits, signed or unsigned. -/
def bounded? (n : Int) : Option Toml := if -(1 <<< 127 : Nat) ≤ n ∧ n < (1 <<< 128 : Nat) then some (.integer n) else none

/-- The integer that digits of a base write. -/
def based? (base : Nat) (s : List Char) : Option Toml :=
  (ungroup? (isDigitOf base) false s).bind (fun ds => (Text.numeral? base ds).bind (fun n => bounded? n))

/-- The integer that a token writes. -/
def integer? : List Char → Option Toml
  | '0' :: 'x' :: rest => based? 16 rest
  | '0' :: 'o' :: rest => based? 8 rest
  | '0' :: 'b' :: rest => based? 2 rest
  | s =>
    let (negative, rest) := Double.signOf s
    (wholeDigits? rest).bind (fun ds =>
      (Text.numeral? 10 ds).bind (fun n => bounded? (if negative then -n else n)))

/-- The exponent of a floating-point number, mark and sign included, without underscores. -/
def exponent? : List Char → Option (List Char)
  | [] => some []
  | c :: '-' :: rest => if c == 'e' || c == 'E' then (ungroup? Char.isDigit false rest).map ('e' :: '-' :: ·) else none
  | c :: '+' :: rest => if c == 'e' || c == 'E' then (ungroup? Char.isDigit false rest).map ('e' :: ·) else none
  | c :: rest => if c == 'e' || c == 'E' then (ungroup? Char.isDigit false rest).map ('e' :: ·) else none

/-- Whether a character may stand among the digits on one side of the point. -/
def isDigitOrGap (c : Char) : Bool := c.isDigit || c == '_'

/-- The text of a decimal without underscores: digits, then a point with digits, an exponent, or
both. -/
def decimal? (s : List Char) : Option (List Char) := do
  let head := s.takeWhile isDigitOrGap
  let whole ← wholeDigits? head
  match s.drop head.length with
  | [] => none
  | '.' :: rest =>
    let tail := rest.takeWhile isDigitOrGap
    let fraction ← ungroup? Char.isDigit false tail
    let exponent ← exponent? (rest.drop tail.length)
    return whole ++ '.' :: fraction ++ exponent
  | rest => return whole ++ (← exponent? rest)

/-- The floating-point number that a token writes. A decimal must not be too large. -/
def float? (s : List Char) : Option Toml :=
  let (negative, rest) := Double.signOf s
  match rest with
  | ['i', 'n', 'f'] => some (.float (.infinite negative))
  | ['n', 'a', 'n'] => some (.float .nan)
  | _ =>
    match (decimal? rest).bind (Double.ofUnsigned? negative) with
    | some (.finite x) => some (.float (.finite x))
    | _ => none

/-! ### Dates and times -/

/-- The number written by exactly so many decimal digits in front of a text, if it lies between two
bounds, and the rest. -/
def field? (width least greatest : Nat) (s : List Char) : Option (Nat × List Char) :=
  if s.length < width then none
  else
    (Text.numeral? 10 (s.take width)).bind (fun n =>
      if least ≤ n ∧ n ≤ greatest then some (n, s.drop width) else none)

/-- The text after a character. -/
def expect? (c : Char) : List Char → Option (List Char)
  | d :: rest => if c = d then some rest else none
  | [] => none

/-- The number of days of a month. -/
def monthLength (year month : Nat) : Nat :=
  if month = 2 then (if year % 4 = 0 ∧ (year % 100 ≠ 0 ∨ year % 400 = 0) then 29 else 28)
  else if month = 4 ∨ month = 6 ∨ month = 9 ∨ month = 11 then 30
  else 31

/-- The text after a date. -/
def date? (s : List Char) : Option (List Char) := do
  let (year, s) ← field? 4 0 9999 s
  let (month, s) ← field? 2 1 12 (← expect? '-' s)
  let (_, s) ← field? 2 1 (monthLength year month) (← expect? '-' s)
  return s

/-- The text after a time of day; the seconds may be missing. -/
def time? (s : List Char) : Option (List Char) := do
  let (_, s) ← field? 2 0 23 s
  let (_, s) ← field? 2 0 59 (← expect? ':' s)
  match s with
  | ':' :: rest =>
    let (_, s) ← field? 2 0 60 rest
    match s with
    | '.' :: rest =>
      let fraction := rest.takeWhile Char.isDigit
      if fraction.isEmpty then none else return rest.drop fraction.length
    | _ => return s
  | _ => return s

/-- Whether a text is an offset from universal time, or nothing. -/
def isOffset : List Char → Bool
  | [] => true
  | ['Z'] => true
  | ['z'] => true
  | c :: rest =>
    (c == '+' || c == '-') &&
      ((do
        let (_, s) ← field? 2 0 23 rest
        let (_, s) ← field? 2 0 59 (← expect? ':' s)
        return s.isEmpty).getD false)

/-- Whether a character may part a date from a time. -/
def isDateTimeGap (c : Char) : Bool := c == 'T' || c == 't' || c == ' '

/-- The date, time or both that a token writes. -/
def dateTime? (s : List Char) : Option Toml :=
  let written := some (.dateTime (String.ofList s))
  match date? s with
  | some [] => written
  | some (c :: rest) =>
    if isDateTimeGap c then
      match time? rest with
      | some rest' => if isOffset rest' then written else none
      | none => none
    else none
  | none =>
    match time? s with
    | some [] => written
    | _ => none

/-! ### Tokens -/

/-- Whether a character may stand in the token of a scalar. -/
def isTokenChar (c : Char) : Bool := c.isAlphanum || c == '_' || c == '+' || c == '-' || c == '.' || c == ':'

/-- The scalar that a token writes. -/
def ofToken? (s : List Char) : Option Toml :=
  match s with
  | ['t', 'r', 'u', 'e'] => some (.boolean true)
  | ['f', 'a', 'l', 's', 'e'] => some (.boolean false)
  | _ => (integer? s).orElse (fun _ => (float? s).orElse (fun _ => dateTime? s))

/-- The token in front of a text: a date and a time may be parted by one blank. -/
def token (s : List Char) : List Char :=
  let head := s.takeWhile isTokenChar
  match date? head, s.drop head.length with
  | some [], ' ' :: c :: rest =>
    if c.isDigit then head ++ ' ' :: (c :: rest).takeWhile isTokenChar else head
  | _, _ => head

/-- The scalar in front of a text. -/
def scalarValue? (s : List Char) : Option (Toml × List Char) :=
  let t := token s
  (ofToken? t).map (fun v => (v, s.drop t.length))

end LogTagger.Toml
