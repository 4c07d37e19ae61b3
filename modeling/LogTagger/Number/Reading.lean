import LogTagger.Number.Double
import LogTagger.Text.Digits

/-!
# Reading doubles

The double nearest to a written decimal, ties to the even place. A decimal that is too large becomes
an infinity, and one that is too small zero. Besides decimals there are the names of the infinities
and of the value that is no number, in any case of letters.
-/

namespace LogTagger

namespace Double

/-- A bound on the power of ten of the leading digit: at or above it a number is infinite, and below
its negative it is zero. -/
def decimalBound : Int := 400

/-- The double nearest to `digits * 10 ^ power`. -/
def ofDecimal (negative : Bool) (digits : List Nat) (power : Int) : Double :=
  let significant := digits.dropWhile (· == 0)
  let leading : Int := significant.length + power
  if significant.isEmpty || leading < -decimalBound then .finite (FiniteDouble.zero negative)
  else if decimalBound ≤ leading then .infinite negative
  else
    let n := Text.decimal significant
    let rounded :=
      if 0 ≤ power then FiniteDouble.round? negative (n * Nat.pow 10 power.toNat) 1
      else FiniteDouble.round? negative n (Nat.pow 10 (-power).toNat)
    match rounded with
    | some x => .finite x
    | none => .infinite negative

/-- The sign in front of a text: whether it is a minus, and the text after it. -/
def signOf : List Char → Bool × List Char
  | '-' :: rest => (true, rest)
  | '+' :: rest => (false, rest)
  | s => (false, s)

/-- The exponent that is all of a text; an empty text is the exponent zero. -/
def exponent? : List Char → Option Int
  | [] => some 0
  | c :: rest =>
    if c == 'e' || c == 'E' then
      let (negative, ds) := signOf rest
      (Text.numeral? 10 ds).map (fun n => if negative then -(n : Int) else n)
    else none

/-- The double that an unsigned decimal writes: digits on either side of a point, of which one side
may be missing, and an exponent. -/
def ofUnsigned? (negative : Bool) (s : List Char) : Option Double :=
  let (whole, s₁) := Text.digits s
  let (fraction, s₂) := match s₁ with
    | '.' :: rest => Text.digits rest
    | _ => ([], s₁)
  if whole.isEmpty && fraction.isEmpty then none
  else (exponent? s₂).map (fun e => ofDecimal negative (whole ++ fraction) (e - fraction.length))

/-- The double that a text writes. -/
def ofText? (s : String) : Option Double :=
  let (negative, rest) := signOf s.toList
  let name := String.ofList (rest.map Char.toLower)
  if name == "inf" || name == "infinity" then some (.infinite negative)
  else if name == "nan" then some .nan
  else ofUnsigned? negative rest

end Double

end LogTagger
