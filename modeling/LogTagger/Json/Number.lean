import LogTagger.Number.Notation

/-!
# Numbers in JSON text

A number is whole within 64 bits, or a double. The text of a number is kept as its parts until a
value is asked for, because a number in a place that nobody reads is only checked for its form.

Doubles are read in two steps: the digits are gathered into an unsigned 64-bit integer for as long
as they fit, that integer is rounded to a double, and the double is multiplied or divided by rounded
powers of ten. Digits that no longer fit count for their position before the point and for nothing
after it. Each step rounds, so a long decimal may end one place away from the nearest number.
-/

namespace LogTagger

/-- A whole number that fits a signed or an unsigned 64-bit integer. -/
structure WholeNumber where
  /-- The value. -/
  value : Int
  /-- At least the least signed 64-bit integer. -/
  lower : -0x8000000000000000 ≤ value
  /-- At most the greatest unsigned 64-bit integer. -/
  upper : value < 0x10000000000000000
  deriving DecidableEq

namespace WholeNumber

/-- The whole number of an integer in range. -/
def ofInt? (n : Int) : Option WholeNumber :=
  if h : -0x8000000000000000 ≤ n ∧ n < 0x10000000000000000 then some ⟨n, h.1, h.2⟩ else none

/-- A signed 64-bit integer as a whole number. -/
def ofInt64 (n : Int64) : WholeNumber :=
  ⟨n.toInt, by have := Int64.le_toInt n; omega, by have := Int64.toInt_lt n; omega⟩

/-- An unsigned 64-bit integer as a whole number. -/
def ofUInt64 (n : UInt64) : WholeNumber := ⟨n.toNat, by omega, by have := UInt64.toNat_lt n; omega⟩

end WholeNumber

namespace Json

/-- A JSON number. -/
inductive Number where
  /-- A whole number of 64 bits. -/
  | whole (n : WholeNumber)
  /-- Any other number: one with a point or an exponent, one beyond 64 bits, or minus zero. -/
  | double (x : FiniteDouble)
  deriving DecidableEq

/-- The parts of a number's text. Digits are given as their values. -/
structure NumberText where
  /-- Whether a minus sign stands in front. -/
  negative : Bool
  /-- The digits before the point. -/
  whole : List Nat
  /-- The digits after the point, if there is one. -/
  fraction : Option (List Nat)
  /-- The exponent, if there is one. -/
  exponent : Option Int
  deriving DecidableEq

/-- The greatest unsigned 64-bit integer. -/
def greatest : Nat := 0xFFFFFFFFFFFFFFFF

/-- Appends decimal digits to a 64-bit integer until one would overflow it; the rest is returned. -/
def gather (s : Nat) : List Nat → Nat × List Nat
  | [] => (s, [])
  | d :: ds => if s * 10 + d ≤ greatest then gather (s * 10 + d) ds else (s, d :: ds)

/-- `x * 10 ^ e` in rounded steps: one multiplication or division by a power up to `10 ^ 308`, after
divisions by `10 ^ 308` while the exponent is below that. A result that is too large is refused. -/
def scale (x : FiniteDouble) (e : Int) : Nat → Option FiniteDouble
  | 0 => some x
  | fuel + 1 =>
    if e.natAbs ≤ 308 then
      (FiniteDouble.powerOfTen? e.natAbs).bind (fun p => if 0 ≤ e then x.mul? p else x.div? p)
    else if x.isZero then some x
    else if 0 ≤ e then none
    else ((FiniteDouble.powerOfTen? 308).bind x.div?).bind (fun y => scale y (e + 308) fuel)

namespace NumberText

/-- The number read as a double, in two steps. Three divisions by `10 ^ 308` leave zero of every
64-bit integer, so four rounds are enough. -/
def double? (t : NumberText) : Option FiniteDouble :=
  let (s₁, beyond) := gather 0 t.whole
  let fraction := t.fraction.getD []
  let (s₂, ignored) := gather s₁ fraction
  let e := (beyond.length : Int) - (fraction.length - ignored.length) + t.exponent.getD 0
  (FiniteDouble.round? false s₂ 1).bind (fun x => (scale x e 4).map (fun y => { y with negative := t.negative }))

/-- The number that the text denotes, or none if it is too large for a double. -/
def number? (t : NumberText) : Option Number :=
  match t.fraction, t.exponent, gather 0 t.whole with
  | none, none, (n, []) =>
    if t.negative then
      if h : 0 < n ∧ n ≤ 0x8000000000000000 then some (.whole ⟨-n, by omega, by omega⟩)
      else (FiniteDouble.round? true n 1).map .double
    else if h : n < 0x10000000000000000 then some (.whole ⟨n, by omega, by omega⟩)
    else none
  | _, _, _ => t.double?.map .double

end NumberText

namespace Number

/-- The text of a number. -/
def text : Number → String
  | .whole n => toString n.value
  | .double x => x.scientific

/-- The number as a signed 64-bit integer, if it is whole and one holds it. -/
def int64? : Number → Option Int64
  | .whole n => if n.value < 0x8000000000000000 then some (Int64.ofInt n.value) else none
  | .double _ => none

/-- The number as an unsigned 64-bit integer, if it is whole and one holds it. -/
def uint64? : Number → Option UInt64
  | .whole n => if 0 ≤ n.value then some (UInt64.ofNat n.value.toNat) else none
  | .double _ => none

/-- The double nearest to the number. -/
def double? : Number → Option FiniteDouble
  | .whole n => FiniteDouble.round? (n.value < 0) n.value.natAbs 1
  | .double x => some x

end Number

end Json

end LogTagger
