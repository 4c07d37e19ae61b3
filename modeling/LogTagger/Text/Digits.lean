/-!
# Digits

The values of digits, runs of decimal digits in front of a text, and the number that digits write.
-/

namespace LogTagger.Text

/-- The value of a hexadecimal digit. -/
def hexValue? (c : Char) : Option Nat :=
  if '0' ≤ c ∧ c ≤ '9' then some (c.toNat - '0'.toNat)
  else if 'a' ≤ c ∧ c ≤ 'f' then some (c.toNat - 'a'.toNat + 10)
  else if 'A' ≤ c ∧ c ≤ 'F' then some (c.toNat - 'A'.toNat + 10)
  else none

/-- The value of a digit of a base up to sixteen. -/
def digitValue? (base : Nat) (c : Char) : Option Nat :=
  (hexValue? c).bind (fun d => if d < base then some d else none)

/-- The decimal digits in front of a text, as their values, and the rest. -/
def digits (s : List Char) : List Nat × List Char :=
  ((s.takeWhile Char.isDigit).map (fun c => c.toNat - '0'.toNat), s.dropWhile Char.isDigit)

/-- The number that digits write in a base. -/
def numeral (base : Nat) (ds : List Nat) : Nat := ds.foldl (fun n d => n * base + d) 0

/-- The number written by decimal digits. -/
def decimal (ds : List Nat) : Nat := numeral 10 ds

/-- The number that a text of digits writes in a base; there is none without digits. -/
def numeral? (base : Nat) (s : List Char) : Option Nat :=
  if s.isEmpty then none else (s.mapM (digitValue? base)).map (numeral base)

/-- The number that a text of decimal digits writes, a plus sign in front allowed, if it is at most
the given one. -/
def boundedNumeral? (greatest : Nat) (s : List Char) : Option Nat :=
  let ds := match s with
    | '+' :: rest => rest
    | _ => s
  (numeral? 10 ds).bind (fun n => if n ≤ greatest then some n else none)

/-- The octets that hexadecimal digits write, two for each; a last digit without a partner is left
out. -/
def octetsOfHex : List Char → Option (List UInt8)
  | a :: b :: rest => do
    let high ← hexValue? a
    let low ← hexValue? b
    return UInt8.ofNat (high * 16 + low) :: (← octetsOfHex rest)
  | _ => some []

end LogTagger.Text
