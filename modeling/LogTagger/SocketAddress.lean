import LogTagger.Text.Digits

/-!
# Socket addresses

An address of the Internet with a port. `ofText?` reads one: four decimal numbers, or up to eight
hexadecimal groups in brackets, of which a run may be left out and the last two may be written as
four decimal numbers, with a number for the scope after a percent sign. `text` writes one in its
canonical form.
-/

namespace LogTagger

/-- An address with a port. -/
inductive SocketAddress where
  /-- Four octets. -/
  | v4 (octets : Vector UInt8 4) (port : UInt16)
  /-- Eight groups of sixteen bits, and the scope. -/
  | v6 (groups : Vector UInt16 8) (scope : UInt32) (port : UInt16)
  deriving DecidableEq

namespace SocketAddress

/-! ### Reading -/

/-- The number in front of a text up to a greatest value. It has at most `width` digits, and `zeros`
says whether it may have zeros in front. -/
def number? (base width greatest : Nat) (zeros : Bool) (s : List Char) : Option (Nat × List Char) :=
  let ds := s.takeWhile (fun c => (Text.digitValue? base c).isSome)
  if width < ds.length || (!zeros && ds.length > 1 && ds.head? == some '0') then none
  else
    (Text.numeral? base ds).bind (fun n => if n ≤ greatest then some (n, s.drop ds.length) else none)

/-- The text after a character. -/
def after? (c : Char) : List Char → Option (List Char)
  | d :: rest => if c = d then some rest else none
  | [] => none

/-- One of four decimal numbers. -/
def octet? (s : List Char) : Option (UInt8 × List Char) :=
  (number? 10 3 255 false s).map (fun (n, rest) => (UInt8.ofNat n, rest))

/-- Four decimal numbers parted by points. -/
def octets? (s : List Char) : Option (Vector UInt8 4 × List Char) := do
  let (a, s) ← octet? s
  let (b, s) ← octet? (← after? '.' s)
  let (c, s) ← octet? (← after? '.' s)
  let (d, s) ← octet? (← after? '.' s)
  return (#v[a, b, c, d], s)

/-- The group of two octets. -/
def joinOctets (a b : UInt8) : UInt16 := UInt16.ofNat (a.toNat * 256 + b.toNat)

/-- Up to `limit` groups parted by colons, whether they end with four decimal numbers, and the rest.
`first` says that no colon stands in front of the next. -/
def groups : Nat → Bool → List Char → List UInt16 × Bool × List Char
  | 0, _, s => ([], false, s)
  | limit + 1, first, s =>
    match if first then some s else after? ':' s with
    | none => ([], false, s)
    | some s' =>
      match if limit = 0 then none else octets? s' with
      | some (o, rest) => ([joinOctets o[0] o[1], joinOctets o[2] o[3]], true, rest)
      | none =>
        match number? 16 4 0xFFFF true s' with
        | some (n, rest) =>
          let (gs, mixed, rest') := groups limit false rest
          (UInt16.ofNat n :: gs, mixed, rest')
        | none => ([], false, s)

/-- Eight groups, if a list has so many. -/
def eight? (l : List UInt16) : Option (Vector UInt16 8) :=
  if h : l.length = 8 then some ⟨l.toArray, by simpa using h⟩ else none

/-- Eight groups, of which a run of zeros may be left out between two colons. -/
def address? (s : List Char) : Option (Vector UInt16 8 × List Char) :=
  let (head, mixed, rest) := groups 8 true s
  match eight? head with
  | some gs => some (gs, rest)
  | none =>
    if mixed then none
    else do
      let rest ← after? ':' (← after? ':' rest)
      let (tail, _, rest) := groups (7 - head.length) true rest
      let gs ← eight? (head ++ List.replicate (8 - head.length - tail.length) 0 ++ tail)
      return (gs, rest)

/-- The port at the end of a text. -/
def port? (s : List Char) : Option UInt16 := do
  let (n, rest) ← number? 10 s.length 65535 true (← after? ':' s)
  if rest.isEmpty then some (UInt16.ofNat n) else none

/-- The scope in front of a text; without a percent sign it is zero. -/
def scope? (s : List Char) : Option (UInt32 × List Char) :=
  match s with
  | '%' :: rest => (number? 10 rest.length (UInt32.size - 1) true rest).map (fun (n, rest') => (UInt32.ofNat n, rest'))
  | _ => some (0, s)

/-- The address that a text writes. -/
def ofText? (s : String) : Option SocketAddress :=
  match s.toList with
  | '[' :: rest => do
    let (gs, rest) ← address? rest
    let (scope, rest) ← scope? rest
    let port ← port? (← after? ']' rest)
    return .v6 gs scope port
  | cs => do
    let (o, rest) ← octets? cs
    let port ← port? rest
    return .v4 o port

/-! ### Writing -/

/-- Four decimal numbers parted by points. -/
def octetText (l : List UInt8) : String := ".".intercalate (l.map (fun o => toString o.toNat))

/-- Groups parted by colons, in hexadecimal digits without zeros in front. -/
def groupText (l : List UInt16) : String :=
  ":".intercalate (l.map (fun g => String.ofList (Nat.toDigits 16 g.toNat)))

/-- The length of the run of zeros in front of groups. -/
def zeroRun (l : List UInt16) : Nat := (l.takeWhile (· == 0)).length

/-- The place and the length of the first of the longest runs of zeros from the place `i` on. -/
def longestRun : Nat → List UInt16 → Nat × Nat
  | _, [] => (0, 0)
  | i, g :: rest =>
    let later := longestRun (i + 1) rest
    if later.2 ≤ zeroRun (g :: rest) then (i, zeroRun (g :: rest)) else later

/-- The groups, in which the first of the longest runs of two zeros or more is left out. -/
def compressed (l : List UInt16) : String :=
  let (start, length) := longestRun 0 l
  if length ≤ 1 then groupText l
  else groupText (l.take start) ++ "::" ++ groupText (l.drop (start + length))

/-- The address part of eight groups; the last two are written as four decimal numbers where the
groups stand for such an address. -/
def addressText (l : List UInt16) : String :=
  match l with
  | [0, 0, 0, 0, 0, 0xFFFF, a, b] =>
    "::ffff:" ++ octetText [(a >>> 8).toUInt8, a.toUInt8, (b >>> 8).toUInt8, b.toUInt8]
  | _ => compressed l

/-- The canonical text of an address. -/
def text : SocketAddress → String
  | .v4 o port => octetText o.toList ++ ":" ++ toString port.toNat
  | .v6 gs scope port =>
    "[" ++ addressText gs.toList ++ (if scope = 0 then "" else "%" ++ toString scope.toNat) ++ "]:" ++ toString port.toNat

end SocketAddress

end LogTagger
