import LogTagger.Proofs.Flatten.Leaves
import LogTagger.Proofs.Record.RoundTrip

/-!
# Scalars as attribute values

A scalar becomes an attribute value in three places, each with a rule of its own: in the attributes of a record the
kinds are tried one after the other, in a document a number is asked for what it holds, and a count is compared with
the greatest signed integer. They draw the same lines. A whole number is signed up to `2 ^ 63 - 1` and unsigned from
there on; a number that is not whole within 64 bits is a double, and so are minus zero and whole numbers with a point.

**`AttributeValue.scalars_agree`**: every scalar is read, nothing else is, and what is read is written as that scalar
again and is what flattening enters. The values that are read back as they were written are those in their own kind
(`AttributeValue.InKind`), and counts give only such values.
-/

namespace LogTagger

/-- A JSON value that is neither null nor an array nor an object. -/
inductive Json.IsScalar : Json → Prop where
  /-- A truth value. -/
  | bool (b : Bool) : IsScalar (.bool b)
  /-- A number. -/
  | number (n : Json.Number) : IsScalar (.number n)
  /-- A string. -/
  | string (s : String) : IsScalar (.string s)

namespace AttributeValue

/-- The greatest signed integer. -/
def greatestSigned : Int := 0x7FFFFFFFFFFFFFFF

/-- The value is of the kind that is tried first for what it is: an unsigned integer is beyond the signed ones, and
a double is finite. -/
def InKind : AttributeValue → Prop
  | .uint n => greatestSigned < n.toNat
  | .double x => ∃ y, x = .finite y
  | _ => True

/-- What a JSON value is as an attribute value. -/
structure ReadsAs (v : Json) : Prop where
  /-- Scalars are read, and nothing else. -/
  read : (ofJson? v).isSome = true ↔ v.IsScalar
  /-- What was read is written as it was. -/
  written : ∀ a, ofJson? v = some a → a.toJson = v
  /-- It is what flattening enters for the value, wherever it stands. -/
  walked : ∀ a, ofJson? v = some a → ∀ naming p f, Flattening.walk naming p v f = f.emit p a
  /-- So a document with nothing else has this attribute and no other. -/
  flattened : ∀ a, ofJson? v = some a → ∀ naming name, name ≠ "" →
    (Flattening.ofDocument naming (.object [(name, v)])).attributes = .insert ∅ (naming.segment name) a
  /-- A signed integer is read just for a whole number that it is. -/
  signed : ∀ i, ofJson? v = some (.int i) ↔ ∃ n, v = .number (.whole n) ∧ n.value = i.toInt
  /-- An unsigned one is read just for a whole number that it is and that no signed one is. -/
  unsigned : ∀ u, ofJson? v = some (.uint u) ↔
    ∃ n, v = .number (.whole n) ∧ n.value = u.toNat ∧ greatestSigned < n.value
  /-- A double is read just for any other number, which it is. -/
  double : ∀ x, ofJson? v = some (.double x) ↔ ∃ y, v = .number (.double y) ∧ x = .finite y

/-! ### Reading -/

theorem isSome_ofJson?_iff (v : Json) : (ofJson? v).isSome = true ↔ v.IsScalar := by
  constructor
  · intro h
    cases v with
    | bool b => exact .bool b
    | number n => exact .number n
    | string s => exact .string s
    | null => cases h
    | array items => cases h
    | object fields => cases h
  · rintro (b | n | s)
    · rfl
    · rw [ofJson?_number]
      rfl
    · rfl

theorem toJson_of_ofJson? {v : Json} {a : AttributeValue} (h : ofJson? v = some a) : a.toJson = v := by
  obtain b | n | s := (isSome_ofJson?_iff v).mp (h ▸ rfl)
  · obtain rfl := Option.some.inj h
    rfl
  · rw [ofJson?_number] at h
    obtain rfl := Option.some.inj h
    exact toJson_ofNumber n
  · obtain rfl := Option.some.inj h
    rfl

/-- A scalar that is walked through is entered as what it is read as. -/
theorem walk_of_ofJson? {v : Json} {a : AttributeValue} (h : ofJson? v = some a) (naming : KeyNaming) (p : KeyPath)
    (f : Flattening) : Flattening.walk naming p v f = f.emit p a := by
  obtain b | n | s := (isSome_ofJson?_iff v).mp (h ▸ rfl)
  · obtain rfl := Option.some.inj h
    rfl
  · rw [ofJson?_number] at h
    obtain rfl := Option.some.inj h
    rfl
  · obtain rfl := Option.some.inj h
    rfl

theorem flattened_of_ofJson? {v : Json} {a : AttributeValue} (h : ofJson? v = some a) (naming : KeyNaming)
    {name : String} (hname : name ≠ "") :
    (Flattening.ofDocument naming (.object [(name, v)])).attributes = .insert ∅ (naming.segment name) a := by
  have hkey : (naming.segment name).isEmpty = false := by
    rw [Bool.eq_false_iff, ne_eq, String.isEmpty_iff, naming.segment_eq_empty_iff]
    exact hname
  have hpath : ({} : KeyPath).field naming name = .named naming name := rfl
  have hwalk : Flattening.ofDocument naming (.object [(name, v)]) =
      Flattening.walk naming (({} : KeyPath).field naming name) v {} := rfl
  rw [hwalk, hpath, walk_of_ofJson? h, Flattening.emit, KeyPath.named, hkey]
  rfl

/-! ### Kinds -/

theorem canonical_int (i : Int64) : (int i).Canonical := by
  have hsigned : (WholeNumber.ofInt64 i).value < 0x8000000000000000 := Int64.toInt_lt i
  have hvalue : Int64.ofInt (WholeNumber.ofInt64 i).value = i := Int64.ofInt_toInt i
  rw [Canonical, toJson, ofJson?_number, ofNumber_whole_of_lt hsigned, hvalue]

/-- An unsigned integer is read as one if it is beyond the signed ones; any other is read as one of those. -/
theorem canonical_uint_iff (u : UInt64) : (uint u).Canonical ↔ greatestSigned < u.toNat := by
  rw [Canonical, toJson, ofJson?_number, greatestSigned]
  constructor
  · intro h
    by_contra hsmall
    have hsigned : (WholeNumber.ofUInt64 u).value < 0x8000000000000000 := by
      change (u.toNat : Int) < _
      omega
    rw [ofNumber_whole_of_lt hsigned] at h
    cases h
  · intro h
    have hlarge : 0x8000000000000000 ≤ (WholeNumber.ofUInt64 u).value := h
    have hvalue : UInt64.ofNat (WholeNumber.ofUInt64 u).value.toNat = u := UInt64.ofNat_toNat
    rw [ofNumber_whole_of_le hlarge, hvalue]

/-- **The values that are read back as they were written** are those in their own kind. -/
theorem canonical_iff (a : AttributeValue) : a.Canonical ↔ a.InKind := by
  cases a with
  | bool b => exact iff_of_true rfl trivial
  | int i => exact iff_of_true (canonical_int i) trivial
  | uint u => exact canonical_uint_iff u
  | string s => exact iff_of_true rfl trivial
  | double x =>
    cases x with
    | finite y => exact iff_of_true rfl ⟨y, rfl⟩
    | infinite negative => exact iff_of_false (fun h => by cases h) (fun ⟨y, hy⟩ => by cases hy)
    | nan => exact iff_of_false (fun h => by cases h) (fun ⟨y, hy⟩ => by cases hy)

/-- To be read as a value is to be what it is written as, for values in their own kind. -/
theorem ofJson?_eq_some_iff {v : Json} {a : AttributeValue} : ofJson? v = some a ↔ v = a.toJson ∧ a.InKind := by
  constructor
  · intro h
    obtain rfl := toJson_of_ofJson? h
    exact ⟨rfl, (canonical_iff a).mp h⟩
  · rintro ⟨rfl, h⟩
    exact (canonical_iff a).mpr h

theorem eq_whole_iff {w n : WholeNumber} : Json.number (.whole w) = .number (.whole n) ↔ w.value = n.value := by
  obtain ⟨value, lower, upper⟩ := w
  obtain ⟨value', lower', upper'⟩ := n
  simp

/-- What a JSON value is read as. -/
theorem readsAs (v : Json) : ReadsAs v where
  read := isSome_ofJson?_iff v
  written _ := toJson_of_ofJson?
  walked _ := walk_of_ofJson?
  flattened _ h naming _ := flattened_of_ofJson? h naming
  signed i := by
    rw [ofJson?_eq_some_iff, toJson]
    constructor
    · rintro ⟨rfl, -⟩
      exact ⟨_, rfl, rfl⟩
    · rintro ⟨n, rfl, hn⟩
      exact ⟨eq_whole_iff.mpr hn, trivial⟩
  unsigned u := by
    rw [ofJson?_eq_some_iff, toJson]
    constructor
    · rintro ⟨rfl, h⟩
      exact ⟨_, rfl, rfl, h⟩
    · rintro ⟨n, rfl, hn, h⟩
      have hlarge : greatestSigned < u.toNat := hn ▸ h
      exact ⟨eq_whole_iff.mpr hn, hlarge⟩
  double x := by
    rw [ofJson?_eq_some_iff]
    constructor
    · rintro ⟨rfl, y, rfl⟩
      exact ⟨y, rfl, rfl⟩
    · rintro ⟨y, rfl, rfl⟩
      exact ⟨rfl, y, rfl⟩

/-! ### Counts -/

theorem inKind_ofUInt64 (n : UInt64) : (ofUInt64 n).InKind := by
  rw [ofUInt64]
  split
  case isTrue => trivial
  case isFalse h =>
    change greatestSigned < n.toNat
    rw [greatestSigned]
    omega

/-- A count is written as the number that it is. -/
theorem toJson_ofUInt64 (n : UInt64) : (ofUInt64 n).toJson = Json.ofUInt64 n := by
  rw [ofUInt64]
  split
  case isTrue h =>
    have hvalue : (Int64.ofNat n.toNat).toInt = n.toNat := Int64.toInt_ofNat_of_lt h
    exact eq_whole_iff.mpr hvalue
  case isFalse => rfl

/-- **Scalars have one meaning**, in records, in documents and for counts. -/
theorem scalars_agree : (∀ v : Json, ReadsAs v) ∧ (∀ a : AttributeValue, ofJson? a.toJson = some a ↔ a.InKind) ∧
    ∀ n : UInt64, (ofUInt64 n).InKind ∧ (ofUInt64 n).toJson = Json.ofUInt64 n :=
  ⟨readsAs, canonical_iff, fun n => ⟨inKind_ofUInt64 n, toJson_ofUInt64 n⟩⟩

end AttributeValue

end LogTagger
