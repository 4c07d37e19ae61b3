import LogTagger.Proofs.Json.Numbers
import LogTagger.Proofs.Json.Strings

/-!
# Written values are read back

`draftOf` is the draft that the text of a value has, and the reader finds it (`value?_chars`), as long as
it reads back every double in the value. The fuel for it is twice the length of the text.
-/

namespace LogTagger

namespace Json

mutual

/-- The doubles in a value. -/
def doubles : Json → List FiniteDouble
  | .number (.double x) => [x]
  | .number (.whole _) | .null | .bool _ | .string _ => []
  | .array items => itemDoubles items
  | .object fields => fieldDoubles fields

/-- The doubles in the items of an array. -/
def itemDoubles : List Json → List FiniteDouble
  | [] => []
  | v :: rest => doubles v ++ itemDoubles rest

/-- The doubles in the fields of an object. -/
def fieldDoubles : List (String × Json) → List FiniteDouble
  | [] => []
  | (_, v) :: rest => doubles v ++ fieldDoubles rest

end

/-- Every double in a value is read back. -/
def Legible (v : Json) : Prop := ∀ x ∈ v.doubles, x.ReadsBack

theorem Legible.number {n : Number} (h : (Json.number n).Legible) : n.Legible := by
  cases n with
  | whole n => exact legible_whole n
  | double x => exact legible_double (h x (by simp [doubles]))

theorem legible_array_cons {v : Json} {rest : List Json} :
    (Json.array (v :: rest)).Legible ↔ v.Legible ∧ (Json.array rest).Legible := by
  simp only [Legible, doubles, itemDoubles, List.mem_append, or_imp, forall_and]

theorem legible_object_cons {e : String × Json} {rest : List (String × Json)} :
    (Json.object (e :: rest)).Legible ↔ e.2.Legible ∧ (Json.object rest).Legible := by
  simp only [Legible, doubles, fieldDoubles, List.mem_append, or_imp, forall_and]

theorem Legible.item {items : List Json} (h : (Json.array items).Legible) : ∀ v ∈ items, v.Legible := by
  induction items with
  | nil => simp
  | cons v rest ih =>
    obtain ⟨hv, hrest⟩ := legible_array_cons.mp h
    exact List.forall_mem_cons.mpr ⟨hv, ih hrest⟩

theorem Legible.field {fields : List (String × Json)} (h : (Json.object fields).Legible) :
    ∀ e ∈ fields, e.2.Legible := by
  induction fields with
  | nil => simp
  | cons e rest ih =>
    obtain ⟨he, hrest⟩ := legible_object_cons.mp h
    exact List.forall_mem_cons.mpr ⟨he, ih hrest⟩

/-- The parts of a number's text. -/
def partsOf (n : Number) : NumberText := ((Reader.number? n.text.toList).map (·.1)).getD ⟨false, [], none, none⟩

theorem Number.Legible.parts {n : Number} (h : n.Legible) :
    Reader.number? n.text.toList = some (partsOf n, []) ∧ (partsOf n).number? = some n := by
  obtain ⟨t, ht, hn⟩ := h
  have hparts : partsOf n = t := by rw [partsOf, ht]; rfl
  exact ⟨hparts ▸ ht, hparts ▸ hn⟩

mutual

/-- The draft of a value's text. -/
def draftOf : Json → Draft
  | .null => .null
  | .bool b => .bool b
  | .number n => .number (partsOf n)
  | .string s => .string (unitsOf s)
  | .array items => .array (itemDrafts items)
  | .object fields => .object (memberDrafts fields)

/-- The drafts of the items of an array. -/
def itemDrafts : List Json → List Draft
  | [] => []
  | v :: rest => draftOf v :: itemDrafts rest

/-- The drafts of the fields of an object. -/
def memberDrafts : List (String × Json) → List (List TextUnit × Draft)
  | [] => []
  | (name, v) :: rest => (unitsOf name, draftOf v) :: memberDrafts rest

end

theorem itemDrafts_eq_map (items : List Json) : itemDrafts items = items.map draftOf := by
  induction items with
  | nil => rfl
  | cons v rest ih => rw [itemDrafts, ih, List.map_cons]

theorem itemChars_cons_cons (v w : Json) (more : List Json) :
    itemChars (v :: w :: more) = chars v ++ ',' :: itemChars (w :: more) := rfl

theorem fieldChars_cons_cons (name : String) (v : Json) (e : String × Json) (more : List (String × Json)) :
    fieldChars ((name, v) :: e :: more) = quoted name ++ ':' :: (chars v ++ ',' :: fieldChars (e :: more)) := rfl

namespace Reader

/-- The text of a value begins with a character of its own. -/
theorem chars_eq_cons {v : Json} (h : v.Legible) : ∃ c tail, v.chars = c :: tail ∧ isSpace c = false ∧ c ≠ ']' := by
  cases v with
  | null => exact ⟨_, _, rfl, rfl, by decide⟩
  | bool b => cases b <;> exact ⟨_, _, rfl, rfl, by decide⟩
  | string s => exact ⟨_, _, rfl, rfl, by decide⟩
  | array items => exact ⟨_, _, rfl, rfl, by decide⟩
  | object fields => exact ⟨_, _, rfl, rfl, by decide⟩
  | number n =>
    rw [chars]
    have hparts := h.number.parts.1
    have hnumeral := fun c => isNumeral_of_mem_text n (c := c)
    generalize n.text.toList = s at hparts hnumeral
    cases s with
    | nil => cases hparts
    | cons c tail =>
      have hc := hnumeral c (by simp)
      refine ⟨c, tail, rfl, isSpace_of_isNumeral hc, ?_⟩
      rintro rfl
      cases hc

theorem itemChars_eq_cons {v : Json} (h : v.Legible) (more : List Json) :
    ∃ c tail, itemChars (v :: more) = c :: tail ∧ isSpace c = false ∧ c ≠ ']' := by
  obtain ⟨c, tail, hchars, hspace, hc⟩ := chars_eq_cons h
  cases more with
  | nil => exact ⟨c, tail, hchars, hspace, hc⟩
  | cons w more => exact ⟨c, _, by rw [itemChars_cons_cons, hchars, List.cons_append], hspace, hc⟩

theorem fieldChars_eq_cons (e : String × Json) (more : List (String × Json)) :
    ∃ tail, fieldChars (e :: more) = '"' :: tail := by
  obtain ⟨name, v⟩ := e
  cases more with
  | nil => exact ⟨_, rfl⟩
  | cons w more => exact ⟨_, by rw [fieldChars_cons_cons, quoted, List.cons_append]⟩

/-- The text of a number holds that number. -/
theorem value?_text {n : Number} (h : n.Legible) {fuel : Nat} {rest : List Char} (hrest : Delimited rest) :
    value? (fuel + 1) (n.text.toList ++ rest) = some (.number (partsOf n), rest) := by
  have hparts := h.parts.1
  have hnumeral := fun c => isNumeral_of_mem_text n (c := c)
  generalize n.text.toList = s at hparts hnumeral ⊢
  cases s with
  | nil => cases hparts
  | cons c tail =>
    have happend := number?_append hrest hparts
    rw [List.cons_append] at happend ⊢
    rw [value?_eq_number? (hnumeral c (by simp)), happend]
    rfl

/-! ### One step of the reader -/

variable {fuel : Nat} {s rest : List Char} {d : Draft}

theorem value?_array {c : Char} (hspace : isSpace c = false) (hc : c ≠ ']') :
    value? (fuel + 1) ('[' :: c :: s) = items? fuel (c :: s) [] := by
  rw [value?, skip_cons rfl]
  simp only [skip_cons hspace]
  split
  case h_1 heq => exact absurd (List.cons.inj heq).1 hc
  case h_2 => rfl

theorem value?_object : value? (fuel + 1) ('\x7b' :: '"' :: s) = members? fuel ('"' :: s) [] := rfl

theorem items?_comma (h : value? fuel s = some (d, ',' :: rest)) (acc : List Draft) :
    items? (fuel + 1) s acc = items? fuel rest (d :: acc) := by
  rw [items?, h]
  rfl

theorem items?_bracket (h : value? fuel s = some (d, ']' :: rest)) (acc : List Draft) :
    items? (fuel + 1) s acc = some (.array (d :: acc).reverse, rest) := by
  rw [items?, h]
  rfl

theorem members?_comma (name : String) (h : value? fuel s = some (d, ',' :: rest))
    (acc : List (List TextUnit × Draft)) :
    members? (fuel + 1) (quoted name ++ ':' :: s) acc = members? fuel rest ((unitsOf name, d) :: acc) := by
  have hname := string?_quoted name (':' :: s)
  rw [quoted, List.cons_append, List.append_assoc, List.singleton_append, members?, skip_cons rfl]
  simp only [hname, skip_cons (show isSpace ':' = false from rfl), h, skip_cons (show isSpace ',' = false from rfl)]

theorem members?_brace (name : String) (h : value? fuel s = some (d, '\x7d' :: rest))
    (acc : List (List TextUnit × Draft)) :
    members? (fuel + 1) (quoted name ++ ':' :: s) acc = some (.object ((unitsOf name, d) :: acc).reverse, rest) := by
  have hname := string?_quoted name (':' :: s)
  rw [quoted, List.cons_append, List.append_assoc, List.singleton_append, members?, skip_cons rfl]
  simp only [hname, skip_cons (show isSpace ':' = false from rfl), h, skip_cons (show isSpace '\x7d' = false from rfl)]

/-! ### Whole values -/

mutual

/-- The reader finds the draft of a value in its text. -/
theorem value?_chars : (v : Json) → v.Legible → (fuel : Nat) → (rest : List Char) →
    2 * v.chars.length ≤ fuel + 1 → Delimited rest → value? fuel (v.chars ++ rest) = some (draftOf v, rest)
  | v, h, 0, rest, hfuel, _ => by
    obtain ⟨c, tail, hchars, -⟩ := chars_eq_cons h
    rw [hchars, List.length_cons] at hfuel
    omega
  | .null, _, fuel + 1, rest, _, _ => rfl
  | .bool true, _, fuel + 1, rest, _, _ => rfl
  | .bool false, _, fuel + 1, rest, _, _ => rfl
  | .number n, h, fuel + 1, rest, _, hrest => value?_text h.number hrest
  | .string s, _, fuel + 1, rest, _, _ => by
    rw [chars, quoted, List.cons_append, List.append_assoc, List.singleton_append, value?, skip_cons rfl]
    simp only [string?_quoted, Option.map_some, draftOf]
  | .array [], _, fuel + 1, rest, _, _ => rfl
  | .array (v :: more), h, fuel + 1, rest, hfuel, _ => by
    rw [chars, List.length_cons, List.length_append, List.length_singleton] at hfuel
    have hitems := items?_itemChars (v :: more) (List.cons_ne_nil v more) h fuel rest [] (by omega)
    obtain ⟨c, tail, hcons, hspace, hc⟩ := itemChars_eq_cons (legible_array_cons.mp h).1 more
    rw [chars, List.cons_append, List.append_assoc, List.singleton_append]
    rw [hcons] at hitems ⊢
    exact (value?_array hspace hc).trans hitems
  | .object [], _, fuel + 1, rest, _, _ => rfl
  | .object (e :: more), h, fuel + 1, rest, hfuel, _ => by
    rw [chars, List.length_cons, List.length_append, List.length_singleton] at hfuel
    have hmembers := members?_fieldChars (e :: more) (List.cons_ne_nil e more) h fuel rest [] (by omega)
    obtain ⟨tail, hcons⟩ := fieldChars_eq_cons e more
    rw [chars, List.cons_append, List.append_assoc, List.singleton_append]
    rw [hcons] at hmembers ⊢
    exact value?_object.trans hmembers

theorem items?_itemChars : (items : List Json) → items ≠ [] → (Json.array items).Legible →
    (fuel : Nat) → (rest : List Char) → (acc : List Draft) → 2 * (itemChars items).length ≤ fuel →
      items? fuel (itemChars items ++ ']' :: rest) acc = some (.array (acc.reverse ++ itemDrafts items), rest)
  | [], hne, _, _, _, _, _ => absurd rfl hne
  | [v], _, h, fuel, rest, acc, hfuel => by
    obtain ⟨hlegible, -⟩ := legible_array_cons.mp h
    obtain ⟨c, tail, hcons, -⟩ := itemChars_eq_cons hlegible []
    obtain ⟨fuel, rfl⟩ : ∃ k, fuel = k + 1 := by
      rw [hcons, List.length_cons] at hfuel
      exact ⟨fuel - 1, by omega⟩
    have hv := value?_chars v hlegible fuel (']' :: rest) hfuel (delimited_bracket rest)
    rw [itemChars, items?_bracket hv]
    simp [itemDrafts]
  | v :: w :: more, _, h, fuel, rest, acc, hfuel => by
    obtain ⟨hlegible, hmore⟩ := legible_array_cons.mp h
    rw [itemChars_cons_cons, List.length_append, List.length_cons] at hfuel
    obtain ⟨fuel, rfl⟩ : ∃ k, fuel = k + 1 := ⟨fuel - 1, by omega⟩
    have hv := value?_chars v hlegible fuel (',' :: (itemChars (w :: more) ++ ']' :: rest)) (by omega)
      (delimited_comma _)
    have hitems := items?_itemChars (w :: more) (List.cons_ne_nil w more) hmore fuel rest (draftOf v :: acc) (by omega)
    rw [itemChars_cons_cons, List.append_assoc, List.cons_append, items?_comma hv, hitems]
    simp [itemDrafts]

theorem members?_fieldChars : (fields : List (String × Json)) → fields ≠ [] → (Json.object fields).Legible →
    (fuel : Nat) → (rest : List Char) → (acc : List (List TextUnit × Draft)) → 2 * (fieldChars fields).length ≤ fuel →
      members? fuel (fieldChars fields ++ '\x7d' :: rest) acc =
        some (.object (acc.reverse ++ memberDrafts fields), rest)
  | [], hne, _, _, _, _, _ => absurd rfl hne
  | [(name, v)], _, h, fuel, rest, acc, hfuel => by
    obtain ⟨hlegible, -⟩ := legible_object_cons.mp h
    rw [fieldChars, List.length_append, List.length_cons] at hfuel
    obtain ⟨fuel, rfl⟩ : ∃ k, fuel = k + 1 := ⟨fuel - 1, by omega⟩
    have hv := value?_chars v hlegible fuel ('\x7d' :: rest) (by omega) (delimited_brace rest)
    rw [fieldChars, List.append_assoc, List.cons_append, members?_brace name hv]
    simp [memberDrafts]
  | (name, v) :: w :: more, _, h, fuel, rest, acc, hfuel => by
    obtain ⟨hlegible, hmore⟩ := legible_object_cons.mp h
    rw [fieldChars_cons_cons, List.length_append, List.length_cons, List.length_append, List.length_cons] at hfuel
    obtain ⟨fuel, rfl⟩ : ∃ k, fuel = k + 1 := ⟨fuel - 1, by omega⟩
    have hv := value?_chars v hlegible fuel (',' :: (fieldChars (w :: more) ++ '\x7d' :: rest)) (by omega)
      (delimited_comma _)
    have hmembers := members?_fieldChars (w :: more) (List.cons_ne_nil w more) hmore fuel rest
      ((unitsOf name, draftOf v) :: acc) (by omega)
    rw [fieldChars_cons_cons, List.append_assoc, List.cons_append, List.append_assoc, List.cons_append,
      members?_comma name hv, hmembers]
    simp [memberDrafts]

end

/-- The text of a value has the draft of the value. -/
theorem draft?_chars {v : Json} (h : v.Legible) : draft? v.chars = some (draftOf v) := by
  have hread := value?_chars v h (2 * v.chars.length + 1) [] (by omega) delimited_nil
  rw [List.append_nil] at hread
  rw [draft?, hread]
  rfl

end Reader

end Json

end LogTagger
