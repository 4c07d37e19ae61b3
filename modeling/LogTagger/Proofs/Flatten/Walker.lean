import LogTagger.Proofs.Flatten.Collisions
import LogTagger.Proofs.Text.Octets
import Mathlib

/-!
# One path for the whole walk

A document is walked with a single path that grows by a segment on the way down and is cut back to the length it had
on the way up, both in the chosen naming and in the fields' own names. `Walker` is such a walk: its path, what has
been gathered, and what remains to be done, among it the lengths to which the path is to be cut. A cut fails inside a
character.

What is kept at every step is that the key is the name of the path in the fields' own names, converted as a whole,
though it was put together from segments converted one by one (`Walker.Named.step`); it rests on the conversion looking
past no separator (`dottedName_append_dot`). A length written down on the way down is that of a beginning of both paths
(`Marked`), so no cut fails and each gives back what was there.

**`walk_named`** states this for every document and every step of its walk, and that the walk does what
`Flattening.walk` does with a path of its own for each value.
-/

namespace LogTagger

/-! ### Paths that grow and shrink -/

namespace KeyPath

/-- The text in the first octets of a text, if they are one. -/
def cut (octets : Nat) (s : String) : Option String := Text.ofOctets? (s.toUTF8.data.toList.take octets)

/-- A text is what fills its octets in front of any other. -/
theorem cut_append (s rest : String) : cut s.toUTF8.size (s ++ rest) = some s := by
  have hsize : s.toUTF8.size = (Text.encode s.toList).length := by
    rw [← Text.data_toUTF8, Array.length_toList]
    rfl
  rw [cut, Text.data_toUTF8, String.toList_append, Text.encode_append, hsize, List.take_left, Text.ofOctets?_encode,
    String.ofList_toList]

theorem exists_join_eq_append (path segment : String) : ∃ rest, join path segment = path ++ rest := by
  by_cases h : path = ""
  · exact ⟨segment, by simp [join, h]⟩
  · exact ⟨"." ++ segment, by simp [join, h, String.append_assoc]⟩

/-- A segment is taken off by going back to the length before. -/
theorem cut_join (path segment : String) : cut path.toUTF8.size (join path segment) = some path := by
  obtain ⟨rest, hrest⟩ := exists_join_eq_append path segment
  rw [hrest, cut_append]

end KeyPath

/-! ### The walk step by step -/

/-- Something that a walk has still to do. -/
inductive WalkTask where
  /-- To enter the scalars of the value to which the path leads. -/
  | visit (v : Json)
  /-- To go down into items, from an index on. -/
  | items (index : Nat) (rest : List Json)
  /-- To go down into fields. -/
  | fields (rest : List (String × Json))
  /-- To go up to where the paths had so many octets. -/
  | back (key literal : Nat)

/-- A walk through a document. -/
structure Walker where
  /-- The path to where it is. -/
  path : KeyPath := {}
  /-- What has been gathered. -/
  gathered : Flattening := {}
  /-- What remains to be done. -/
  work : List WalkTask

namespace Walker

/-- The walk at its start. -/
def start (document : Json) : Walker := { work := [.visit document] }

/-- The walk with a scalar entered under its path. -/
def enter (w : Walker) (v : AttributeValue) : Walker := { w with gathered := w.gathered.emit w.path v }

/-- What there is to do for a value. -/
def visited (w : Walker) : Json → Walker
  | .null => w
  | .bool b => w.enter (.bool b)
  | .number n => w.enter (.ofNumber n)
  | .string s => w.enter (.string s)
  | .array items => { w with work := .items 0 items :: w.work }
  | .object fields => { w with work := .fields fields :: w.work }

/-- The task to come back to where the walk is. -/
def mark (p : KeyPath) : WalkTask := .back p.key.toUTF8.size p.literal.toUTF8.size

/-- The next step, unless nothing remains to be done or a cut fails. -/
def step? (naming : KeyNaming) (w : Walker) : Option Walker :=
  match w.work with
  | [] => none
  | .visit v :: work => some (visited { w with work } v)
  | .items _ [] :: work => some { w with work }
  | .items index (v :: rest) :: work =>
    some { w with path := w.path.item index, work := .visit v :: mark w.path :: .items (index + 1) rest :: work }
  | .fields [] :: work => some { w with work }
  | .fields ((name, v) :: rest) :: work =>
    some { w with path := w.path.field naming name, work := .visit v :: mark w.path :: .fields rest :: work }
  | .back key literal :: work => do
    return { w with path := ⟨← KeyPath.cut key w.path.key, ← KeyPath.cut literal w.path.literal⟩, work }

/-- One walk reaches the other, by any number of steps. -/
def Reaches (naming : KeyNaming) : Walker → Walker → Prop :=
  Relation.ReflTransGen fun w w' => w.step? naming = some w'

variable {naming : KeyNaming}

/-! ### Where a walk comes back -/

/-- Where a path has grown by a segment, the length before gives it back. -/
theorem step?_mark (p : KeyPath) (f : Flattening) (key literal : String) (work : List WalkTask) :
    step? naming ⟨⟨KeyPath.join p.key key, KeyPath.join p.literal literal⟩, f, mark p :: work⟩ = some ⟨p, f, work⟩ := by
  simp only [step?, mark, KeyPath.cut_join]
  rfl

/-- Into an item and out of it: what is done for the item leaves its path, and the cut gives back the path before. -/
theorem descend_item (v : Json) (p : KeyPath) (f : Flattening) (index : Nat) (rest : List Json) (work : List WalkTask)
    (h : Reaches naming ⟨p.item index, f, .visit v :: mark p :: .items (index + 1) rest :: work⟩
      ⟨p.item index, Flattening.walk naming (p.item index) v f, mark p :: .items (index + 1) rest :: work⟩) :
    Reaches naming ⟨p, f, .items index (v :: rest) :: work⟩
      ⟨p, Flattening.walk naming (p.item index) v f, .items (index + 1) rest :: work⟩ := by
  have hdown : step? naming ⟨p, f, .items index (v :: rest) :: work⟩ =
      some ⟨p.item index, f, .visit v :: mark p :: .items (index + 1) rest :: work⟩ := rfl
  exact .head hdown (h.tail (step?_mark p _ (toString index) (toString index) _))

/-- Into a field and out of it. -/
theorem descend_field (v : Json) (p : KeyPath) (f : Flattening) (name : String) (rest : List (String × Json))
    (work : List WalkTask)
    (h : Reaches naming ⟨p.field naming name, f, .visit v :: mark p :: .fields rest :: work⟩
      ⟨p.field naming name, Flattening.walk naming (p.field naming name) v f, mark p :: .fields rest :: work⟩) :
    Reaches naming ⟨p, f, .fields ((name, v) :: rest) :: work⟩
      ⟨p, Flattening.walk naming (p.field naming name) v f, .fields rest :: work⟩ := by
  have hdown : step? naming ⟨p, f, .fields ((name, v) :: rest) :: work⟩ =
      some ⟨p.field naming name, f, .visit v :: mark p :: .fields rest :: work⟩ := rfl
  exact .head hdown (h.tail (step?_mark p _ (naming.segment name) name _))

mutual

/-- What is done for a value is done with the path as it was, and leaves it so. -/
theorem reaches_visit : ∀ (v : Json) (p : KeyPath) (f : Flattening) (work : List WalkTask),
    Reaches naming ⟨p, f, .visit v :: work⟩ ⟨p, Flattening.walk naming p v f, work⟩
  | .null, _, _, _ => .single rfl
  | .bool _, _, _, _ => .single rfl
  | .number _, _, _, _ => .single rfl
  | .string _, _, _, _ => .single rfl
  | .array items, p, f, work => .head rfl (reaches_items items 0 p f work)
  | .object fields, p, f, work => .head rfl (reaches_fields fields p f work)

theorem reaches_items : ∀ (items : List Json) (index : Nat) (p : KeyPath) (f : Flattening) (work : List WalkTask),
    Reaches naming ⟨p, f, .items index items :: work⟩ ⟨p, Flattening.walkItems naming p index items f, work⟩
  | [], _, _, _, _ => .single rfl
  | v :: rest, index, p, f, work =>
    (descend_item v p f index rest work (reaches_visit v _ f _)).trans (reaches_items rest (index + 1) p _ work)

theorem reaches_fields : ∀ (fields : List (String × Json)) (p : KeyPath) (f : Flattening) (work : List WalkTask),
    Reaches naming ⟨p, f, .fields fields :: work⟩ ⟨p, Flattening.walkFields naming p fields f, work⟩
  | [], _, _, _ => .single rfl
  | (name, v) :: rest, p, f, work =>
    (descend_field v p f name rest work (reaches_visit v _ f _)).trans (reaches_fields rest p _ work)

end

/-- From every point a walk goes on to its end, where all of the document has been gathered. -/
theorem reaches_end {document : Json} {w : Walker} (h : Reaches naming (start document) w) :
    Reaches naming w ⟨{}, Flattening.ofDocument naming document, []⟩ := by
  have hunique : Relator.RightUnique fun w w' : Walker => w.step? naming = some w' := by
    intro w u v hu hv
    exact Option.some.inj (hu.symm.trans hv)
  have hend : Reaches naming (start document) ⟨{}, Flattening.ofDocument naming document, []⟩ :=
    reaches_visit document {} {} []
  obtain hlater | hearlier := Relation.ReflTransGen.total_of_right_unique hunique h hend
  · exact hlater
  · -- Nothing comes after the end.
    obtain rfl | ⟨u, hstep, -⟩ := hearlier.cases_head
    · exact .refl
    · cases hstep

/-! ### What every step keeps -/

/-- The lengths to which paths are to be cut are those of beginnings of the path in the fields' own names and of
their names. -/
inductive Marked (naming : KeyNaming) : String → List WalkTask → Prop where
  /-- Nothing remains to be done. -/
  | nothing {literal : String} : Marked naming literal []
  /-- A value is to be visited where the walk is. -/
  | visit {literal : String} {v : Json} {work : List WalkTask} : Marked naming literal work →
    Marked naming literal (.visit v :: work)
  /-- So are items. -/
  | items {literal : String} {index : Nat} {rest : List Json} {work : List WalkTask} : Marked naming literal work →
    Marked naming literal (.items index rest :: work)
  /-- So are fields. -/
  | fields {literal : String} {rest : List (String × Json)} {work : List WalkTask} : Marked naming literal work →
    Marked naming literal (.fields rest :: work)
  /-- The walk is to go up by one segment. -/
  | back {outer segment : String} {work : List WalkTask} : Marked naming outer work →
    Marked naming (KeyPath.join outer segment) (mark (.named naming outer) :: work)

/-- The key is the name of the path in the fields' own names, and will be so further up. -/
structure Named (naming : KeyNaming) (w : Walker) : Prop where
  /-- It is so now. -/
  path : w.path = .named naming w.path.literal
  /-- It will be so after every cut. -/
  marks : Marked naming w.path.literal w.work

theorem named_start (document : Json) : Named naming (start document) :=
  ⟨(KeyPath.named_empty naming).symm, .visit .nothing⟩

/-- Every step keeps it so. -/
theorem Named.step {w w' : Walker} (h : Named naming w) (hstep : w.step? naming = some w') : Named naming w' := by
  obtain ⟨p, f, work⟩ := w
  obtain ⟨hpath, hmarks⟩ := h
  simp only at hpath hmarks
  generalize p.literal = literal at hpath hmarks
  subst hpath
  cases hmarks with
  | nothing => cases hstep
  | @visit _ v work hwork =>
    obtain rfl := Option.some.inj hstep
    cases v with
    | null | bool _ | number _ | string _ => exact ⟨rfl, hwork⟩
    | array items => exact ⟨rfl, .items hwork⟩
    | object fields => exact ⟨rfl, .fields hwork⟩
  | @items _ index rest work hwork =>
    cases rest with
    | nil =>
      obtain rfl := Option.some.inj hstep
      exact ⟨rfl, hwork⟩
    | cons v rest =>
      obtain rfl := Option.some.inj hstep
      refine ⟨KeyPath.item_named naming literal index, ?_⟩
      exact .visit (.back (.items hwork))
  | @fields _ rest work hwork =>
    cases rest with
    | nil =>
      obtain rfl := Option.some.inj hstep
      exact ⟨rfl, hwork⟩
    | cons e rest =>
      obtain rfl := Option.some.inj hstep
      refine ⟨KeyPath.field_named naming literal e.1, ?_⟩
      exact .visit (.back (.fields hwork))
  | @back outer segment work hwork =>
    have hback : step? naming ⟨.named naming (KeyPath.join outer segment), f, mark (.named naming outer) :: work⟩ =
        some ⟨.named naming outer, f, work⟩ := by
      rw [KeyPath.named, naming.segment_join]
      exact step?_mark (.named naming outer) f (naming.segment segment) segment work
    rw [hback] at hstep
    obtain rfl := Option.some.inj hstep
    exact ⟨rfl, hwork⟩

/-- So it is at every point of the walk. -/
theorem named_of_reaches {document : Json} {w : Walker} (h : Reaches naming (start document) w) : Named naming w := by
  induction h with
  | refl => exact named_start document
  | tail _ hstep ih => exact ih.step hstep

theorem key_of_reaches {document : Json} {w : Walker} (h : Reaches naming (start document) w) :
    w.path.key = naming.segment w.path.literal :=
  congrArg KeyPath.key (named_of_reaches h).path

/-! ### The two paths -/

/-- The two paths of the walk through a document. -/
structure TwoPaths (document : Json) : Prop where
  /-- Under dotted naming the key is the dotted name of the path in the fields' own names. -/
  dotted : ∀ w, Reaches .dotted (start document) w → w.path.key = dottedName w.path.literal
  /-- Under literal naming it is that path. -/
  literal : ∀ w, Reaches .literal (start document) w → w.path.key = w.path.literal
  /-- From an item the walk comes back to both paths as they were, whatever they were. -/
  item : ∀ naming p f index v rest work, Reaches naming ⟨p, f, .items index (v :: rest) :: work⟩
    ⟨p, Flattening.walk naming (p.item index) v f, .items (index + 1) rest :: work⟩
  /-- From a field it does as well. -/
  field : ∀ naming p f name v rest work, Reaches naming ⟨p, f, .fields ((name, v) :: rest) :: work⟩
    ⟨p, Flattening.walk naming (p.field naming name) v f, .fields rest :: work⟩
  /-- From every point the walk goes on to its end, where the paths are empty and all has been gathered. -/
  ends : ∀ naming w, Reaches naming (start document) w →
    Reaches naming w ⟨{}, Flattening.ofDocument naming document, []⟩
  /-- Every scalar is entered under the two paths of such a point. -/
  entered : ∀ naming, ∀ e ∈ document.leaves naming {}, e.1.key = naming.segment e.1.literal
  /-- Under dotted naming the two paths differ exactly if that in the fields' own names has a capital. -/
  apart : ∀ w, Reaches .dotted (start document) w →
    (w.path.key ≠ w.path.literal ↔ hasCapital w.path.literal = true)
  /-- Under dotted naming the key has no capital. -/
  lower : ∀ w, Reaches .dotted (start document) w → hasCapital w.path.key = false
  /-- Under dotted naming one path is empty exactly if the other is. -/
  empty : ∀ w, Reaches .dotted (start document) w → (w.path.key = "" ↔ w.path.literal = "")

/-- **Converting names commutes with joining them**, and so the key of a walk is at every point the name of its path in
the fields' own names. -/
theorem walk_named : (∀ a b, dottedName (a ++ "." ++ b) = dottedName a ++ "." ++ dottedName b) ∧
    ∀ document, TwoPaths document := by
  refine ⟨dottedName_append_dot, fun document => ?_⟩
  have hdotted : ∀ w, Reaches .dotted (start document) w → w.path.key = dottedName w.path.literal :=
    fun w hw => key_of_reaches hw
  refine ⟨hdotted, fun w hw => key_of_reaches hw, ?item, ?field, fun naming w hw => reaches_end hw, ?entered, ?apart,
    ?lower, ?empty⟩
  case item =>
    intro naming p f index v rest work
    exact descend_item v p f index rest work (reaches_visit v _ f _)
  case field =>
    intro naming p f name v rest work
    exact descend_field v p f name rest work (reaches_visit v _ f _)
  case entered =>
    intro naming e he
    rw [← KeyPath.named_empty naming, Json.leaves_named] at he
    obtain ⟨leaf, -, rfl⟩ := List.mem_map.mp he
    rfl
  case apart =>
    intro w hw
    rw [hdotted w hw, Ne, dottedName_eq_self_iff, Bool.not_eq_false]
  case lower =>
    intro w hw
    rw [hdotted w hw]
    exact hasCapital_dottedName w.path.literal
  case empty =>
    intro w hw
    rw [hdotted w hw]
    exact dottedName_eq_empty_iff

end Walker

end LogTagger
