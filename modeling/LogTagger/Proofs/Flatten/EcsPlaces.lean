import LogTagger.Flatten.Ecs
import LogTagger.Proofs.Flatten.Outline
import LogTagger.Proofs.SortedMap
import Mathlib.Data.List.Perm.Basic

/-!
# Where the schema of ECS finds its entries

The schema reads some of the leaves of a document and gives each a key that its route decides
(`Ecs.Container.place`); it passes over the others. That a reader keeps to such places (`Ecs.Reads`) says
two things: the entries of what is read are the leaves that have a place, and whether anything is read
follows from the outline. Both carry over from the fields of a structure to the structure, whether it is
given as an object, in which fields may be missing and others may stand between them, or as an array.

**`Ecs.Container.reads`**: so it is with the documents of containers.
-/

namespace LogTagger

namespace Ecs

open Json (Route Step)

/-! ### Places -/

/-- Which leaves are read, and the key of each. -/
abbrev Place := Route → Option String

namespace Place

/-- The place of a scalar. -/
def scalar (key : String) : Place
  | [] => some key
  | _ :: _ => none

/-- The places in the items of an array. -/
def items (below : Nat → Place) : Place
  | .item i :: route => below i route
  | _ => none

/-- The places in the items of an array under its key and their index. -/
def indexed (key : String) (below : String → Place) : Place := items fun i => below (key ++ "." ++ toString i)

/-- The places in the field of a name. -/
def named (table : List (String × Place)) (name : String) : Place :=
  fun route => (SortedMap.lookup name table).bind fun place => place route

/-- The places in the fields of a structure, by name or by position. -/
def fields (table : List (String × Place)) : Place
  | .field name :: route => named table name route
  | .item i :: route => (table.map Prod.fst)[i]?.bind fun name => named table name route
  | [] => none

end Place

/-- The leaves that have a place, under their keys. -/
def placed (place : Place) (l : List (Route × AttributeValue)) : List Leaf :=
  l.filterMap fun e => (place e.1).map (·, e.2)

theorem placed_append (place : Place) (l r : List (Route × AttributeValue)) :
    placed place (l ++ r) = placed place l ++ placed place r :=
  List.filterMap_append

theorem placed_through (place : Place) (s : Step) (l : List (Route × AttributeValue)) :
    placed place (Json.through s l) = placed (fun route => place (s :: route)) l := by
  rw [placed, Json.through, List.filterMap_map]
  rfl

theorem placed_nowhere (l : List (Route × AttributeValue)) : placed (fun _ => none) l = [] := by
  simp [placed]

/-- What is read of a value keeps to places. -/
structure Reads {α : Type} (read : Json → Option α) (entries : α → List Leaf) (place : Place) : Prop where
  /-- The entries are the leaves that have a place. -/
  exact : ∀ {v a}, v.Sorted → read v = some a → (placed place v.routed).Perm (entries a)
  /-- Whether anything is read follows from the outline. -/
  outline : ∀ v, (read v.outline).isSome = (read v).isSome

/-! ### Scalars and lists -/

theorem Reads.text (key : String) : Reads string? (fun s => [(key, .string s)]) (.scalar key) where
  exact {v s} _ h := by
    cases v <;> simp only [string?, Option.some.injEq, reduceCtorEq] at h
    rw [h]
    exact .refl _
  outline v := by cases v <;> rfl

theorem Reads.number (key : String) : Reads number? (fun n => [(key, .ofNumber n)]) (.scalar key) where
  exact {v n} _ h := by
    cases v <;> simp only [number?, Option.some.injEq, reduceCtorEq] at h
    rw [h]
    exact .refl _
  outline v := by cases v <;> rfl

theorem isSome_mapM {α β : Type} (f : α → Option β) (l : List α) :
    (l.mapM f).isSome = l.all fun a => (f a).isSome := by
  induction l with
  | nil => rfl
  | cons a rest ih =>
    rw [List.mapM_cons, List.all_cons, ← ih]
    cases f a with
    | none => rfl
    | some b => cases rest.mapM f <;> rfl

section

variable {α : Type} {read : Json → Option α} {entries : String → α → List Leaf} {below : String → Place}

theorem perm_placed_items (h : ∀ key, Reads read (entries key) (below key)) (key : String) {items : List Json}
    (hitems : ∀ v ∈ items, v.Sorted) (index : Nat) {l : List α} (hread : items.mapM read = some l) :
    (placed (.indexed key below) (Json.routedItems index items)).Perm
      ((l.zipIdx index).flatMap fun (a, i) => entries (key ++ "." ++ toString i) a) := by
  induction items generalizing index l with
  | nil =>
    obtain rfl : [] = l := Option.some.inj hread
    exact .refl _
  | cons v rest ih =>
    rw [List.mapM_cons] at hread
    obtain ⟨a, ha, hread⟩ := Option.bind_eq_some_iff.mp hread
    obtain ⟨as, has, hread⟩ := Option.bind_eq_some_iff.mp hread
    obtain rfl : a :: as = l := Option.some.inj hread
    have hfirst := (h (key ++ "." ++ toString index)).exact (hitems v List.mem_cons_self) ha
    have hrest := ih (fun w hw => hitems w (List.mem_cons_of_mem _ hw)) (index + 1) has
    rw [Json.routedItems, placed_append, placed_through, List.zipIdx_cons, List.flatMap_cons]
    exact hfirst.append hrest

/-- A list keeps to places if its items do. -/
theorem Reads.list (h : ∀ key, Reads read (entries key) (below key)) (key : String) :
    Reads (list? read) (fun l => indexed key entries (some l)) (.indexed key below) where
  exact {v l} hv hread := by
    cases hv with
    | array hitems => exact perm_placed_items h key hitems 0 hread
    | _ => cases hread
  outline v := by
    cases v with
    | array items =>
      rw [Json.outline, list?, list?, Json.outlineItems_eq_map, isSome_mapM, isSome_mapM, List.all_map]
      exact congrArg items.all (funext (h "").outline)
    | _ => rfl

end

/-! ### Fields -/

/-- What is found in the field of a name, given its places. -/
def found (slots : List (String × Json)) (name : String) (place : Place) : List Leaf :=
  ((SortedMap.lookup name slots).map fun v => placed place v.routed).getD []

theorem placed_named (table : List (String × Place)) (name : String) (l : List (Route × AttributeValue)) :
    placed (.named table name) l = ((SortedMap.lookup name table).map fun place => placed place l).getD [] := by
  cases h : SortedMap.lookup name table with
  | none =>
    have hnowhere : Place.named table name = fun _ => none := by
      funext route
      rw [Place.named, h, Option.bind_none]
    rw [hnowhere, placed_nowhere]
    rfl
  | some place =>
    have hplace : Place.named table name = place := by
      funext route
      rw [Place.named, h, Option.bind_some]
    rw [hplace]
    rfl

/-- The fields of a structure are in order. -/
theorem sorted_of_slots? {names : List String} {v : Json} {slots : List (String × Json)} (hv : v.Sorted)
    (h : slots? names v = some slots) : ∀ e ∈ slots, e.2.Sorted := by
  cases hv with
  | object _ hfields =>
    obtain rfl := Option.some.inj h
    exact hfields
  | array hitems =>
    rw [slots?] at h
    split at h
    · obtain rfl := Option.some.inj h
      exact fun e he => hitems _ (List.of_mem_zip he).2
    · cases h
  | _ => cases h

/-- No field of a structure has the name of another. -/
theorem nodup_of_slots? {names : List String} {v : Json} {slots : List (String × Json)} (hv : v.Sorted)
    (hnames : names.Nodup) (h : slots? names v = some slots) : (slots.map Prod.fst).Nodup := by
  cases hv with
  | object hkeys _ =>
    obtain rfl := Option.some.inj h
    exact SortedMap.nodup_of_pairwise hkeys
  | array _ =>
    rw [slots?] at h
    split at h
    case isTrue hlength =>
      obtain rfl := Option.some.inj h
      rwa [List.map_fst_zip (Nat.le_of_eq hlength.symm)]
    case isFalse => cases h
  | _ => cases h

theorem placed_routedFields (table : List (String × Place)) (slots : List (String × Json)) :
    placed (.fields table) (Json.routedFields slots) =
      slots.flatMap fun e => placed (.named table e.1) e.2.routed := by
  induction slots with
  | nil => rfl
  | cons e rest ih =>
    obtain ⟨name, v⟩ := e
    rw [Json.routedFields, placed_append, placed_through, ih, List.flatMap_cons]
    rfl

/-- The items of an array that stand for the fields of some names. -/
theorem placed_routedItems (table : List (String × Place)) {names : List String} {items : List Json}
    (hlength : items.length = names.length) {place : Place} (start : Nat)
    (hplace : ∀ i route, place (.item (start + i) :: route) = names[i]?.bind fun name => Place.named table name route) :
    placed place (Json.routedItems start items) =
      (names.zip items).flatMap fun e => placed (.named table e.1) e.2.routed := by
  induction names generalizing items start with
  | nil =>
    rw [List.length_eq_zero_iff.mp hlength]
    rfl
  | cons name names ih =>
    cases items with
    | nil => cases hlength
    | cons v rest =>
      have hfirst : (fun route => place (.item start :: route)) = Place.named table name := funext (hplace 0)
      have hrest := ih (Nat.succ.inj hlength) (start + 1) fun i route => by
        rw [Nat.add_assoc, Nat.add_comm 1 i]
        exact hplace (i + 1) route
      rw [Json.routedItems, placed_append, placed_through, hfirst, hrest]
      rfl

theorem placed_fields (table : List (String × Place)) {v : Json} {slots : List (String × Json)}
    (h : slots? (table.map Prod.fst) v = some slots) :
    placed (.fields table) v.routed = slots.flatMap fun e => placed (.named table e.1) e.2.routed := by
  cases v with
  | object fields =>
    obtain rfl := Option.some.inj h
    exact placed_routedFields table _
  | array items =>
    rw [slots?] at h
    split at h
    case isTrue hlength =>
      obtain rfl := Option.some.inj h
      exact placed_routedItems table hlength 0 fun i route => by rw [Nat.zero_add, Place.fields]
    case isFalse => cases h
  | _ => cases h

/-- The entries with a name, if no name occurs twice. -/
theorem flatMap_ite_eq_lookup {γ δ : Type} (g : γ → List δ) (name : String) {m : List (String × γ)}
    (hm : (m.map Prod.fst).Nodup) :
    (m.flatMap fun e => if e.1 = name then g e.2 else []) = ((SortedMap.lookup name m).map g).getD [] := by
  induction m with
  | nil => rfl
  | cons e rest ih =>
    obtain ⟨k, c⟩ := e
    obtain ⟨hnew, hrest⟩ := List.nodup_cons.mp hm
    rw [List.flatMap_cons, ih hrest]
    by_cases hk : name = k
    · have hnone : SortedMap.lookup k rest = none := SortedMap.lookup_eq_none_of_not_mem hnew
      simp [SortedMap.lookup, hk, hnone]
    · simp [SortedMap.lookup, hk, Ne.symm hk]

/-- Entries with the same name in two lists, met in the order of the one list or of the other. -/
theorem perm_flatMap_lookup {β γ δ : Type} (g : β → γ → List δ) {l : List (String × β)} {m : List (String × γ)}
    (hl : (l.map Prod.fst).Nodup) (hm : (m.map Prod.fst).Nodup) :
    (l.flatMap fun e => ((SortedMap.lookup e.1 m).map (g e.2)).getD []).Perm
      (m.flatMap fun e => ((SortedMap.lookup e.1 l).map fun b => g b e.2).getD []) := by
  induction l with
  | nil => simp [SortedMap.lookup]
  | cons e rest ih =>
    obtain ⟨name, b⟩ := e
    obtain ⟨hnew, hrest⟩ := List.nodup_cons.mp hl
    have hnone : SortedMap.lookup name rest = none := SortedMap.lookup_eq_none_of_not_mem hnew
    have hsplit : ∀ e : String × γ, ((SortedMap.lookup e.1 ((name, b) :: rest)).map fun b => g b e.2).getD [] =
        (if e.1 = name then g b e.2 else []) ++ ((SortedMap.lookup e.1 rest).map fun b => g b e.2).getD [] := by
      intro e
      by_cases he : e.1 = name
      · simp [SortedMap.lookup, he, hnone]
      · simp [SortedMap.lookup, he]
    rw [List.flatMap_cons, ← flatMap_ite_eq_lookup (g b) name hm, List.flatMap_congr fun e _ => hsplit e]
    exact ((ih hrest).append_left _).trans (List.flatMap_append_perm m _ _)

/-- The leaves of a structure are those of the fields of a table, in the order of the table. -/
theorem perm_placed_fields {table : List (String × Place)} (hnames : (table.map Prod.fst).Nodup) {v : Json}
    {slots : List (String × Json)} (hv : v.Sorted) (h : slots? (table.map Prod.fst) v = some slots) :
    (placed (.fields table) v.routed).Perm (table.flatMap fun e => found slots e.1 e.2) := by
  have hjoin := perm_flatMap_lookup (fun (w : Json) (place : Place) => placed place w.routed)
    (nodup_of_slots? hv hnames h) hnames
  rw [placed_fields table h, List.flatMap_congr fun e _ => placed_named table e.1 e.2.routed]
  exact hjoin

section

variable {α : Type} {read : Json → Option α} {entries : α → List Leaf} {place : Place} {slots : List (String × Json)}

/-- What is found in a field is what is read of it. -/
theorem Reads.perm_found (h : Reads read entries place) (hslots : ∀ e ∈ slots, e.2.Sorted) {name : String}
    {a : Option α} (ha : optional slots name read = some a) :
    (found slots name place).Perm ((a.map entries).getD []) := by
  rw [optional] at ha
  rw [found]
  split at ha
  case h_1 hmissing =>
    obtain rfl := Option.some.inj ha
    rw [hmissing]
    exact .refl _
  case h_2 hnull =>
    obtain rfl := Option.some.inj ha
    rw [hnull]
    exact .refl _
  case h_3 v _ hfound =>
    obtain ⟨b, hread, rfl⟩ := Option.map_eq_some_iff.mp ha
    rw [hfound]
    exact h.exact (hslots _ (SortedMap.mem_of_lookup_eq_some hfound)) hread

theorem lookup_outlineFields (name : String) (slots : List (String × Json)) :
    SortedMap.lookup name (Json.outlineFields slots) = (SortedMap.lookup name slots).map Json.outline := by
  induction slots with
  | nil => rfl
  | cons e rest ih =>
    obtain ⟨k, v⟩ := e
    rw [Json.outlineFields, SortedMap.lookup, SortedMap.lookup, ih]
    split <;> rfl

/-- Whether a field can be read follows from the outlines of the fields. -/
theorem Reads.isSome_optional (h : Reads read entries place) (slots : List (String × Json)) (name : String) :
    (optional (Json.outlineFields slots) name read).isSome = (optional slots name read).isSome := by
  rw [optional, optional, lookup_outlineFields]
  cases SortedMap.lookup name slots with
  | none => rfl
  | some v =>
    have hread := h.outline v
    cases v <;> first
      | rfl
      | simpa only [Option.map_some, Json.outline, Option.isSome_map] using hread

end

theorem slots?_outline (names : List String) (v : Json) :
    slots? names v.outline = (slots? names v).map Json.outlineFields := by
  cases v with
  | array items =>
    rw [Json.outline, slots?, slots?, Json.outlineItems_eq_map, List.length_map, List.zip_map_right]
    split
    · rw [Option.map_some, Json.outlineFields_eq_map]
      rfl
    · rfl
  | _ => rfl

/-- After some entries the rest of the fields of a structure is read from the places of a table, if `ok` says that
they can be read. -/
structure ReadsFields {α : Type} (before : List Leaf) (ok : List (String × Json) → Bool)
    (rest : List (String × Json) → Option α) (entries : α → List Leaf) (table : List (String × Place)) : Prop where
  /-- The entries are those from before and the leaves in the table. -/
  exact : ∀ {slots a}, (∀ e ∈ slots, e.2.Sorted) → rest slots = some a →
    (before ++ table.flatMap fun e => found slots e.1 e.2).Perm (entries a)
  /-- Whether anything is read does not depend on what was read before. -/
  isSome : ∀ slots, (rest slots).isSome = ok slots
  /-- It follows from the outlines. -/
  outline : ∀ slots, ok (Json.outlineFields slots) = ok slots

namespace ReadsFields

variable {α β : Type} {before : List Leaf} {entries : α → List Leaf}

/-- No field is left. -/
theorem done {a : α} (h : before.Perm (entries a)) :
    ReadsFields before (fun _ => true) (fun _ => some a) entries [] where
  exact _ ha := by
    obtain rfl := Option.some.inj ha
    simpa using h
  isSome _ := rfl
  outline _ := rfl

/-- One more field. -/
theorem field {read : Json → Option β} {fieldEntries : β → List Leaf} {place : Place}
    {rest : Option β → List (String × Json) → Option α} {ok : List (String × Json) → Bool}
    {table : List (String × Place)} {name : String} (h : Reads read fieldEntries place)
    (hrest : ∀ b, ReadsFields (before ++ (b.map fieldEntries).getD []) ok (rest b) entries table) :
    ReadsFields before (fun slots => (optional slots name read).isSome && ok slots)
      (fun slots => optional slots name read >>= fun b => rest b slots) entries ((name, place) :: table) where
  exact {slots a} hslots ha := by
    obtain ⟨b, hb, ha⟩ := Option.bind_eq_some_iff.mp ha
    have hfirst := h.perm_found hslots hb
    have hothers := (hrest b).exact hslots ha
    rw [List.append_assoc] at hothers
    rw [List.flatMap_cons]
    exact ((hfirst.append_right _).append_left _).trans hothers
  isSome slots := by
    cases optional slots name read with
    | none => rfl
    | some b => exact (hrest b).isSome slots
  outline slots := by rw [h.isSome_optional, (hrest none).outline]

end ReadsFields

/-- A structure keeps to the places of its fields. -/
theorem Reads.fields {α : Type} {read : Json → Option α} {names : List String}
    {rest : List (String × Json) → Option α} {ok : List (String × Json) → Bool} {entries : α → List Leaf}
    {table : List (String × Place)} (hread : ∀ v, read v = slots? names v >>= rest)
    (hnames : table.map Prod.fst = names) (hnodup : names.Nodup) (h : ReadsFields [] ok rest entries table) :
    Reads read entries (.fields table) where
  exact {v a} hv ha := by
    rw [hread] at ha
    obtain ⟨slots, hslots, hrest⟩ := Option.bind_eq_some_iff.mp ha
    subst hnames
    exact (perm_placed_fields hnodup hv hslots).trans (h.exact (sorted_of_slots? hv hslots) hrest)
  outline v := by
    rw [hread, hread, slots?_outline]
    cases slots? names v with
    | none => rfl
    | some slots => exact (h.isSome _).trans ((h.outline slots).trans (h.isSome slots).symm)

/-! ### The structures of the schema -/

/-- The places in the fields of labels. -/
def Labels.table : List (String × Place) :=
  [("com.amazonaws.ecs.cluster", .scalar "aws.ecs.cluster"),
    ("com.amazonaws.ecs.container-name", .scalar "aws.ecs.container.name"),
    ("com.amazonaws.ecs.task-arn", .scalar "aws.ecs.task.arn"),
    ("com.amazonaws.ecs.task-definition-family", .scalar "aws.ecs.task.definition.family"),
    ("com.amazonaws.ecs.task-definition-version", .scalar "aws.ecs.task.definition.version")]

/-- The places in the fields of limits. -/
def Limits.table : List (String × Place) := [("CPU", .scalar "limits.cpu"), ("Memory", .scalar "limits.memory")]

/-- The places in the fields of a network under its key. -/
def Network.table (key : String) : List (String × Place) :=
  [("IPv4Addresses", .indexed (key ++ ".ipv4.addresses") .scalar), ("NetworkMode", .scalar (key ++ ".network.mode"))]

/-- The places in the fields of a port under its key. -/
def Port.table (key : String) : List (String × Place) :=
  [("ContainerPort", .scalar (key ++ ".container.port")), ("HostIp", .scalar (key ++ ".host.ip")),
    ("HostPort", .scalar (key ++ ".host.port")), ("Protocol", .scalar (key ++ ".protocol"))]

/-- The places in the fields of a volume under its key. -/
def Volume.table (key : String) : List (String × Place) :=
  [("Destination", .scalar (key ++ ".destination")), ("Source", .scalar (key ++ ".source"))]

/-- The places in the fields of a container. -/
def Container.table : List (String × Place) :=
  [("ContainerARN", .scalar "aws.ecs.container.arn"), ("CreatedAt", .scalar "created.at"),
    ("DesiredStatus", .scalar "desired.status"), ("DockerId", .scalar "docker.id"),
    ("DockerName", .scalar "docker.name"), ("Image", .scalar "image"), ("ImageID", .scalar "image.id"),
    ("KnownStatus", .scalar "aws.ecs.task.known.status"), ("Labels", .fields Labels.table),
    ("Limits", .fields Limits.table), ("Name", .scalar "name"),
    ("Networks", .indexed "networks" fun key => .fields (Network.table key)),
    ("Ports", .indexed "ports" fun key => .fields (Port.table key)), ("StartedAt", .scalar "started.at"),
    ("Type", .scalar "type"), ("Volumes", .indexed "volumes" fun key => .fields (Volume.table key))]

/-- The places in the document of a container. -/
def Container.place : Place := .fields table

theorem getD_map_text (key : String) (v : Option String) :
    (v.map fun s => [(key, AttributeValue.string s)]).getD [] = textEntry key v := by
  cases v <;> rfl

theorem getD_map_number (key : String) (v : Option Json.Number) :
    (v.map fun n => [(key, AttributeValue.ofNumber n)]).getD [] = numberEntry key v := by
  cases v <;> rfl

theorem getD_map_indexed {α : Type} (key : String) (entries : String → α → List Leaf) (v : Option (List α)) :
    (v.map fun l => indexed key entries (some l)).getD [] = indexed key entries v := by
  cases v <;> rfl

theorem Labels.reads : Reads ofJson? entries (.fields table) :=
  .fields (fun _ => rfl) rfl (by decide +kernel) <|
    .field (.text _) fun _ => .field (.text _) fun _ => .field (.text _) fun _ => .field (.text _) fun _ =>
    .field (.text _) fun _ => .done <| by
      simp only [getD_map_text, List.nil_append, entries]
      exact .refl _

theorem Limits.reads : Reads ofJson? entries (.fields table) :=
  .fields (fun _ => rfl) rfl (by decide +kernel) <|
    .field (.number _) fun _ => .field (.number _) fun _ => .done <| by
      simp only [getD_map_number, List.nil_append, entries]
      exact .refl _

theorem Network.reads (key : String) : Reads ofJson? (entries key) (.fields (table key)) :=
  .fields (fun _ => rfl) rfl (by decide +kernel) <|
    .field (.list .text _) fun _ => .field (.text _) fun _ => .done <| by
      simp only [getD_map_text, getD_map_indexed, List.nil_append, entries]
      exact List.perm_append_comm

theorem Port.reads (key : String) : Reads ofJson? (entries key) (.fields (table key)) :=
  .fields (fun _ => rfl) rfl (by decide +kernel) <|
    .field (.number _) fun _ => .field (.text _) fun _ => .field (.number _) fun _ => .field (.text _) fun _ =>
    .done <| by
      simp only [getD_map_text, getD_map_number, List.nil_append, entries]
      exact .refl _

theorem Volume.reads (key : String) : Reads ofJson? (entries key) (.fields (table key)) :=
  .fields (fun _ => rfl) rfl (by decide +kernel) <|
    .field (.text _) fun _ => .field (.text _) fun _ => .done <| by
      simp only [getD_map_text, List.nil_append, entries]
      exact .refl _

/-- **The entries of a container are the leaves of its document that have a place**, and whether a document is
that of a container follows from its outline. -/
theorem Container.reads : Reads ofJson? entries place :=
  .fields (fun _ => rfl) rfl (by decide +kernel) <|
    .field (.text _) fun _ => .field (.text _) fun _ => .field (.text _) fun _ => .field (.text _) fun _ =>
    .field (.text _) fun _ => .field (.text _) fun _ => .field (.text _) fun _ => .field (.text _) fun _ =>
    .field Labels.reads fun _ => .field Limits.reads fun _ => .field (.text _) fun _ =>
    .field (.list Network.reads _) fun _ => .field (.list Port.reads _) fun _ => .field (.text _) fun _ =>
    .field (.text _) fun _ => .field (.list Volume.reads _) fun _ => .done <| by
      simp only [getD_map_text, getD_map_indexed, List.nil_append]
      -- The fields are read in another order than the entries are listed.
      refine List.perm_iff_count.mpr fun e => ?_
      simp only [entries, List.count_append]
      omega

/-- Of documents with the same outline both are those of containers, or none is. -/
theorem Container.isSome_ofJson?_congr {a b : Json} (h : a.outline = b.outline) :
    (ofJson? a).isSome = (ofJson? b).isSome := by
  rw [← Container.reads.outline a, h, Container.reads.outline b]

end Ecs

end LogTagger
