import LogTagger.Proofs.Flatten.Agreement
import LogTagger.Proofs.Flatten.EcsPlaces

/-!
# The schema of ECS, and what it makes of documents

The schema is a table: the fields of each structure, what each of them may be, and the part that it adds
to the keys of the leaves below it (`Ecs.Schema`, `Ecs.Container.schema`). From the table alone it is said
which documents have its types (`Schema.Fits`), which leaves they have under which keys
(`Schema.leaves`), and which documents differ in nothing but fields that are not in it
(`Schema.Alike`).

The readers of the structures follow their tables (`Follows`), one combinator for each kind of schema. An
array that stands for a structure (`Schema.Positional`) is left aside.

**`Ecs.Container.flattened`**: a document is flattened exactly if it fits the schema. Then the attributes
are its leaves, no two of which have the same key; and documents that are alike have the same result.
-/

namespace LogTagger

namespace Ecs

/-! ### Schemas -/

/-- What a value is to be, and what it adds to the keys of its leaves. -/
inductive Schema where
  /-- A string. -/
  | text (key : String)
  /-- A number. -/
  | number (key : String)
  /-- A list, whose items add their index. -/
  | list (key : String) (item : Schema)
  /-- A structure with optional fields. -/
  | record (fields : List (String × Schema))

namespace Schema

/-- The value has the type of the schema. -/
inductive Fits : Schema → Json → Prop
  | text {key : String} (s : String) : Fits (.text key) (.string s)
  | number {key : String} (n : Json.Number) : Fits (.number key) (.number n)
  /-- All items of a list fit, so none is null. -/
  | list {key : String} {item : Schema} {items : List Json} (h : ∀ v ∈ items, Fits item v) :
      Fits (.list key item) (.array items)
  /-- All fields of the schema fit that are neither missing nor null. -/
  | record {fields : List (String × Schema)} {slots : List (String × Json)}
      (h : ∀ f ∈ fields, ∀ v, SortedMap.lookup f.1 slots = some v → v ≠ .null → Fits f.2 v) :
      Fits (.record fields) (.object slots)

/-- Somewhere an array stands for a structure, with one item for each field. -/
inductive Positional : Schema → Json → Prop
  | here {fields : List (String × Schema)} {items : List Json} (h : items.length = fields.length) :
      Positional (.record fields) (.array items)
  | item {key : String} {item : Schema} {items : List Json} {v : Json} (hv : v ∈ items) (h : Positional item v) :
      Positional (.list key item) (.array items)
  | field {fields : List (String × Schema)} {slots : List (String × Json)} {f : String × Schema} {v : Json}
      (hf : f ∈ fields) (hv : SortedMap.lookup f.1 slots = some v) (h : Positional f.2 v) :
      Positional (.record fields) (.object slots)

/-- The values differ in nothing but fields that are not in the schema. -/
inductive Alike : Schema → Json → Json → Prop
  | refl {schema : Schema} (v : Json) : Alike schema v v
  | list {key : String} {item : Schema} {l r : List Json} (length : l.length = r.length)
      (h : ∀ e ∈ l.zip r, Alike item e.1 e.2) : Alike (.list key item) (.array l) (.array r)
  /-- Both have the same fields of the schema, and these are alike; any others may be there. -/
  | record {fields : List (String × Schema)} {l r : List (String × Json)}
      (missing : ∀ f ∈ fields, SortedMap.lookup f.1 l = none ↔ SortedMap.lookup f.1 r = none)
      (h : ∀ f ∈ fields, ∀ v w, SortedMap.lookup f.1 l = some v → SortedMap.lookup f.1 r = some w → Alike f.2 v w) :
      Alike (.record fields) (.object l) (.object r)

mutual

/-- The leaves of a value under a key. -/
def leaves (above : String) : Schema → Json → List Leaf
  | .text key, .string s => [(above ++ key, .string s)]
  | .number key, .number n => [(above ++ key, .ofNumber n)]
  | .list key item, .array items => items.zipIdx.flatMap fun e => item.leaves (above ++ key ++ "." ++ toString e.2) e.1
  | .record fields, .object slots => fieldLeaves above fields slots
  | _, _ => []

/-- The leaves of a structure's fields under a key. -/
def fieldLeaves (above : String) : List (String × Schema) → List (String × Json) → List Leaf
  | [], _ => []
  | (name, schema) :: rest, slots =>
    ((SortedMap.lookup name slots).map (schema.leaves above)).getD [] ++ fieldLeaves above rest slots

end

end Schema

/-- The schema of labels. -/
def Labels.schema : Schema :=
  .record [("com.amazonaws.ecs.cluster", .text "aws.ecs.cluster"),
    ("com.amazonaws.ecs.container-name", .text "aws.ecs.container.name"),
    ("com.amazonaws.ecs.task-arn", .text "aws.ecs.task.arn"),
    ("com.amazonaws.ecs.task-definition-family", .text "aws.ecs.task.definition.family"),
    ("com.amazonaws.ecs.task-definition-version", .text "aws.ecs.task.definition.version")]

/-- The schema of limits. -/
def Limits.schema : Schema := .record [("CPU", .number "limits.cpu"), ("Memory", .number "limits.memory")]

/-- The schema of a network. -/
def Network.schema : Schema :=
  .record [("IPv4Addresses", .list ".ipv4.addresses" (.text "")), ("NetworkMode", .text ".network.mode")]

/-- The schema of a port. -/
def Port.schema : Schema :=
  .record [("ContainerPort", .number ".container.port"), ("HostIp", .text ".host.ip"),
    ("HostPort", .number ".host.port"), ("Protocol", .text ".protocol")]

/-- The schema of a volume. -/
def Volume.schema : Schema := .record [("Destination", .text ".destination"), ("Source", .text ".source")]

/-- The schema of a container. -/
def Container.schema : Schema :=
  .record [("ContainerARN", .text "aws.ecs.container.arn"), ("CreatedAt", .text "created.at"),
    ("DesiredStatus", .text "desired.status"), ("DockerId", .text "docker.id"), ("DockerName", .text "docker.name"),
    ("Image", .text "image"), ("ImageID", .text "image.id"), ("KnownStatus", .text "aws.ecs.task.known.status"),
    ("Labels", Labels.schema), ("Limits", Limits.schema), ("Name", .text "name"),
    ("Networks", .list "networks" Network.schema), ("Ports", .list "ports" Port.schema),
    ("StartedAt", .text "started.at"), ("Type", .text "type"), ("Volumes", .list "volumes" Volume.schema)]

/-! ### Readers that follow a schema -/

namespace Schema

variable {key : String} {item : Schema} {fields : List (String × Schema)} {items : List Json}
  {slots : List (String × Json)} {v : Json}

@[simp] theorem not_positional_text : ¬(text key).Positional v := fun h => by cases h

@[simp] theorem not_positional_number : ¬(number key).Positional v := fun h => by cases h

@[simp] theorem positional_list_iff : (list key item).Positional (.array items) ↔ ∃ v ∈ items, item.Positional v := by
  constructor
  · intro h
    cases h with
    | item hv h => exact ⟨_, hv, h⟩
  · rintro ⟨v, hv, h⟩
    exact .item hv h

@[simp] theorem positional_record_iff : (record fields).Positional (.object slots) ↔
    ∃ f ∈ fields, ∃ v, SortedMap.lookup f.1 slots = some v ∧ f.2.Positional v := by
  constructor
  · intro h
    cases h with
    | field hf hv h => exact ⟨_, hf, _, hv, h⟩
  · rintro ⟨f, hf, v, hv, h⟩
    exact .field hf hv h

end Schema

/-- Of values that are alike both are null, or none is. -/
theorem Schema.Alike.eq_null_iff {schema : Schema} {v w : Json} (h : schema.Alike v w) : v = .null ↔ w = .null := by
  cases h with
  | refl => rfl
  | list => simp
  | record => simp

theorem Schema.leaves_null (above : String) (schema : Schema) : schema.leaves above .null = [] := by
  cases schema <;> rw [leaves] <;> simp

/-- A reader reads what has the types of a schema, its entries are the leaves, and it does not look at anything
else. -/
structure Follows {α : Type} (above : String) (read : Json → Option α) (entries : α → List Leaf) (schema : Schema) :
    Prop where
  /-- Whatever fits is read, and nothing else. -/
  fits : ∀ {v}, ¬schema.Positional v → ((∃ a, read v = some a) ↔ schema.Fits v)
  /-- The entries of what is read are the leaves. -/
  exact : ∀ {v a}, ¬schema.Positional v → read v = some a → (schema.leaves above v).Perm (entries a)
  /-- Of values that are alike the same is read. -/
  alike : ∀ {v w}, schema.Alike v w → read v = read w

/-- A reader of one kind of scalar follows the schema of that kind. -/
theorem Follows.scalar {α : Type} {above : String} {read : Json → Option α} {entries : α → List Leaf} {schema : Schema}
    (make : α → Json) (hread : ∀ v a, read v = some a ↔ v = make a) (hfits : ∀ v, schema.Fits v ↔ ∃ a, v = make a)
    (hleaves : ∀ a, schema.leaves above (make a) = entries a) (halike : ∀ v w, schema.Alike v w → v = w) :
    Follows above read entries schema where
  fits {v} _ := by
    rw [hfits]
    exact exists_congr fun a => hread v a
  exact {v a} _ ha := by rw [(hread v a).mp ha, hleaves]
  alike {v w} h := by rw [halike v w h]

theorem Follows.text (above key : String) :
    Follows above string? (fun s => [(above ++ key, .string s)]) (.text key) := by
  refine .scalar Json.string (fun v s => ?_) (fun v => ?_) (fun s => by rw [Schema.leaves]) (fun v w h => ?_)
  · cases v <;> simp [string?]
  · constructor
    · intro h
      cases h with
      | text s => exact ⟨s, rfl⟩
    · rintro ⟨s, rfl⟩
      exact .text s
  · cases h
    rfl

theorem Follows.number (above key : String) :
    Follows above number? (fun n => [(above ++ key, .ofNumber n)]) (.number key) := by
  refine .scalar Json.number (fun v n => ?_) (fun v => ?_) (fun n => by rw [Schema.leaves]) (fun v w h => ?_)
  · cases v <;> simp [number?]
  · constructor
    · intro h
      cases h with
      | number n => exact ⟨n, rfl⟩
    · rintro ⟨n, rfl⟩
      exact .number n
  · cases h
    rfl

section

variable {α : Type} {read : Json → Option α} {item : Schema}

/-- The items of a list are read one after the other. -/
theorem exists_mapM_iff {items : List Json} (h : ∀ v ∈ items, (∃ a, read v = some a) ↔ item.Fits v) :
    (∃ l, items.mapM read = some l) ↔ ∀ v ∈ items, item.Fits v := by
  simp only [← Option.isSome_iff_exists, isSome_mapM, List.all_eq_true] at h ⊢
  exact forall₂_congr h

theorem perm_leaves_items {entries : String → α → List Leaf} (h : ∀ above, Follows above read (entries above) item)
    (above : String) {items : List Json} (hnamed : ∀ v ∈ items, ¬item.Positional v) (index : Nat) {l : List α}
    (hread : items.mapM read = some l) :
    ((items.zipIdx index).flatMap fun e => item.leaves (above ++ "." ++ toString e.2) e.1).Perm
      ((l.zipIdx index).flatMap fun (a, i) => entries (above ++ "." ++ toString i) a) := by
  induction items generalizing index l with
  | nil =>
    obtain rfl : [] = l := Option.some.inj hread
    exact .refl _
  | cons v rest ih =>
    rw [List.mapM_cons] at hread
    obtain ⟨a, ha, hread⟩ := Option.bind_eq_some_iff.mp hread
    obtain ⟨as, has, hread⟩ := Option.bind_eq_some_iff.mp hread
    obtain rfl : a :: as = l := Option.some.inj hread
    obtain ⟨hv, hrest⟩ := List.forall_mem_cons.mp hnamed
    rw [List.zipIdx_cons, List.zipIdx_cons, List.flatMap_cons, List.flatMap_cons]
    exact ((h _).exact hv ha).append (ih hrest (index + 1) has)

theorem mapM_congr_of_zip {l r : List Json} (length : l.length = r.length) (h : ∀ e ∈ l.zip r, read e.1 = read e.2) :
    l.mapM read = r.mapM read := by
  induction l generalizing r with
  | nil => rw [List.length_eq_zero_iff.mp length.symm]
  | cons v rest ih =>
    cases r with
    | nil => cases length
    | cons w others =>
      obtain ⟨hfirst, hrest⟩ := List.forall_mem_cons.mp h
      rw [List.mapM_cons, List.mapM_cons, hfirst, ih (Nat.succ.inj length) hrest]

/-- A list follows a schema if its items do. -/
theorem Follows.list {entries : String → α → List Leaf} (h : ∀ above, Follows above read (entries above) item)
    (above key : String) :
    Follows above (list? read) (fun l => indexed (above ++ key) entries (some l)) (.list key item) where
  fits {v} hnamed := by
    constructor
    · rintro ⟨l, hl⟩
      cases v with
      | array items =>
        have hitems : ∀ w ∈ items, (∃ a, read w = some a) ↔ item.Fits w :=
          fun w hw => (h "").fits fun hpositional => hnamed (.item hw hpositional)
        exact .list ((exists_mapM_iff hitems).mp ⟨l, hl⟩)
      | _ => cases hl
    · intro hfits
      cases hfits with
      | list hitems =>
        exact (exists_mapM_iff fun w hw => (h "").fits fun hpositional => hnamed (.item hw hpositional)).mpr hitems
  exact {v l} hnamed hl := by
    cases v with
    | array items =>
      rw [Schema.leaves]
      exact perm_leaves_items h _ (fun w hw hpositional => hnamed (.item hw hpositional)) 0 hl
    | _ => cases hl
  alike halike := by
    cases halike with
    | refl => rfl
    | list length hitems => exact mapM_congr_of_zip length fun e he => (h "").alike (hitems e he)

end

/-! ### Fields -/

namespace Schema

variable (fields : List (String × Schema)) (slots l r : List (String × Json))

/-- No field of a structure is given by position. -/
def Named : Prop := ∀ f ∈ fields, ∀ v, SortedMap.lookup f.1 slots = some v → ¬f.2.Positional v

/-- All fields of a structure fit. -/
def FieldsFit : Prop := ∀ f ∈ fields, ∀ v, SortedMap.lookup f.1 slots = some v → v ≠ .null → f.2.Fits v

/-- The fields of two structures are alike. -/
def FieldsAlike : Prop := ∀ f ∈ fields, (SortedMap.lookup f.1 l = none ↔ SortedMap.lookup f.1 r = none) ∧
  ∀ v w, SortedMap.lookup f.1 l = some v → SortedMap.lookup f.1 r = some w → f.2.Alike v w

end Schema

section

variable {α : Type} {above name : String} {read : Json → Option α} {entries : α → List Leaf} {schema : Schema}
  {slots l r : List (String × Json)}

theorem optional_of_ne_null {v : Json} (hv : SortedMap.lookup name slots = some v) (hne : v ≠ .null) :
    optional slots name read = (read v).map some := by
  rw [optional, hv]
  split
  case h_1 heq => cases heq
  case h_2 heq =>
    cases heq
    exact absurd rfl hne
  case h_3 heq =>
    cases heq
    rfl

/-- Whether a field can be read. -/
theorem Follows.optional_fits (h : Follows above read entries schema)
    (hnamed : ∀ v, SortedMap.lookup name slots = some v → ¬schema.Positional v) :
    (∃ a, optional slots name read = some a) ↔
      ∀ v, SortedMap.lookup name slots = some v → v ≠ .null → schema.Fits v := by
  cases hv : SortedMap.lookup name slots with
  | none => simp [optional, hv]
  | some v =>
    by_cases hne : v = .null
    · simp [optional, hv, hne]
    · rw [optional_of_ne_null hv hne]
      simpa [hne] using h.fits (hnamed v hv)

/-- The leaves of a field are the entries of what is read of it. -/
theorem Follows.perm_optional (h : Follows above read entries schema)
    (hnamed : ∀ v, SortedMap.lookup name slots = some v → ¬schema.Positional v) {a : Option α}
    (ha : optional slots name read = some a) :
    (((SortedMap.lookup name slots).map (schema.leaves above)).getD []).Perm ((a.map entries).getD []) := by
  rw [optional] at ha
  split at ha
  case h_1 hmissing =>
    obtain rfl := Option.some.inj ha
    rw [hmissing]
    exact .refl _
  case h_2 hnull =>
    obtain rfl := Option.some.inj ha
    rw [hnull, Option.map_some, Schema.leaves_null]
    exact .refl _
  case h_3 v _ hfound =>
    obtain ⟨b, hread, rfl⟩ := Option.map_eq_some_iff.mp ha
    rw [hfound]
    exact h.exact (hnamed v hfound) hread

/-- Of fields that are alike the same is read. -/
theorem Follows.optional_congr (h : Follows above read entries schema)
    (missing : SortedMap.lookup name l = none ↔ SortedMap.lookup name r = none)
    (halike : ∀ v w, SortedMap.lookup name l = some v → SortedMap.lookup name r = some w → schema.Alike v w) :
    optional l name read = optional r name read := by
  cases hv : SortedMap.lookup name l with
  | none => rw [optional, optional, hv, missing.mp hv]
  | some v =>
    cases hw : SortedMap.lookup name r with
    | none => rw [missing.mpr hw] at hv; cases hv
    | some w =>
      have hsame := halike v w hv hw
      by_cases hnull : v = .null
      · rw [optional, optional, hv, hw, hnull, hsame.eq_null_iff.mp hnull]
      · have hpresent : w ≠ .null := fun heq => hnull (hsame.eq_null_iff.mpr heq)
        rw [optional_of_ne_null hv hnull, optional_of_ne_null hw hpresent, h.alike hsame]

end

/-- After some entries the rest of the fields of a structure is read as a table says. -/
structure FollowsFields {α : Type} (above : String) (before : List Leaf) (rest : List (String × Json) → Option α)
    (entries : α → List Leaf) (fields : List (String × Schema)) : Prop where
  /-- The rest is read if its fields fit, whatever was read before. -/
  fits : ∀ {slots}, Schema.Named fields slots → ((∃ a, rest slots = some a) ↔ Schema.FieldsFit fields slots)
  /-- The entries are those from before and the leaves of the fields. -/
  exact : ∀ {slots a}, Schema.Named fields slots → rest slots = some a →
    (before ++ Schema.fieldLeaves above fields slots).Perm (entries a)
  /-- Of fields that are alike the same is read. -/
  alike : ∀ {l r}, Schema.FieldsAlike fields l r → rest l = rest r

namespace FollowsFields

variable {α β : Type} {above : String} {before : List Leaf} {entries : α → List Leaf}

/-- No field is left. -/
theorem done {a : α} (h : before.Perm (entries a)) : FollowsFields above before (fun _ => some a) entries [] where
  fits _ := by simp [Schema.FieldsFit]
  exact _ ha := by
    obtain rfl := Option.some.inj ha
    rwa [Schema.fieldLeaves, List.append_nil]
  alike _ := rfl

/-- One more field. -/
theorem field {read : Json → Option β} {fieldEntries : β → List Leaf} {schema : Schema}
    {rest : Option β → List (String × Json) → Option α} {fields : List (String × Schema)} {name : String}
    (h : Follows above read fieldEntries schema)
    (hrest : ∀ b, FollowsFields above (before ++ (b.map fieldEntries).getD []) (rest b) entries fields) :
    FollowsFields above before (fun slots => optional slots name read >>= fun b => rest b slots) entries
      ((name, schema) :: fields) where
  fits {slots} hnamed := by
    obtain ⟨hfirst, hothers⟩ := List.forall_mem_cons.mp hnamed
    rw [Schema.FieldsFit, List.forall_mem_cons, ← h.optional_fits hfirst]
    constructor
    · rintro ⟨a, ha⟩
      obtain ⟨b, hb, ha⟩ := Option.bind_eq_some_iff.mp ha
      exact ⟨⟨b, hb⟩, ((hrest b).fits hothers).mp ⟨a, ha⟩⟩
    · rintro ⟨⟨b, hb⟩, hfit⟩
      obtain ⟨a, ha⟩ := ((hrest b).fits hothers).mpr hfit
      exact ⟨a, Option.bind_eq_some_iff.mpr ⟨b, hb, ha⟩⟩
  exact {slots a} hnamed ha := by
    obtain ⟨hfirst, hothers⟩ := List.forall_mem_cons.mp hnamed
    obtain ⟨b, hb, ha⟩ := Option.bind_eq_some_iff.mp ha
    have hrest := (hrest b).exact hothers ha
    rw [List.append_assoc] at hrest
    rw [Schema.fieldLeaves]
    exact (((h.perm_optional hfirst hb).append_right _).append_left _).trans hrest
  alike {l r} halike := by
    obtain ⟨hfirst, hothers⟩ := List.forall_mem_cons.mp halike
    rw [h.optional_congr hfirst.1 hfirst.2]
    exact bind_congr fun b => (hrest b).alike hothers

end FollowsFields

/-- A structure follows the table of its fields. -/
theorem Follows.record {α : Type} {above : String} {read : Json → Option α} {entries : α → List Leaf}
    {names : List String} {rest : List (String × Json) → Option α} {fields : List (String × Schema)}
    (hread : ∀ v, read v = slots? names v >>= rest) (hnames : fields.length = names.length)
    (h : FollowsFields above [] rest entries fields) : Follows above read entries (.record fields) := by
  have hobject : ∀ slots, read (.object slots) = rest slots := fun slots => hread _
  -- An array is read only in place of all fields, and no scalar is read.
  have exists_slots : ∀ {v a}, ¬(Schema.record fields).Positional v → read v = some a → ∃ slots, v = .object slots := by
    intro v a hv ha
    rw [hread] at ha
    cases v with
    | object slots => exact ⟨slots, rfl⟩
    | array items =>
      rw [slots?] at ha
      split at ha
      case isTrue hlength => exact absurd (.here (hlength.trans hnames.symm)) hv
      case isFalse => cases ha
    | _ => cases ha
  have hnamed : ∀ {slots}, ¬(Schema.record fields).Positional (.object slots) → Schema.Named fields slots :=
    fun hslots f hf v hv hpositional => hslots (.field hf hv hpositional)
  constructor
  case fits =>
    intro v hv
    constructor
    · rintro ⟨a, ha⟩
      obtain ⟨slots, rfl⟩ := exists_slots hv ha
      rw [hobject] at ha
      exact .record ((h.fits (hnamed hv)).mp ⟨a, ha⟩)
    · intro hfits
      cases hfits with
      | record hfields =>
        rw [hobject]
        exact (h.fits (hnamed hv)).mpr hfields
  case exact =>
    intro v a hv ha
    obtain ⟨slots, rfl⟩ := exists_slots hv ha
    rw [hobject] at ha
    rw [Schema.leaves]
    exact h.exact (hnamed hv) ha
  case alike =>
    intro v w halike
    cases halike with
    | refl => rfl
    | record missing hfields =>
      rw [hobject, hobject]
      exact h.alike fun f hf => ⟨missing f hf, hfields f hf⟩

/-! ### The structures of the schema -/

theorem Labels.follows : Follows "" ofJson? entries schema :=
  .record (fun _ => rfl) rfl <|
    .field (.text _ _) fun _ => .field (.text _ _) fun _ => .field (.text _ _) fun _ => .field (.text _ _) fun _ =>
    .field (.text _ _) fun _ => .done <| by
      simp only [getD_map_text, List.nil_append, String.empty_append, entries]
      exact .refl _

theorem Limits.follows : Follows "" ofJson? entries schema :=
  .record (fun _ => rfl) rfl <|
    .field (.number _ _) fun _ => .field (.number _ _) fun _ => .done <| by
      simp only [getD_map_number, List.nil_append, String.empty_append, entries]
      exact .refl _

theorem Network.follows (above : String) : Follows above ofJson? (entries above) schema :=
  .record (fun _ => rfl) rfl <|
    .field (.list (fun above => .text above "") above _) fun _ => .field (.text _ _) fun _ => .done <| by
      simp only [getD_map_text, getD_map_indexed, List.nil_append, String.append_empty, entries]
      exact List.perm_append_comm

theorem Port.follows (above : String) : Follows above ofJson? (entries above) schema :=
  .record (fun _ => rfl) rfl <|
    .field (.number _ _) fun _ => .field (.text _ _) fun _ => .field (.number _ _) fun _ => .field (.text _ _) fun _ =>
    .done <| by
      simp only [getD_map_text, getD_map_number, List.nil_append, entries]
      exact .refl _

theorem Volume.follows (above : String) : Follows above ofJson? (entries above) schema :=
  .record (fun _ => rfl) rfl <|
    .field (.text _ _) fun _ => .field (.text _ _) fun _ => .done <| by
      simp only [getD_map_text, List.nil_append, entries]
      exact .refl _

theorem Container.follows : Follows "" ofJson? entries schema :=
  .record (fun _ => rfl) rfl <|
    .field (.text _ _) fun _ => .field (.text _ _) fun _ => .field (.text _ _) fun _ => .field (.text _ _) fun _ =>
    .field (.text _ _) fun _ => .field (.text _ _) fun _ => .field (.text _ _) fun _ => .field (.text _ _) fun _ =>
    .field Labels.follows fun _ => .field Limits.follows fun _ => .field (.text _ _) fun _ =>
    .field (.list Network.follows _ _) fun _ => .field (.list Port.follows _ _) fun _ => .field (.text _ _) fun _ =>
    .field (.text _ _) fun _ => .field (.list Volume.follows _ _) fun _ => .done <| by
      simp only [getD_map_text, getD_map_indexed, List.nil_append, String.empty_append]
      -- The fields are read in another order than the entries are listed.
      refine List.perm_iff_count.mpr fun e => ?_
      simp only [entries, List.count_append]
      omega

/-! ### Flattening -/

theorem ecs_eq_ok_iff {document : Json} {attributes : Attributes} :
    Flattener.ecs document = .ok attributes ↔
      ∃ container, Container.ofJson? document = some container ∧ container.attributes = attributes := by
  rw [Flattener.ecs]
  cases Container.ofJson? document <;> simp

/-- What the schema makes of a document. -/
structure Flattened (document : Json) : Prop where
  /-- There are attributes exactly if all fields of the schema that are neither missing nor null have its types. -/
  succeeds : (∃ attributes, Flattener.ecs document = .ok attributes) ↔ Container.schema.Fits document
  /-- The attributes are the leaves. -/
  exact : ∀ attributes, Flattener.ecs document = .ok attributes →
    attributes.entries.Perm (Container.schema.leaves "" document)
  /-- No two leaves have the same key. -/
  distinct : Container.schema.Fits document → ((Container.schema.leaves "" document).map Prod.fst).Nodup
  /-- No key is written twice on the way. -/
  once : ∀ container, Container.ofJson? document = some container → (container.entries.map Prod.fst).Nodup
  /-- Nothing depends on fields that are not in the schema. -/
  unknown : ∀ other, Container.schema.Alike document other → Flattener.ecs other = Flattener.ecs document

/-- **What the schema makes of a document** in which no array stands for a structure. -/
theorem Container.flattened (document : Json) (h : ¬schema.Positional document) : Flattened document where
  succeeds := by
    rw [← Container.follows.fits h]
    simp only [ecs_eq_ok_iff]
    constructor
    · rintro ⟨_, container, hread, -⟩
      exact ⟨container, hread⟩
    · rintro ⟨container, hread⟩
      exact ⟨_, container, hread, rfl⟩
  exact attributes hattributes := by
    obtain ⟨container, hread, rfl⟩ := ecs_eq_ok_iff.mp hattributes
    exact (SortedMap.perm_ofList container.nodup_entries).trans (Container.follows.exact h hread).symm
  distinct hfits := by
    obtain ⟨container, hread⟩ := (Container.follows.fits h).mpr hfits
    exact ((Container.follows.exact h hread).map Prod.fst).nodup_iff.mpr container.nodup_entries
  once container _ := container.nodup_entries
  unknown other halike := by rw [Flattener.ecs, Flattener.ecs, Container.follows.alike halike]

/-- The document of a container in a network, with fields that the schema does not have. -/
def networkDocument : Json :=
  .object [("Image", .string "web"),
    ("Labels", .object [("com.amazonaws.ecs.cluster", .string "prod"), ("team", .null)]),
    ("Networks", .array [.object [("IPv4Addresses", .array [.string "10.0.0.7", .string "10.0.0.8"]),
      ("NetworkMode", .string "awsvpc")]]), ("Zone", .bool true)]

theorem Container.flattened_networkDocument : ¬schema.Positional networkDocument ∧ Flattened networkDocument := by
  have hnamed : ¬schema.Positional networkDocument := by
    simp [schema, networkDocument, Labels.schema, Network.schema, SortedMap.lookup]
  exact ⟨hnamed, Container.flattened networkDocument hnamed⟩

end Ecs

end LogTagger
