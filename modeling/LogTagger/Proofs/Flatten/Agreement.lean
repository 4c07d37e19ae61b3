import LogTagger.Proofs.Flatten.Distinct
import LogTagger.Proofs.Flatten.EcsDocument

/-!
# The two ways to flatten agree

A container document can be flattened by the schema of ECS or as any tree of fields. Under dotted naming
the second gives the same attributes, values and kinds included, but for seven keys, which the schema
renames (`Ecs.keyOfDotted`).

**`Ecs.Container.agrees`**: this holds of the document of every container. The walk through the document
meets the entries of the schema in another order (`Container.perm_leaves`); and since no two of these have
the same key (`Container.nodup_entries`), nothing collides and the order does not matter.
-/

namespace LogTagger

open Flattening (dottedLeaves)

namespace Ecs

/-! ### Keys -/

/-- The keys that the schema renames. -/
def renamings : List (String × String) :=
  [("container.arn", "aws.ecs.container.arn"), ("known.status", "aws.ecs.task.known.status"),
    ("labels.com.amazonaws.ecs.cluster", "aws.ecs.cluster"),
    ("labels.com.amazonaws.ecs.container-name", "aws.ecs.container.name"),
    ("labels.com.amazonaws.ecs.task-arn", "aws.ecs.task.arn"),
    ("labels.com.amazonaws.ecs.task-definition-family", "aws.ecs.task.definition.family"),
    ("labels.com.amazonaws.ecs.task-definition-version", "aws.ecs.task.definition.version")]

/-- The key of the schema for a dotted key. -/
def keyOfDotted (key : String) : String := (SortedMap.lookup key renamings).getD key

/-- An entry under the key of the schema. -/
def renameEntry (e : Leaf) : Leaf := (keyOfDotted e.1, e.2)

/-- Entries under a key keep their keys if nothing under that key is renamed. -/
theorem keyOfDotted_of_under {key s : String} (h : Under key s) (hkey : ∀ e ∈ renamings, ¬ Under key e.1) :
    keyOfDotted s = s := by
  have hnone : SortedMap.lookup s renamings = none := by
    rw [SortedMap.lookup_eq_none_iff]
    rintro e he rfl
    exact hkey e he h
  rw [keyOfDotted, hnone, Option.getD_none]

/-! ### Entries under a key -/

/-- Entries under a key, with no key twice. -/
structure Block (key : String) (entries : List Leaf) : Prop where
  under : ∀ e ∈ entries, Under key e.1
  nodup : (entries.map Prod.fst).Nodup

namespace Block

variable {key : String} {l r : List Leaf}

/-- Entries whose keys are among some different ones. -/
theorem of_sublist (suffixes : List String) (h : (l.map Prod.fst).Sublist (suffixes.map (key ++ ·)))
    (hnodup : suffixes.Nodup) (hunder : ∀ s ∈ suffixes, Under "" s) : Block key l where
  under e he := by
    obtain ⟨s, hs, heq⟩ := List.mem_map.mp (h.subset (List.mem_map_of_mem he))
    exact heq ▸ Under.append key (hunder s hs)
  nodup := h.nodup (hnodup.map fun a b hab => String.append_right_inj key |>.mp hab)

theorem append {a b : String} (hl : Block a l) (hr : Block b r) (hapart : Apart a b) (ha : Under key a)
    (hb : Under key b) : Block key (l ++ r) where
  under e he := by
    rcases List.mem_append.mp he with he | he
    · exact ha.trans (hl.under e he)
    · exact hb.trans (hr.under e he)
  nodup := by
    rw [List.map_append, List.nodup_append]
    refine ⟨hl.nodup, hr.nodup, ?_⟩
    rintro s hs s' hs'
    obtain ⟨e, he, rfl⟩ := List.mem_map.mp hs
    obtain ⟨e', he', rfl⟩ := List.mem_map.mp hs'
    exact hapart.ne (hl.under e he) (hr.under e' he')

/-- Entries none of which is under the key of a block. -/
theorem nodup_append (hl : (l.map Prod.fst).Nodup) (hr : Block key r) (h : ∀ s ∈ l.map Prod.fst, ¬ Under key s) :
    ((l ++ r).map Prod.fst).Nodup := by
  rw [List.map_append, List.nodup_append]
  refine ⟨hl, hr.nodup, ?_⟩
  rintro s hs s' hs' rfl
  obtain ⟨e, he, rfl⟩ := List.mem_map.mp hs'
  exact h e.1 hs (hr.under e he)

/-- What is under one key is not under one apart from it. -/
theorem not_under {key' : String} (h : Block key l) (hapart : Apart key key') :
    ∀ s ∈ l.map Prod.fst, ¬ Under key' s := by
  rintro s hs hunder
  obtain ⟨e, he, rfl⟩ := List.mem_map.mp hs
  exact hapart.ne (h.under e he) hunder rfl

/-- The entries of the items of a list. -/
theorem indexed {α : Type} {entries : String → α → List Leaf} (h : ∀ key a, Block key (entries key a))
    (v : Option (List α)) : Block key (Ecs.indexed key entries v) where
  under e he := by
    obtain ⟨⟨a, i⟩, -, he⟩ := List.mem_flatMap.mp he
    exact (Under.append_dot key (toString i)).trans ((h _ a).under e he)
  nodup := by
    rw [Ecs.indexed, List.map_flatMap, List.nodup_flatMap]
    refine ⟨fun x _ => (h _ x.1).nodup, ?_⟩
    have hindices : ((v.getD []).zipIdx.map Prod.snd).Nodup := by
      rw [List.zipIdx_map_snd]
      exact List.nodup_range'
    refine (List.pairwise_map.mp hindices).imp fun {x y} hne => ?_
    intro s hs hs'
    obtain ⟨e, he, rfl⟩ := List.mem_map.mp hs
    obtain ⟨e', he', heq⟩ := List.mem_map.mp hs'
    have hapart := (apart_toString hne).append_left (key ++ ".")
    exact hapart.ne ((h _ x.1).under e he) ((h _ y.1).under e' he') heq.symm

end Block

theorem sublist_textEntry (key : String) (v : Option String) : ((textEntry key v).map Prod.fst).Sublist [key] := by
  cases v <;> simp [textEntry]

theorem sublist_numberEntry (key : String) (v : Option Json.Number) :
    ((numberEntry key v).map Prod.fst).Sublist [key] := by
  cases v <;> simp [numberEntry]

theorem block_textEntry (key : String) (v : Option String) : Block key (textEntry key v) where
  under e he := by
    obtain ⟨s, -, rfl⟩ := List.mem_map.mp he
    exact .refl key
  nodup := (sublist_textEntry key v).nodup (List.nodup_singleton key)

theorem Network.block_entries (key : String) (n : Network) : Block key (n.entries key) := by
  have haddress : ∀ (key : String) (s : String), Block key [(key, AttributeValue.string s)] :=
    fun key s => block_textEntry key (some s)
  have hapart : Apart ".network.mode" ".ipv4.addresses" := by decide
  exact (block_textEntry _ _).append (.indexed haddress _) (hapart.append_left key)
    (.append key (by decide)) (.append key (by decide))

theorem Port.block_entries (key : String) (p : Port) : Block key (p.entries key) := by
  refine .of_sublist [".container.port", ".host.ip", ".host.port", ".protocol"] ?_ (by decide) (by decide)
  simp only [entries, List.map_append]
  exact (((sublist_numberEntry _ _).append (sublist_textEntry _ _)).append (sublist_numberEntry _ _)).append
    (sublist_textEntry _ _)

theorem Volume.block_entries (key : String) (v : Volume) : Block key (v.entries key) := by
  refine .of_sublist [".destination", ".source"] ?_ (by decide) (by decide)
  simp only [entries, List.map_append]
  exact (sublist_textEntry _ _).append (sublist_textEntry _ _)

/-! ### No key twice -/

/-- The keys of a container's entries that belong to no item of a list. -/
def Container.fixedKeys : List String :=
  ["aws.ecs.container.arn", "aws.ecs.task.known.status", "created.at", "desired.status", "docker.id", "docker.name",
    "image", "image.id", "name", "started.at", "type", "aws.ecs.cluster", "aws.ecs.container.name", "aws.ecs.task.arn",
    "aws.ecs.task.definition.family", "aws.ecs.task.definition.version", "limits.cpu", "limits.memory"]

/-- The entries of a container that belong to no item of a list. -/
def Container.fixedEntries (c : Container) : List Leaf :=
  textEntry "aws.ecs.container.arn" c.containerArn ++ textEntry "aws.ecs.task.known.status" c.knownStatus ++
    textEntry "created.at" c.createdAt ++ textEntry "desired.status" c.desiredStatus ++
    textEntry "docker.id" c.dockerId ++ textEntry "docker.name" c.dockerName ++ textEntry "image" c.image ++
    textEntry "image.id" c.imageId ++ textEntry "name" c.name ++ textEntry "started.at" c.startedAt ++
    textEntry "type" c.kind ++ (c.labels.map Labels.entries).getD [] ++ (c.limits.map Limits.entries).getD []

theorem Container.entries_eq (c : Container) :
    c.entries = c.fixedEntries ++ indexed "networks" Network.entries c.networks ++
      indexed "ports" Port.entries c.ports ++ indexed "volumes" Volume.entries c.volumes := rfl

theorem Labels.sublist_entries (l : Option Labels) : (((l.map Labels.entries).getD []).map Prod.fst).Sublist
    ["aws.ecs.cluster", "aws.ecs.container.name", "aws.ecs.task.arn", "aws.ecs.task.definition.family",
      "aws.ecs.task.definition.version"] := by
  cases l with
  | none => exact List.nil_sublist _
  | some l =>
    simp only [Option.map_some, Option.getD_some, entries, List.map_append]
    exact ((((sublist_textEntry _ _).append (sublist_textEntry _ _)).append (sublist_textEntry _ _)).append
      (sublist_textEntry _ _)).append (sublist_textEntry _ _)

theorem Limits.sublist_entries (l : Option Limits) : (((l.map Limits.entries).getD []).map Prod.fst).Sublist
    ["limits.cpu", "limits.memory"] := by
  cases l with
  | none => exact List.nil_sublist _
  | some l =>
    simp only [Option.map_some, Option.getD_some, entries, List.map_append]
    exact (sublist_numberEntry _ _).append (sublist_numberEntry _ _)

theorem Container.sublist_fixedEntries (c : Container) : (c.fixedEntries.map Prod.fst).Sublist fixedKeys := by
  have htexts := (((((((((((sublist_textEntry "aws.ecs.container.arn" c.containerArn).append
    (sublist_textEntry "aws.ecs.task.known.status" c.knownStatus)).append
    (sublist_textEntry "created.at" c.createdAt)).append
    (sublist_textEntry "desired.status" c.desiredStatus)).append
    (sublist_textEntry "docker.id" c.dockerId)).append
    (sublist_textEntry "docker.name" c.dockerName)).append
    (sublist_textEntry "image" c.image)).append
    (sublist_textEntry "image.id" c.imageId)).append
    (sublist_textEntry "name" c.name)).append
    (sublist_textEntry "started.at" c.startedAt)).append
    (sublist_textEntry "type" c.kind))
  have hall := (htexts.append (Labels.sublist_entries c.labels)).append (Limits.sublist_entries c.limits)
  simp only [fixedEntries, List.map_append]
  exact hall

/-- **No two entries of a container have the same key.** -/
theorem Container.nodup_entries (c : Container) : (c.entries.map Prod.fst).Nodup := by
  have hfixed := c.sublist_fixedEntries
  have hnetworks : Block "networks" _ := .indexed Network.block_entries c.networks
  have hports : Block "ports" _ := .indexed Port.block_entries c.ports
  have hvolumes : Block "volumes" _ := .indexed Volume.block_entries c.volumes
  have hapart : ∀ key ∈ ["networks", "ports", "volumes"], ∀ s ∈ fixedKeys, ¬ Under key s := by decide +kernel
  have hfirst := Block.nodup_append (hfixed.nodup (by decide +kernel)) hnetworks
    fun s hs => hapart _ (by simp) s (hfixed.subset hs)
  have hsecond := Block.nodup_append hfirst hports fun s hs => by
    rw [List.map_append, List.mem_append] at hs
    rcases hs with hs | hs
    · exact hapart _ (by simp) s (hfixed.subset hs)
    · exact hnetworks.not_under (by decide) s hs
  rw [entries_eq]
  refine Block.nodup_append hsecond hvolumes fun s hs => ?_
  rw [List.map_append, List.map_append, List.mem_append, List.mem_append] at hs
  rcases hs with (hs | hs) | hs
  · exact hapart _ (by simp) s (hfixed.subset hs)
  · exact hnetworks.not_under (by decide) s hs
  · exact hports.not_under (by decide) s hs

/-! ### The leaves of a document -/

end Ecs

namespace Json

theorem fieldLeavesBelow_append (path : String) (l r : List (String × Json)) :
    fieldLeavesBelow path (l ++ r) = fieldLeavesBelow path l ++ fieldLeavesBelow path r := by
  induction l with
  | nil => rfl
  | cons e rest ih =>
    obtain ⟨name, v⟩ := e
    rw [List.cons_append, fieldLeavesBelow, ih, fieldLeavesBelow, List.append_assoc]

/-- The leaves of a slot of a record that is reached by a path. -/
def slotLeaves (path : String) (s : String × Option Json) : List Leaf :=
  s.2.toList.flatMap fun v => v.leavesBelow (KeyPath.join path s.1)

theorem leavesBelow_record (path : String) (slots : List (String × Option Json)) :
    (record slots).leavesBelow path = slots.flatMap (slotLeaves path) := by
  rw [record, leavesBelow, presentFields]
  induction slots with
  | nil => rfl
  | cons s rest ih =>
    obtain ⟨name, v⟩ := s
    rw [List.flatMap_cons, List.flatMap_cons, fieldLeavesBelow_append, ih]
    cases v <;> simp [slotLeaves, fieldLeavesBelow]

/-- The leaves of a record in a record. -/
theorem slotLeaves_record (path name : String) (slots : List (String × Option Json)) :
    slotLeaves path (name, some (record slots)) = slots.flatMap (slotLeaves (KeyPath.join path name)) := by
  rw [← leavesBelow_record]
  exact List.append_nil _

/-- Every leaf of a record has a path if every field has a name. -/
theorem path_ne_empty_of_mem_record {slots : List (String × Option Json)} (h : ∀ s ∈ slots, s.1 ≠ "") :
    ∀ e ∈ (record slots).literalLeaves, e.1 ≠ "" := by
  intro e he
  rw [literalLeaves, leavesBelow_record] at he
  obtain ⟨s, hs, he⟩ := List.mem_flatMap.mp he
  obtain ⟨v, -, he⟩ := List.mem_flatMap.mp he
  exact path_ne_empty_of_mem_leavesBelow (h s hs) v e he

theorem itemLeavesBelow_map {α : Type} (path : String) (write : α → Json) (l : List α) (index : Nat) :
    itemLeavesBelow path index (l.map write) =
      (l.zipIdx index).flatMap fun (a, i) => (write a).leavesBelow (KeyPath.join path (toString i)) := by
  induction l generalizing index with
  | nil => rfl
  | cons a rest ih => rw [List.map_cons, itemLeavesBelow, ih, List.zipIdx_cons, List.flatMap_cons]

end Json

namespace Ecs

open Json (slotLeaves)

theorem join_of_ne {path : String} (h : path ≠ "") (name : String) : KeyPath.join path name = path ++ "." ++ name := by
  simp [KeyPath.join, h]

theorem dottedLeaves_textSlot (path name : String) (v : Option String) :
    dottedLeaves (slotLeaves path (textSlot name v)) = textEntry (dottedName (KeyPath.join path name)) v := by
  cases v <;> rfl

theorem dottedLeaves_numberSlot (path name : String) (v : Option Json.Number) :
    dottedLeaves (slotLeaves path (numberSlot name v)) = numberEntry (dottedName (KeyPath.join path name)) v := by
  cases v <;> rfl

/-- The leaves of a list are the entries of its items. -/
theorem perm_listSlot {α : Type} (write : α → Json) (entries : String → α → List Leaf) (path name : String)
    (hpath : KeyPath.join path name ≠ "")
    (h : ∀ path, path ≠ "" → ∀ a, (dottedLeaves ((write a).leavesBelow path)).Perm (entries (dottedName path) a))
    (v : Option (List α)) :
    (dottedLeaves (slotLeaves path (listSlot name write v))).Perm
      (indexed (dottedName (KeyPath.join path name)) entries v) := by
  generalize hjoin : KeyPath.join path name = below at hpath
  cases v with
  | none => exact .refl _
  | some l =>
    have hleaves : slotLeaves path (listSlot name write (some l)) =
        l.zipIdx.flatMap fun (a, i) => (write a).leavesBelow (below ++ "." ++ toString i) := by
      simp only [slotLeaves, listSlot, Option.map_some, Option.toList_some, List.flatMap_singleton, Json.leavesBelow,
        Json.itemLeavesBelow_map, hjoin, join_of_ne hpath]
    rw [hleaves, dottedLeaves, List.map_flatMap, indexed, Option.getD_some]
    refine List.Perm.flatMap_left _ fun x _ => ?_
    have hitem := h (below ++ "." ++ toString x.2) (by simp) x.1
    rwa [dottedName_append_dot, dottedName_toString] at hitem

theorem dottedName_below {path name suffix : String} (hpath : path ≠ "") (h : "." ++ dottedName name = suffix) :
    dottedName (KeyPath.join path name) = dottedName path ++ suffix := by
  rw [join_of_ne hpath, dottedName_append_dot, String.append_assoc, h]

theorem Network.perm_leaves (path : String) (hpath : path ≠ "") (n : Network) :
    (dottedLeaves (n.toJson.leavesBelow path)).Perm (n.entries (dottedName path)) := by
  have hmode := dottedLeaves_textSlot path "NetworkMode" n.networkMode
  have haddresses := perm_listSlot Json.string (fun k s => [(k, .string s)]) path "IPv4Addresses"
    (by simp [join_of_ne hpath]) (fun _ _ _ => .refl _) n.ipv4Addresses
  rw [dottedName_below hpath (by decide : _ = ".network.mode")] at hmode
  rw [dottedName_below hpath (by decide : _ = ".ipv4.addresses")] at haddresses
  rw [toJson, Json.leavesBelow_record, slots]
  simp only [List.flatMap_cons, List.flatMap_nil, List.append_nil, Flattening.dottedLeaves_append, hmode]
  exact (haddresses.append_right _).trans List.perm_append_comm

theorem Port.perm_leaves (path : String) (hpath : path ≠ "") (p : Port) :
    (dottedLeaves (p.toJson.leavesBelow path)).Perm (p.entries (dottedName path)) := by
  rw [toJson, Json.leavesBelow_record, slots]
  simp only [List.flatMap_cons, List.flatMap_nil, List.append_nil, Flattening.dottedLeaves_append,
    dottedLeaves_textSlot, dottedLeaves_numberSlot,
    dottedName_below hpath (by decide : "." ++ dottedName "ContainerPort" = ".container.port"),
    dottedName_below hpath (by decide : "." ++ dottedName "HostIp" = ".host.ip"),
    dottedName_below hpath (by decide : "." ++ dottedName "HostPort" = ".host.port"),
    dottedName_below hpath (by decide : "." ++ dottedName "Protocol" = ".protocol")]
  rw [entries, List.append_assoc, List.append_assoc]

theorem Volume.perm_leaves (path : String) (hpath : path ≠ "") (v : Volume) :
    (dottedLeaves (v.toJson.leavesBelow path)).Perm (v.entries (dottedName path)) := by
  rw [toJson, Json.leavesBelow_record, slots]
  simp only [List.flatMap_cons, List.flatMap_nil, List.append_nil, Flattening.dottedLeaves_append,
    dottedLeaves_textSlot, dottedName_below hpath (by decide : "." ++ dottedName "Destination" = ".destination"),
    dottedName_below hpath (by decide : "." ++ dottedName "Source" = ".source")]
  exact .refl _

theorem rename_textSlot {path name key : String} (h : keyOfDotted (dottedName (KeyPath.join path name)) = key)
    (v : Option String) : (dottedLeaves (slotLeaves path (textSlot name v))).map renameEntry = textEntry key v := by
  rw [dottedLeaves_textSlot, ← h]
  cases v <;> rfl

theorem rename_numberSlot {path name key : String} (h : keyOfDotted (dottedName (KeyPath.join path name)) = key)
    (v : Option Json.Number) :
    (dottedLeaves (slotLeaves path (numberSlot name v))).map renameEntry = numberEntry key v := by
  rw [dottedLeaves_numberSlot, ← h]
  cases v <;> rfl

theorem rename_labels (l : Option Labels) :
    (dottedLeaves (slotLeaves "" (partSlot "Labels" Labels.toJson l))).map renameEntry =
      (l.map Labels.entries).getD [] := by
  cases l with
  | none => rfl
  | some l =>
    have hleaves : slotLeaves "" (partSlot "Labels" Labels.toJson (some l)) = l.slots.flatMap (slotLeaves "Labels") :=
      Json.slotLeaves_record "" "Labels" l.slots
    rw [hleaves, Labels.slots]
    simp only [List.flatMap_cons, List.flatMap_nil, List.append_nil, Flattening.dottedLeaves_append, List.map_append]
    rw [rename_textSlot (by decide : _ = "aws.ecs.cluster"), rename_textSlot (by decide : _ = "aws.ecs.container.name"),
      rename_textSlot (by decide : _ = "aws.ecs.task.arn"),
      rename_textSlot (by decide : _ = "aws.ecs.task.definition.family"),
      rename_textSlot (by decide : _ = "aws.ecs.task.definition.version")]
    simp only [Option.map_some, Option.getD_some, Labels.entries, List.append_assoc]

theorem rename_limits (l : Option Limits) :
    (dottedLeaves (slotLeaves "" (partSlot "Limits" Limits.toJson l))).map renameEntry =
      (l.map Limits.entries).getD [] := by
  cases l with
  | none => rfl
  | some l =>
    have hleaves : slotLeaves "" (partSlot "Limits" Limits.toJson (some l)) = l.slots.flatMap (slotLeaves "Limits") :=
      Json.slotLeaves_record "" "Limits" l.slots
    rw [hleaves, Limits.slots]
    simp only [List.flatMap_cons, List.flatMap_nil, List.append_nil, Flattening.dottedLeaves_append, List.map_append]
    rw [rename_numberSlot (by decide : _ = "limits.cpu"), rename_numberSlot (by decide : _ = "limits.memory")]
    rfl

/-- The entries of a list that the schema does not rename. -/
theorem perm_rename_listSlot {α : Type} {write : α → Json} {entries : String → α → List Leaf} (name key : String)
    (hkey : dottedName (KeyPath.join "" name) = key) (hname : KeyPath.join "" name ≠ "")
    (hleaves : ∀ path, path ≠ "" → ∀ a, (dottedLeaves ((write a).leavesBelow path)).Perm (entries (dottedName path) a))
    (hblock : ∀ key a, Block key (entries key a)) (hkept : ∀ e ∈ renamings, ¬ Under key e.1) (v : Option (List α)) :
    ((dottedLeaves (slotLeaves "" (listSlot name write v))).map renameEntry).Perm (indexed key entries v) := by
  have hperm := perm_listSlot write entries "" name hname hleaves v
  rw [hkey] at hperm
  have hsame : (indexed key entries v).map renameEntry = indexed key entries v := by
    refine (List.map_congr_left fun e he => ?_).trans (List.map_id _)
    rw [renameEntry, keyOfDotted_of_under ((Block.indexed hblock v).under e he) hkept]
    rfl
  exact hsame ▸ hperm.map renameEntry

/-- **The leaves of a container's document are its entries**, in another order, under the keys of the schema. -/
theorem Container.perm_leaves (c : Container) :
    ((dottedLeaves c.toJson.literalLeaves).map renameEntry).Perm c.entries := by
  have hnetworks := perm_rename_listSlot "Networks" "networks" (by decide) (by decide) Network.perm_leaves
    Network.block_entries (by decide +kernel) c.networks
  have hports := perm_rename_listSlot "Ports" "ports" (by decide) (by decide) Port.perm_leaves
    Port.block_entries (by decide +kernel) c.ports
  have hvolumes := perm_rename_listSlot "Volumes" "volumes" (by decide) (by decide) Volume.perm_leaves
    Volume.block_entries (by decide +kernel) c.volumes
  rw [Json.literalLeaves, toJson, Json.leavesBelow_record, slots]
  simp only [List.flatMap_cons, List.flatMap_nil, List.append_nil, Flattening.dottedLeaves_append, List.map_append]
  rw [rename_textSlot (by decide : _ = "aws.ecs.container.arn"), rename_textSlot (by decide : _ = "created.at"),
    rename_textSlot (by decide : _ = "desired.status"), rename_textSlot (by decide : _ = "docker.id"),
    rename_textSlot (by decide : _ = "docker.name"), rename_textSlot (by decide : _ = "image"),
    rename_textSlot (by decide : _ = "image.id"), rename_textSlot (by decide : _ = "aws.ecs.task.known.status"),
    rename_textSlot (by decide : _ = "name"), rename_textSlot (by decide : _ = "started.at"),
    rename_textSlot (by decide : _ = "type"), rename_labels, rename_limits]
  refine List.perm_iff_count.mpr fun e => ?_
  have hn := hnetworks.count_eq e
  have hp := hports.count_eq e
  have hv := hvolumes.count_eq e
  simp only [entries_eq, fixedEntries, List.count_append, hn, hp, hv]
  omega

/-! ### Agreement -/

/-- How the two ways to flatten agree on the document of a container. -/
structure Container.Agrees (c : Container) : Prop where
  /-- The document is in order, as it would be if it were read from a text. -/
  sorted : c.toJson.Sorted
  /-- The schema finds in the document the container from which it was written. -/
  schema : Container.ofJson? c.toJson = some c ∧ Flattener.ecs c.toJson = .ok c.attributes
  /-- As a tree of fields the document has no colliding keys. -/
  apart : (Flattening.ofDocument .dotted c.toJson).renamed = 0 ∧ (Flattening.ofDocument .dotted c.toJson).dropped = 0
  /-- The attributes that it has as a tree of fields are, under the keys of the schema, those that it has by
  the schema: every one of them, and each once. -/
  same : ((Flattening.ofDocument .dotted c.toJson).attributes.entries.map renameEntry).Perm c.attributes.entries

/-- **The two ways to flatten agree** on the document of every container. -/
theorem Container.agrees (c : Container) : c.Agrees := by
  have hleaves := c.perm_leaves
  have hpath : ∀ e ∈ c.toJson.literalLeaves, e.1 ≠ "" :=
    Json.path_ne_empty_of_mem_record (by simp [slots, textSlot, partSlot, listSlot])
  -- Names that are different after the renaming are different before it.
  have hnames : ((dottedLeaves c.toJson.literalLeaves).map Prod.fst).Nodup := by
    have hrenamed := (hleaves.map Prod.fst).nodup_iff.mpr c.nodup_entries
    rw [List.map_map] at hrenamed
    refine List.Nodup.of_map keyOfDotted ?_
    rw [List.map_map]
    exact hrenamed
  obtain ⟨hrenamed, hdropped, hentries⟩ := Flattening.ofDocument_of_nodup hpath hnames
  have hread := c.ofJson?_toJson
  refine ⟨c.sorted_toJson, ⟨hread, by rw [Flattener.ecs, hread]⟩, ⟨hrenamed, hdropped⟩, ?_⟩
  exact ((hentries.map renameEntry).trans hleaves).trans (SortedMap.perm_ofList c.nodup_entries).symm

end Ecs

end LogTagger
