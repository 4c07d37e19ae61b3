import LogTagger.Flatten.Flattener
import LogTagger.Proofs.Record.RoundTrip

/-!
# Writing container documents of ECS

The document of a container holds, under the names of the schema, exactly the fields that are present
(`Ecs.Container.toJson`). Its fields are in order (`Container.sorted_toJson`), and it is read as the container
from which it was written (`Container.ofJson?_toJson`).
-/

namespace LogTagger

/-! ### Records -/

namespace Json

/-- The fields of a record that are present. -/
def presentFields (slots : List (String × Option Json)) : List (String × Json) :=
  slots.flatMap fun s => s.2.toList.map fun v => (s.1, v)

/-- The object of the fields of a record that are present. -/
def record (slots : List (String × Option Json)) : Json := .object (presentFields slots)

/-- A field is found if it is present. -/
theorem lookup_presentFields (name : String) {slots : List (String × Option Json)}
    (names : (slots.map Prod.fst).Pairwise (· < ·)) :
    SortedMap.lookup name (presentFields slots) = (SortedMap.lookup name slots).join := by
  induction slots with
  | nil => rfl
  | cons s rest ih =>
    obtain ⟨k, v⟩ := s
    obtain ⟨hfirst, hrest⟩ := List.pairwise_cons.mp names
    rw [presentFields, List.flatMap_cons, SortedMap.lookup_append, ← presentFields, ih hrest]
    by_cases heq : name = k
    · have hnone : SortedMap.lookup name rest = none := by
        rw [SortedMap.lookup_eq_none_iff]
        intro e he hname
        have hlt : k < e.1 := hfirst e.1 (List.mem_map_of_mem he)
        rw [hname, heq] at hlt
        exact String.lt_irrefl k hlt
      cases v <;> simp [SortedMap.lookup, heq ▸ hnone, heq]
    · cases v <;> simp [SortedMap.lookup, heq]

/-- The value of a slot is in order. -/
def SortedSlot (s : String × Option Json) : Prop := ∀ v, s.2 = some v → v.Sorted

/-- A record is in order if its names and its fields are. -/
theorem sorted_record {slots : List (String × Option Json)} (names : (slots.map Prod.fst).Pairwise (· < ·))
    (h : ∀ s ∈ slots, SortedSlot s) : (record slots).Sorted := by
  refine .object ?_ fun e he => ?_
  · rw [presentFields, List.pairwise_flatMap]
    refine ⟨fun s _ => ?_, (List.pairwise_map.mp names).imp fun hlt => ?_⟩
    · cases s.2 <;> simp
    · intro e he e' he'
      obtain ⟨-, -, rfl⟩ := List.mem_map.mp he
      obtain ⟨-, -, rfl⟩ := List.mem_map.mp he'
      exact hlt
  · obtain ⟨s, hs, he⟩ := List.mem_flatMap.mp he
    obtain ⟨v, hv, rfl⟩ := List.mem_map.mp he
    exact h s hs v (Option.mem_toList.mp hv)

end Json

namespace Ecs

/-! ### Writing -/

/-- The slot of a string. -/
def textSlot (name : String) (v : Option String) : String × Option Json := (name, v.map .string)

/-- The slot of a number. -/
def numberSlot (name : String) (v : Option Json.Number) : String × Option Json := (name, v.map .number)

/-- The slot of a structure. -/
def partSlot {α : Type} (name : String) (write : α → Json) (v : Option α) : String × Option Json := (name, v.map write)

/-- The slot of a list. -/
def listSlot {α : Type} (name : String) (write : α → Json) (v : Option (List α)) : String × Option Json :=
  (name, v.map fun l => .array (l.map write))

/-- The fields of labels. -/
def Labels.slots (l : Labels) : List (String × Option Json) :=
  [textSlot "com.amazonaws.ecs.cluster" l.cluster, textSlot "com.amazonaws.ecs.container-name" l.containerName,
    textSlot "com.amazonaws.ecs.task-arn" l.taskArn,
    textSlot "com.amazonaws.ecs.task-definition-family" l.taskDefinitionFamily,
    textSlot "com.amazonaws.ecs.task-definition-version" l.taskDefinitionVersion]

/-- The document of labels. -/
def Labels.toJson (l : Labels) : Json := .record l.slots

/-- The fields of limits. -/
def Limits.slots (l : Limits) : List (String × Option Json) := [numberSlot "CPU" l.cpu, numberSlot "Memory" l.memory]

/-- The document of limits. -/
def Limits.toJson (l : Limits) : Json := .record l.slots

/-- The fields of a network. -/
def Network.slots (n : Network) : List (String × Option Json) :=
  [listSlot "IPv4Addresses" .string n.ipv4Addresses, textSlot "NetworkMode" n.networkMode]

/-- The document of a network. -/
def Network.toJson (n : Network) : Json := .record n.slots

/-- The fields of a port. -/
def Port.slots (p : Port) : List (String × Option Json) :=
  [numberSlot "ContainerPort" p.containerPort, textSlot "HostIp" p.hostIp, numberSlot "HostPort" p.hostPort,
    textSlot "Protocol" p.protocol]

/-- The document of a port. -/
def Port.toJson (p : Port) : Json := .record p.slots

/-- The fields of a volume. -/
def Volume.slots (v : Volume) : List (String × Option Json) :=
  [textSlot "Destination" v.destination, textSlot "Source" v.source]

/-- The document of a volume. -/
def Volume.toJson (v : Volume) : Json := .record v.slots

/-- The fields of a container. -/
def Container.slots (c : Container) : List (String × Option Json) :=
  [textSlot "ContainerARN" c.containerArn, textSlot "CreatedAt" c.createdAt, textSlot "DesiredStatus" c.desiredStatus,
    textSlot "DockerId" c.dockerId, textSlot "DockerName" c.dockerName, textSlot "Image" c.image,
    textSlot "ImageID" c.imageId, textSlot "KnownStatus" c.knownStatus, partSlot "Labels" Labels.toJson c.labels,
    partSlot "Limits" Limits.toJson c.limits, textSlot "Name" c.name, listSlot "Networks" Network.toJson c.networks,
    listSlot "Ports" Port.toJson c.ports, textSlot "StartedAt" c.startedAt, textSlot "Type" c.kind,
    listSlot "Volumes" Volume.toJson c.volumes]

/-- The document of a container. -/
def Container.toJson (c : Container) : Json := .record c.slots

/-! ### Names -/

theorem Labels.pairwise_slots (l : Labels) : (l.slots.map Prod.fst).Pairwise (· < ·) := by
  simp only [slots, textSlot, List.map]
  decide +kernel

theorem Limits.pairwise_slots (l : Limits) : (l.slots.map Prod.fst).Pairwise (· < ·) := by
  simp only [slots, numberSlot, List.map]
  decide +kernel

theorem Network.pairwise_slots (n : Network) : (n.slots.map Prod.fst).Pairwise (· < ·) := by
  simp only [slots, listSlot, textSlot, List.map]
  decide +kernel

theorem Port.pairwise_slots (p : Port) : (p.slots.map Prod.fst).Pairwise (· < ·) := by
  simp only [slots, numberSlot, textSlot, List.map]
  decide +kernel

theorem Volume.pairwise_slots (v : Volume) : (v.slots.map Prod.fst).Pairwise (· < ·) := by
  simp only [slots, textSlot, List.map]
  decide +kernel

theorem Container.pairwise_slots (c : Container) : (c.slots.map Prod.fst).Pairwise (· < ·) := by
  simp only [slots, partSlot, listSlot, textSlot, List.map]
  decide +kernel

/-! ### Order -/

theorem sortedSlot_partSlot {α : Type} (name : String) {write : α → Json} (v : Option α)
    (h : ∀ a, (write a).Sorted) : Json.SortedSlot (partSlot name write v) := by
  intro j hj
  obtain ⟨a, -, rfl⟩ := Option.map_eq_some_iff.mp hj
  exact h a

theorem sortedSlot_textSlot (name : String) (v : Option String) : Json.SortedSlot (textSlot name v) :=
  sortedSlot_partSlot name v .string

theorem sortedSlot_numberSlot (name : String) (v : Option Json.Number) : Json.SortedSlot (numberSlot name v) :=
  sortedSlot_partSlot name v .number

theorem sortedSlot_listSlot {α : Type} (name : String) {write : α → Json} (v : Option (List α))
    (h : ∀ a, (write a).Sorted) : Json.SortedSlot (listSlot name write v) := by
  refine sortedSlot_partSlot name v fun l => .array fun j hj => ?_
  obtain ⟨a, -, rfl⟩ := List.mem_map.mp hj
  exact h a

theorem Labels.sorted_toJson (l : Labels) : l.toJson.Sorted :=
  Json.sorted_record l.pairwise_slots (by simp [slots, sortedSlot_textSlot])

theorem Limits.sorted_toJson (l : Limits) : l.toJson.Sorted :=
  Json.sorted_record l.pairwise_slots (by simp [slots, sortedSlot_numberSlot])

theorem Network.sorted_toJson (n : Network) : n.toJson.Sorted :=
  Json.sorted_record n.pairwise_slots (by simp [slots, sortedSlot_textSlot, sortedSlot_listSlot, Json.Sorted.string])

theorem Port.sorted_toJson (p : Port) : p.toJson.Sorted :=
  Json.sorted_record p.pairwise_slots (by simp [slots, sortedSlot_textSlot, sortedSlot_numberSlot])

theorem Volume.sorted_toJson (v : Volume) : v.toJson.Sorted :=
  Json.sorted_record v.pairwise_slots (by simp [slots, sortedSlot_textSlot])

/-- The document of a container is in order. -/
theorem Container.sorted_toJson (c : Container) : c.toJson.Sorted :=
  Json.sorted_record c.pairwise_slots
    (by simp [slots, sortedSlot_textSlot, sortedSlot_partSlot, sortedSlot_listSlot, Labels.sorted_toJson,
      Limits.sorted_toJson, Network.sorted_toJson, Port.sorted_toJson, Volume.sorted_toJson])

/-! ### Reading back -/

section

variable {slots : List (String × Option Json)} (names : (slots.map Prod.fst).Pairwise (· < ·))
include names

/-- A part that is written is read back by its name. -/
theorem optional_part {α : Type} {write : α → Json} {read : Json → Option α} (hnull : read .null = none)
    (h : ∀ a, read (write a) = some a) (name : String) (v : Option α)
    (hslot : SortedMap.lookup name slots = some (v.map write)) :
    optional (Json.presentFields slots) name read = some v := by
  rw [optional, Json.lookup_presentFields name names, hslot]
  cases v with
  | none => rfl
  | some a =>
    rw [Option.map_some, Option.join_some]
    split
    case h_1 heq => cases heq
    case h_2 heq =>
      have hread := h a
      rw [Option.some.inj heq, hnull] at hread
      cases hread
    case h_3 j hfound heq =>
      obtain rfl := Option.some.inj heq
      rw [h a, Option.map_some]

theorem optional_text (name : String) (v : Option String) (hslot : SortedMap.lookup name slots = some (v.map .string)) :
    optional (Json.presentFields slots) name string? = some v :=
  optional_part names rfl (fun s => show string? (.string s) = some s from rfl) name v hslot

theorem optional_number (name : String) (v : Option Json.Number)
    (hslot : SortedMap.lookup name slots = some (v.map .number)) :
    optional (Json.presentFields slots) name number? = some v :=
  optional_part names rfl (fun n => show number? (.number n) = some n from rfl) name v hslot

theorem optional_list {α : Type} {write : α → Json} {read : Json → Option α} (h : ∀ a, read (write a) = some a)
    (name : String) (v : Option (List α))
    (hslot : SortedMap.lookup name slots = some (v.map fun l => .array (l.map write))) :
    optional (Json.presentFields slots) name (list? read) = some v := by
  refine optional_part names rfl (fun l => ?_) name v hslot
  rw [list?, mapM_map_eq_some fun a _ => h a]

end

theorem Labels.ofJson?_toJson (l : Labels) : ofJson? l.toJson = some l := by
  have htext := optional_text l.pairwise_slots
  simp only [ofJson?, toJson, Json.record, slots?, Option.bind_eq_bind, Option.bind_some,
    htext "com.amazonaws.ecs.cluster" l.cluster rfl, htext "com.amazonaws.ecs.container-name" l.containerName rfl,
    htext "com.amazonaws.ecs.task-arn" l.taskArn rfl,
    htext "com.amazonaws.ecs.task-definition-family" l.taskDefinitionFamily rfl,
    htext "com.amazonaws.ecs.task-definition-version" l.taskDefinitionVersion rfl]
  rfl

theorem Limits.ofJson?_toJson (l : Limits) : ofJson? l.toJson = some l := by
  have hnumber := optional_number l.pairwise_slots
  simp only [ofJson?, toJson, Json.record, slots?, Option.bind_eq_bind, Option.bind_some, hnumber "CPU" l.cpu rfl,
    hnumber "Memory" l.memory rfl]
  rfl

theorem Network.ofJson?_toJson (n : Network) : ofJson? n.toJson = some n := by
  have haddresses := optional_list n.pairwise_slots (fun s => show string? (.string s) = some s from rfl)
  have htext := optional_text n.pairwise_slots
  simp only [ofJson?, toJson, Json.record, slots?, Option.bind_eq_bind, Option.bind_some,
    haddresses "IPv4Addresses" n.ipv4Addresses rfl, htext "NetworkMode" n.networkMode rfl]
  rfl

theorem Port.ofJson?_toJson (p : Port) : ofJson? p.toJson = some p := by
  have hnumber := optional_number p.pairwise_slots
  have htext := optional_text p.pairwise_slots
  simp only [ofJson?, toJson, Json.record, slots?, Option.bind_eq_bind, Option.bind_some,
    hnumber "ContainerPort" p.containerPort rfl, htext "HostIp" p.hostIp rfl, hnumber "HostPort" p.hostPort rfl,
    htext "Protocol" p.protocol rfl]
  rfl

theorem Volume.ofJson?_toJson (v : Volume) : ofJson? v.toJson = some v := by
  have htext := optional_text v.pairwise_slots
  simp only [ofJson?, toJson, Json.record, slots?, Option.bind_eq_bind, Option.bind_some,
    htext "Destination" v.destination rfl, htext "Source" v.source rfl]
  rfl

/-- **The document of a container is read as that container.** -/
theorem Container.ofJson?_toJson (c : Container) : ofJson? c.toJson = some c := by
  have htext := optional_text c.pairwise_slots
  have hlabels := optional_part c.pairwise_slots rfl Labels.ofJson?_toJson "Labels" c.labels rfl
  have hlimits := optional_part c.pairwise_slots rfl Limits.ofJson?_toJson "Limits" c.limits rfl
  have hnetworks := optional_list c.pairwise_slots Network.ofJson?_toJson "Networks" c.networks rfl
  have hports := optional_list c.pairwise_slots Port.ofJson?_toJson "Ports" c.ports rfl
  have hvolumes := optional_list c.pairwise_slots Volume.ofJson?_toJson "Volumes" c.volumes rfl
  rw [ofJson?, toJson, Json.record, slots?, Option.bind_eq_bind, Option.bind_some]
  refine Option.bind_eq_some_iff.mpr ⟨_, htext "ContainerARN" c.containerArn rfl, ?_⟩
  refine Option.bind_eq_some_iff.mpr ⟨_, htext "CreatedAt" c.createdAt rfl, ?_⟩
  refine Option.bind_eq_some_iff.mpr ⟨_, htext "DesiredStatus" c.desiredStatus rfl, ?_⟩
  refine Option.bind_eq_some_iff.mpr ⟨_, htext "DockerId" c.dockerId rfl, ?_⟩
  refine Option.bind_eq_some_iff.mpr ⟨_, htext "DockerName" c.dockerName rfl, ?_⟩
  refine Option.bind_eq_some_iff.mpr ⟨_, htext "Image" c.image rfl, ?_⟩
  refine Option.bind_eq_some_iff.mpr ⟨_, htext "ImageID" c.imageId rfl, ?_⟩
  refine Option.bind_eq_some_iff.mpr ⟨_, htext "KnownStatus" c.knownStatus rfl, ?_⟩
  refine Option.bind_eq_some_iff.mpr ⟨_, hlabels, ?_⟩
  refine Option.bind_eq_some_iff.mpr ⟨_, hlimits, ?_⟩
  refine Option.bind_eq_some_iff.mpr ⟨_, htext "Name" c.name rfl, ?_⟩
  refine Option.bind_eq_some_iff.mpr ⟨_, hnetworks, ?_⟩
  refine Option.bind_eq_some_iff.mpr ⟨_, hports, ?_⟩
  refine Option.bind_eq_some_iff.mpr ⟨_, htext "StartedAt" c.startedAt rfl, ?_⟩
  refine Option.bind_eq_some_iff.mpr ⟨_, htext "Type" c.kind rfl, ?_⟩
  refine Option.bind_eq_some_iff.mpr ⟨_, hvolumes, ?_⟩
  rfl

end Ecs

end LogTagger
