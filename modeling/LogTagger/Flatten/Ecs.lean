import LogTagger.Attribute

/-!
# Container documents of ECS

The metadata document that the container agent of ECS serves for a container, and its attributes
under fixed keys. Every field may be missing or null; a field of another type makes the document
foreign (`ofJson?` gives none). Fields outside the schema are passed over. A structure may also be
given as an array of all its fields in their order.
-/

namespace LogTagger.Ecs

/-- The labels that ECS puts on a container. -/
structure Labels where
  /-- The cluster. -/
  cluster : Option String := none
  /-- The name of the container in its task definition. -/
  containerName : Option String := none
  /-- The resource name of the task. -/
  taskArn : Option String := none
  /-- The family of the task definition. -/
  taskDefinitionFamily : Option String := none
  /-- The version of the task definition. -/
  taskDefinitionVersion : Option String := none
  deriving DecidableEq

/-- The limits of a container. -/
structure Limits where
  /-- Processor units. -/
  cpu : Option Json.Number := none
  /-- Memory in megabytes. -/
  memory : Option Json.Number := none
  deriving DecidableEq

/-- A network of a container. -/
structure Network where
  /-- The addresses in it. -/
  ipv4Addresses : Option (List String) := none
  /-- Its mode. -/
  networkMode : Option String := none
  deriving DecidableEq

/-- A published port of a container. -/
structure Port where
  /-- The port inside the container. -/
  containerPort : Option Json.Number := none
  /-- The address on the host. -/
  hostIp : Option String := none
  /-- The port on the host. -/
  hostPort : Option Json.Number := none
  /-- The protocol. -/
  protocol : Option String := none
  deriving DecidableEq

/-- A mounted volume of a container. -/
structure Volume where
  /-- The path inside the container. -/
  destination : Option String := none
  /-- The path on the host. -/
  source : Option String := none
  deriving DecidableEq

/-- The metadata document of a container. -/
structure Container where
  /-- The resource name of the container. -/
  containerArn : Option String := none
  /-- When the container was created. -/
  createdAt : Option String := none
  /-- The status that ECS wants. -/
  desiredStatus : Option String := none
  /-- The id that Docker gave. -/
  dockerId : Option String := none
  /-- The name that Docker knows. -/
  dockerName : Option String := none
  /-- The image. -/
  image : Option String := none
  /-- The digest of the image. -/
  imageId : Option String := none
  /-- The status that ECS knows. -/
  knownStatus : Option String := none
  /-- The labels. -/
  labels : Option Labels := none
  /-- The limits. -/
  limits : Option Limits := none
  /-- The name in the task definition. -/
  name : Option String := none
  /-- The networks. -/
  networks : Option (List Network) := none
  /-- The published ports. -/
  ports : Option (List Port) := none
  /-- When the container was started. -/
  startedAt : Option String := none
  /-- The type. -/
  kind : Option String := none
  /-- The mounted volumes. -/
  volumes : Option (List Volume) := none
  deriving DecidableEq

/-! ### Reading -/

/-- The values of a structure's fields by name: those of an object, or as many items of an array as
there are fields. -/
def slots? (names : List String) : Json → Option (List (String × Json))
  | .object fields => some fields
  | .array items => if items.length = names.length then some (names.zip items) else none
  | _ => none

/-- A field that may be missing or null. -/
def optional {α : Type} (slots : List (String × Json)) (name : String) (read : Json → Option α) :
    Option (Option α) :=
  match SortedMap.lookup name slots with
  | none => some none
  | some .null => some none
  | some v => (read v).map some

/-- A string. -/
def string? : Json → Option String
  | .string s => some s
  | _ => none

/-- A number. -/
def number? : Json → Option Json.Number
  | .number n => some n
  | _ => none

/-- A list of one kind of item. -/
def list? {α : Type} (read : Json → Option α) : Json → Option (List α)
  | .array items => items.mapM read
  | _ => none

/-- The labels of a value. -/
def Labels.ofJson? (v : Json) : Option Labels := do
  let slots ← slots? ["com.amazonaws.ecs.cluster", "com.amazonaws.ecs.container-name", "com.amazonaws.ecs.task-arn",
    "com.amazonaws.ecs.task-definition-family", "com.amazonaws.ecs.task-definition-version"] v
  let cluster ← optional slots "com.amazonaws.ecs.cluster" string?
  let containerName ← optional slots "com.amazonaws.ecs.container-name" string?
  let taskArn ← optional slots "com.amazonaws.ecs.task-arn" string?
  let taskDefinitionFamily ← optional slots "com.amazonaws.ecs.task-definition-family" string?
  let taskDefinitionVersion ← optional slots "com.amazonaws.ecs.task-definition-version" string?
  return { cluster, containerName, taskArn, taskDefinitionFamily, taskDefinitionVersion }

/-- The limits of a value. -/
def Limits.ofJson? (v : Json) : Option Limits := do
  let slots ← slots? ["CPU", "Memory"] v
  let cpu ← optional slots "CPU" number?
  let memory ← optional slots "Memory" number?
  return { cpu, memory }

/-- The network of a value. -/
def Network.ofJson? (v : Json) : Option Network := do
  let slots ← slots? ["IPv4Addresses", "NetworkMode"] v
  let ipv4Addresses ← optional slots "IPv4Addresses" (list? string?)
  let networkMode ← optional slots "NetworkMode" string?
  return { ipv4Addresses, networkMode }

/-- The port of a value. -/
def Port.ofJson? (v : Json) : Option Port := do
  let slots ← slots? ["ContainerPort", "HostIp", "HostPort", "Protocol"] v
  let containerPort ← optional slots "ContainerPort" number?
  let hostIp ← optional slots "HostIp" string?
  let hostPort ← optional slots "HostPort" number?
  let protocol ← optional slots "Protocol" string?
  return { containerPort, hostIp, hostPort, protocol }

/-- The volume of a value. -/
def Volume.ofJson? (v : Json) : Option Volume := do
  let slots ← slots? ["Destination", "Source"] v
  let destination ← optional slots "Destination" string?
  let source ← optional slots "Source" string?
  return { destination, source }

/-- The names of a container's fields, in order. -/
def Container.fieldNames : List String :=
  ["ContainerARN", "CreatedAt", "DesiredStatus", "DockerId", "DockerName", "Image", "ImageID", "KnownStatus",
    "Labels", "Limits", "Name", "Networks", "Ports", "StartedAt", "Type", "Volumes"]

/-- The container of a document. -/
def Container.ofJson? (v : Json) : Option Container := do
  let slots ← slots? fieldNames v
  let containerArn ← optional slots "ContainerARN" string?
  let createdAt ← optional slots "CreatedAt" string?
  let desiredStatus ← optional slots "DesiredStatus" string?
  let dockerId ← optional slots "DockerId" string?
  let dockerName ← optional slots "DockerName" string?
  let image ← optional slots "Image" string?
  let imageId ← optional slots "ImageID" string?
  let knownStatus ← optional slots "KnownStatus" string?
  let labels ← optional slots "Labels" Labels.ofJson?
  let limits ← optional slots "Limits" Limits.ofJson?
  let name ← optional slots "Name" string?
  let networks ← optional slots "Networks" (list? Network.ofJson?)
  let ports ← optional slots "Ports" (list? Port.ofJson?)
  let startedAt ← optional slots "StartedAt" string?
  let kind ← optional slots "Type" string?
  let volumes ← optional slots "Volumes" (list? Volume.ofJson?)
  return { containerArn, createdAt, desiredStatus, dockerId, dockerName, image, imageId, knownStatus, labels, limits,
           name, networks, ports, startedAt, kind, volumes }

/-! ### Attributes -/

/-- The entry of a string that is present. -/
def textEntry (key : String) (v : Option String) : List (String × AttributeValue) :=
  v.toList.map (fun s => (key, .string s))

/-- The entry of a number that is present. -/
def numberEntry (key : String) (v : Option Json.Number) : List (String × AttributeValue) :=
  v.toList.map (fun n => (key, .ofNumber n))

/-- The entries of the items of a list that is present, under the list's key and their index. -/
def indexed {α : Type} (key : String) (entries : String → α → List (String × AttributeValue)) (v : Option (List α)) :
    List (String × AttributeValue) :=
  (v.getD []).zipIdx.flatMap (fun (x, i) => entries (key ++ "." ++ toString i) x)

/-- The entries of labels. -/
def Labels.entries (l : Labels) : List (String × AttributeValue) :=
  textEntry "aws.ecs.cluster" l.cluster ++ textEntry "aws.ecs.container.name" l.containerName ++
    textEntry "aws.ecs.task.arn" l.taskArn ++ textEntry "aws.ecs.task.definition.family" l.taskDefinitionFamily ++
    textEntry "aws.ecs.task.definition.version" l.taskDefinitionVersion

/-- The entries of limits. -/
def Limits.entries (l : Limits) : List (String × AttributeValue) :=
  numberEntry "limits.cpu" l.cpu ++ numberEntry "limits.memory" l.memory

/-- The entries of a network under its key. -/
def Network.entries (key : String) (n : Network) : List (String × AttributeValue) :=
  textEntry (key ++ ".network.mode") n.networkMode ++
    indexed (key ++ ".ipv4.addresses") (fun k s => [(k, .string s)]) n.ipv4Addresses

/-- The entries of a port under its key. -/
def Port.entries (key : String) (p : Port) : List (String × AttributeValue) :=
  numberEntry (key ++ ".container.port") p.containerPort ++ textEntry (key ++ ".host.ip") p.hostIp ++
    numberEntry (key ++ ".host.port") p.hostPort ++ textEntry (key ++ ".protocol") p.protocol

/-- The entries of a volume under its key. -/
def Volume.entries (key : String) (v : Volume) : List (String × AttributeValue) :=
  textEntry (key ++ ".destination") v.destination ++ textEntry (key ++ ".source") v.source

/-- The entries of a container. -/
def Container.entries (c : Container) : List (String × AttributeValue) :=
  textEntry "aws.ecs.container.arn" c.containerArn ++ textEntry "aws.ecs.task.known.status" c.knownStatus ++
    textEntry "created.at" c.createdAt ++ textEntry "desired.status" c.desiredStatus ++
    textEntry "docker.id" c.dockerId ++ textEntry "docker.name" c.dockerName ++ textEntry "image" c.image ++
    textEntry "image.id" c.imageId ++ textEntry "name" c.name ++ textEntry "started.at" c.startedAt ++
    textEntry "type" c.kind ++ (c.labels.map Labels.entries).getD [] ++ (c.limits.map Limits.entries).getD [] ++
    indexed "networks" Network.entries c.networks ++ indexed "ports" Port.entries c.ports ++
    indexed "volumes" Volume.entries c.volumes

/-- The attributes of a container. -/
def Container.attributes (c : Container) : Attributes := SortedMap.ofList c.entries

end LogTagger.Ecs
