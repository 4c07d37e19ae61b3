import LogTagger.Docker.Container
import LogTagger.Docker.Shapes
import LogTagger.Http
import LogTagger.Json.Decoding
import LogTagger.Text.Lines

/-!
# The Docker daemon as a service

The answers of a Docker daemon that is asked over HTTP. A request counts as refused unless its status
tells of success. An answer must have its shape, also in the fields that are not read; fields that are
missing or null have a default. Ids are checked before the daemon is asked about them.

Events come as a stream of JSON values, usually one a line. `EventStream` decodes them as they arrive:
a line that holds only the beginning of a value is joined to the next one, once more octets have
arrived, and at its end the stream must not break off within a value.
-/

namespace LogTagger

namespace Json

/-- The text of a field, empty without one. -/
def textOr (name default : String) (v : Json) : String :=
  match v.field? name with
  | some (.string s) => s
  | _ => default

/-- The texts in the array of a field. -/
def texts (name : String) (v : Json) : List String :=
  match v.field? name with
  | some (.array items) => items.filterMap (fun item => match item with
    | .string s => some s
    | _ => none)
  | _ => []

end Json

namespace Docker

/-- A request to the daemon. -/
inductive Request where
  /-- A sign of life. -/
  | ping
  /-- The list of running containers. -/
  | list
  /-- The details of a container. -/
  | inspect (id : String)
  /-- The events of containers. -/
  | events
  deriving DecidableEq

/-- A daemon that is asked over HTTP. -/
abbrev Service := Request → Http.Exchange

/-- Why a request has no usable answer. -/
inductive Refusal where
  /-- The daemon answers with another status than success. -/
  | status (code : Nat)
  /-- The exchange fails, or the answer is not of the expected form. -/
  | failed (reason : String)

namespace Refusal

/-- The reason in words. -/
def reason : Refusal → String
  | .status code => "the daemon answers with status " ++ toString code
  | .failed reason => reason

end Refusal

/-- Whether a status tells of success. -/
def isAccepted (status : Nat) : Bool := (200 ≤ status && status < 300) || status == 304 || status == 101

/-- Why a daemon answers with another status, which its message tells. There need not be a message, nor
one of the usual form, but it must not break off. -/
def refusal (status : Nat) (octets : ByteArray) : Refusal :=
  match octets.toList with
  | [] => .status status
  | message =>
    match Json.decode Shapes.message (Text.mend message) with
    | .error .incomplete => .failed "the message of the daemon breaks off"
    | _ => .status status

/-- The body of a successful answer. -/
def body : Http.Exchange → Except Refusal ByteArray
  | .error reason => .error (.failed reason)
  | .ok d =>
    match d.body? with
    | none => .error (.failed "the body breaks off")
    | some octets => if isAccepted d.status then .ok octets else .error (refusal d.status octets)

/-- The value of a shape in a successful answer. -/
def answer (shape : Json.Shape) (exchange : Http.Exchange) : Except Refusal Json :=
  (body exchange).bind (fun octets =>
    (Json.decode shape octets.toList).mapError (fun _ => .failed "the answer has another form"))

/-- A name without slashes in front. -/
def plainName (name : String) : String := String.ofList (name.toList.dropWhile (· == '/'))

/-- The container in an item of the list; of several names the first counts. -/
def listed (v : Json) : ListedContainer :=
  { id := v.textOr "Id" "", name := plainName ((v.texts "Names").headD ""), image := v.textOr "Image" "" }

/-- The details of a container that was asked about by its id. -/
def details (id : String) (v : Json) : ContainerDetails :=
  { id := v.textOr "Id" id, name := plainName (v.textOr "Name" ""), env := ((v.field? "Config").getD .null).texts "Env" }

/-- The container event in an event of the daemon. -/
def event (v : Json) : ContainerEvent :=
  { id := ⟨((v.field? "Actor").getD .null).textOr "ID" ""⟩, kind := .ofAction (v.textOr "Action" "") }

/-! ### Requests -/

/-- The greatest number of octets of an id. -/
def idLimit : Nat := 64

/-- Whether a character is a hexadecimal digit. -/
def isHexDigit (c : Char) : Bool := (Text.hexValue? c).isSome

/-- Fails unless a text has the form of an id. -/
def checkId (id : String) : Except SourceError Unit :=
  if id.isEmpty ∨ idLimit < id.utf8ByteSize then
    .error (.dockerApi ("invalid container ID: length " ++ toString id.utf8ByteSize ++ " (must be 1-64)"))
  else if id.toList.all isHexDigit then .ok ()
  else .error (.dockerApi "invalid container ID: contains non-hex characters")

/-- Whether the daemon answers. -/
def ping (service : Service) : Except SourceError Unit :=
  match body (service .ping) with
  | .ok _ => .ok ()
  | .error r => .error (.dockerConnection ("ping failed: " ++ r.reason))

/-- The list of running containers. -/
def list (service : Service) : Except SourceError (List ListedContainer) :=
  match answer Shapes.list (service .list) with
  | .ok (.array items) => .ok (items.map listed)
  | .ok _ => .ok []
  | .error r => .error (.dockerApi ("list containers failed: " ++ r.reason))

/-- The details of a container. -/
def inspect (service : Service) (id : String) : Except SourceError ContainerDetails := do
  checkId id
  match answer Shapes.details (service (.inspect id)) with
  | .ok v => .ok (details id v)
  | .error (.status 404) => .error (.containerNotFound id)
  | .error r => .error (.dockerApi ("inspect container failed: " ++ r.reason))

/-! ### Events -/

/-- What is to be done with the octets of a stream that have arrived. -/
inductive EventStream where
  /-- They begin with an event. -/
  | event (e : ContainerEvent) (rest : List UInt8)
  /-- More of them are needed. -/
  | more (octets : List UInt8)
  /-- They hold something else. -/
  | broken

namespace EventStream

/-- Takes the first line, or all octets if no line has ended. A line that holds only the beginning of
an event loses its newline. -/
def take (octets : List UInt8) : EventStream :=
  let (candidate, rest) := (Text.firstLine? octets).getD (octets, [])
  match Json.decode Shapes.event candidate with
  | .ok v => .event (Docker.event v) rest
  | .error .incomplete => .more (candidate ++ rest)
  | .error .refused => .broken

/-- Why a stream is broken. -/
def fault : SourceError := .eventStream "the stream holds something that is no event"

/-- The events in octets and those that are left, if the octets are not broken; each round of fuel takes
an event. -/
def drain : Nat → List UInt8 → List ContainerEvent × Option (List UInt8)
  | 0, octets => ([], some octets)
  | fuel + 1, octets =>
    match take octets with
    | .event e rest =>
      let (events, left) := drain fuel rest
      (e :: events, left)
    | .more left => ([], some left)
    | .broken => ([], none)

/-- The items of a stream whose end has come; `complete` says that it has not broken off. -/
def finish (complete : Bool) (octets : List UInt8) : List (Except SourceError ContainerEvent) :=
  if complete then
    match drain (octets.length + 1) octets with
    | (events, some []) => events.map .ok
    | (events, _) => events.map .ok ++ [.error fault]
  else [.error (.eventStream "the body breaks off")]

/-- The items of a stream whose parts arrive one after the other, after octets that are left of the
parts before. -/
def items (complete : Bool) (left : List UInt8) : List ByteArray → List (Except SourceError ContainerEvent)
  | [] => finish complete left
  | chunk :: rest =>
    let octets := left ++ chunk.toList
    match drain (octets.length + 1) octets with
    | (events, some left) => events.map .ok ++ items complete left rest
    | (events, none) => events.map .ok ++ [.error fault]

end EventStream

/-- The events of containers: a stream that a failure ends. -/
def events (service : Service) : List (Except SourceError ContainerEvent) :=
  match service .events with
  | .error reason => [.error (.eventStream reason)]
  | .ok d =>
    if isAccepted d.status then EventStream.items d.complete [] (d.chunks.filter (fun chunk => !chunk.isEmpty))
    else [.error (.eventStream (Refusal.status d.status).reason)]

/-- The daemon that a service stands for. -/
def daemon (service : Service) : DockerDaemon where
  ping := ping service
  listing := list service
  inspect := inspect service

end Docker

end LogTagger
