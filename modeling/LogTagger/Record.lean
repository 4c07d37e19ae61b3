import LogTagger.Attribute
import LogTagger.Json.Reader
import LogTagger.Text.Blank

/-!
# Log records and their lines

A line of the log stream holds the records of one resource. `InputLine.ofText` reads a line;
`ResourceLogs.line` writes one. Every field of the three structures has a default, members with
other names are passed over, and a member given twice makes the line malformed.
-/

namespace LogTagger

/-- The source of log records, described by attributes. -/
structure Resource where
  /-- What is known of the source. -/
  attributes : Attributes := ∅
  deriving DecidableEq

/-- One log record. -/
structure LogRecord where
  /-- The time of the event in nanoseconds since the epoch. -/
  timeUnixNano : UInt64 := 0
  /-- The severity as the source words it. -/
  severityText : String := ""
  /-- The content. -/
  body : Json := .null
  /-- What is known of the event. -/
  attributes : Attributes := ∅

/-- A resource with its records. -/
structure ResourceLogs where
  /-- The source. -/
  resource : Resource := {}
  /-- The records, in order. -/
  records : List LogRecord := []

namespace Json.Draft

/-- The attribute value of a draft. -/
def attributeValue? (depth : Nat) (d : Draft) : Option AttributeValue :=
  (d.value? depth).bind AttributeValue.ofJson?

/-- The attributes of a draft: an object of scalars, where the later of two equal names counts. -/
def attributes? (depth : Nat) : Draft → Option Attributes
  | .object members =>
    if depth = 0 then none
    else
      (namedMembers? members).bind (fun ms =>
        (ms.mapM (fun m => (attributeValue? (depth - 1) m.2).map (fun v => (m.1, v)))).map SortedMap.ofList)
  | _ => none

/-- The unsigned 64-bit integer of a draft. -/
def uint64? (depth : Nat) (d : Draft) : Option UInt64 :=
  match d.value? depth with
  | some (.number (.whole n)) => if 0 ≤ n.value then some (UInt64.ofNat n.value.toNat) else none
  | _ => none

/-- The string of a draft. -/
def string? (depth : Nat) (d : Draft) : Option String :=
  match d.value? depth with
  | some (.string s) => some s
  | _ => none

/-- The resource of a draft. -/
def resource? (depth : Nat) (d : Draft) : Option Resource :=
  if depth = 0 then none
  else do
    let slots ← d.slots? ["attributes"]
    let attributes ← fieldOr slots "attributes" (attributes? (depth - 1)) ∅
    return { attributes }

/-- The log record of a draft. -/
def logRecord? (depth : Nat) (d : Draft) : Option LogRecord :=
  if depth = 0 then none
  else do
    let slots ← d.slots? ["time_unix_nano", "severity_text", "body", "attributes"]
    let timeUnixNano ← fieldOr slots "time_unix_nano" (uint64? (depth - 1)) 0
    let severityText ← fieldOr slots "severity_text" (string? (depth - 1)) ""
    let body ← fieldOr slots "body" (value? (depth - 1)) .null
    let attributes ← fieldOr slots "attributes" (attributes? (depth - 1)) ∅
    return { timeUnixNano, severityText, body, attributes }

/-- The log records of a draft. -/
def logRecords? (depth : Nat) : Draft → Option (List LogRecord)
  | .array items => if depth = 0 then none else items.mapM (logRecord? (depth - 1))
  | _ => none

/-- The resource and records of a draft. -/
def resourceLogs? (depth : Nat) (d : Draft) : Option ResourceLogs :=
  if depth = 0 then none
  else do
    let slots ← d.slots? ["resource", "records"]
    let resource ← fieldOr slots "resource" (resource? (depth - 1)) {}
    let records ← fieldOr slots "records" (logRecords? (depth - 1)) []
    return { resource, records }

end Json.Draft

/-! ### Reading -/

/-- The resource that a text describes. -/
def Resource.ofText? (s : String) : Option Resource :=
  (Json.Reader.draft? s.toList).bind (Json.Draft.resource? Json.nestingLimit)

/-- The attributes that a text describes. -/
def Attributes.ofText? (s : String) : Option Attributes :=
  (Json.Reader.draft? s.toList).bind (Json.Draft.attributes? Json.nestingLimit)

/-- The resource and records that a text describes. -/
def ResourceLogs.ofText? (s : String) : Option ResourceLogs :=
  (Json.Reader.draft? s.toList).bind (Json.Draft.resourceLogs? Json.nestingLimit)

/-- What a line of the stream holds. -/
inductive InputLine where
  /-- Nothing but blanks. -/
  | blank
  /-- Records of a resource. -/
  | logs (batch : ResourceLogs)
  /-- Anything else. -/
  | malformed

/-- Reads a line, without regard to blanks at its ends. -/
def InputLine.ofText (s : String) : InputLine :=
  let t := Text.trim s
  if t.isEmpty then .blank
  else
    match ResourceLogs.ofText? t with
    | some batch => .logs batch
    | none => .malformed

/-! ### Writing -/

/-- The JSON object of a resource. -/
def Resource.toJson (r : Resource) : Json := .object [("attributes", r.attributes.toJson)]

/-- The JSON object of a record. -/
def LogRecord.toJson (r : LogRecord) : Json :=
  .object [("time_unix_nano", Json.ofUInt64 r.timeUnixNano), ("severity_text", .string r.severityText),
    ("body", r.body), ("attributes", r.attributes.toJson)]

/-- The JSON object of a resource with its records. -/
def ResourceLogs.toJson (b : ResourceLogs) : Json :=
  .object [("resource", b.resource.toJson), ("records", .array (b.records.map LogRecord.toJson))]

/-- The line of a resource with its records, without a newline. -/
def ResourceLogs.line (b : ResourceLogs) : String := b.toJson.render

end LogTagger
