import LogTagger.Config.Settings
import LogTagger.Error
import LogTagger.Toml.Reader

/-!
# The configuration file

The settings in the text of a configuration file. A section may be missing, and so may any setting
in it; each then has its default. Names that are no settings are passed over. A section may also be
an array that gives its settings by position.
-/

namespace LogTagger

namespace Toml

/-- The settings of a section by name. A table gives them by name, an array by position; the array
may end early, and items beyond the last setting are passed over. A date stands for a section without
known settings. -/
def slots? (names : List String) : Toml → Option (List (String × Toml))
  | .table fields => some fields
  | .array items => some (names.zip items)
  | .dateTime _ => some []
  | _ => none

/-- The value of a setting: the default if it is missing, else what `read` makes of it. -/
def fieldOr {α : Type} (slots : List (String × Toml)) (name : String) (read : Toml → Option α) (default : α) :
    Option α :=
  match SortedMap.lookup name slots with
  | none => some default
  | some v => read v

/-- The text of a string. -/
def text? : Toml → Option String
  | .string s => some s
  | _ => none

/-- The truth value. -/
def bool? : Toml → Option Bool
  | .boolean b => some b
  | _ => none

/-- The integer, if it is not negative and at most the given one. -/
def natural? (greatest : Nat) : Toml → Option Nat
  | .integer n => if 0 ≤ n ∧ n ≤ greatest then some n.toNat else none
  | _ => none

/-- The unsigned 64-bit integer. -/
def uint64? (v : Toml) : Option UInt64 := (v.natural? (UInt64.size - 1)).map UInt64.ofNat

/-- The unsigned 16-bit integer. -/
def uint16? (v : Toml) : Option UInt16 := (v.natural? (UInt16.size - 1)).map UInt16.ofNat

/-- The texts of an array of strings. -/
def texts? : Toml → Option (List String)
  | .array items => items.mapM text?
  | _ => none

/-- Whether a table or an array is empty. -/
def isVacant : Toml → Bool
  | .table [] => true
  | .array [] => true
  | _ => false

/-- One of several named choices, given by its name or as the name of a single empty table. -/
def choice? {α : Type} (choices : List (String × α)) : Toml → Option α
  | .string s => SortedMap.lookup s choices
  | .table [(name, v)] => if v.isVacant then SortedMap.lookup name choices else none
  | _ => none

end Toml

namespace GeneralSettings

/-- The general settings of a section. -/
def ofToml? (v : Toml) : Option GeneralSettings := do
  let slots ← v.slots? ["log_level", "log_format"]
  let logLevel ← Toml.fieldOr slots "log_level" Toml.text? "info"
  let logFormat ← Toml.fieldOr slots "log_format" Toml.text? "json"
  return { logLevel, logFormat }

end GeneralSettings

namespace SourceSettings

/-- The settings of the metadata source of a section. -/
def ofToml? (v : Toml) : Option SourceSettings := do
  let defaults : SourceSettings := {}
  let slots ← v.slots?
    ["docker_socket", "refresh_interval_secs", "fetch_timeout_secs", "max_document_bytes", "watch_events"]
  let dockerSocket ← Toml.fieldOr slots "docker_socket" Toml.text? defaults.dockerSocket
  let refreshIntervalSecs ← Toml.fieldOr slots "refresh_interval_secs" Toml.uint64? defaults.refreshIntervalSecs
  let fetchTimeoutSecs ← Toml.fieldOr slots "fetch_timeout_secs" Toml.uint64? defaults.fetchTimeoutSecs
  let maxDocumentBytes ← Toml.fieldOr slots "max_document_bytes" Toml.uint64? defaults.maxDocumentBytes
  let watchEvents ← Toml.fieldOr slots "watch_events" Toml.bool? defaults.watchEvents
  return { dockerSocket, refreshIntervalSecs, fetchTimeoutSecs, maxDocumentBytes, watchEvents }

end SourceSettings

namespace Flattener

/-- The choice of flattening of a section. -/
def ofToml? (v : Toml) : Option Flattener := do
  let slots ← v.slots? ["mode", "key_naming"]
  let mode ← Toml.fieldOr slots "mode" (Toml.choice? [("generic", FlattenMode.generic), ("ecs", .ecs)]) .generic
  let naming ← Toml.fieldOr slots "key_naming" (Toml.choice? [("dotted", KeyNaming.dotted), ("literal", .literal)]) .dotted
  return { mode, naming }

end Flattener

namespace EnrichmentSettings

/-- The settings of the enrichment of a section. -/
def ofToml? (v : Toml) : Option EnrichmentSettings := do
  let slots ← v.slots? ["container_id_sources", "attributes", "flatten"]
  let containerIdSources ← Toml.fieldOr slots "container_id_sources" Toml.texts? defaultSources
  let attributes ← Toml.fieldOr slots "attributes" Toml.texts? defaultPatterns
  let flatten ← Toml.fieldOr slots "flatten" Flattener.ofToml? {}
  return { containerIdSources, attributes, flatten }

end EnrichmentSettings

namespace MetricsSettings

/-- The settings of the metrics listener of a section. -/
def ofToml? (v : Toml) : Option MetricsSettings := do
  let defaults : MetricsSettings := {}
  let slots ← v.slots? ["enabled", "listen_addr", "port"]
  let enabled ← Toml.fieldOr slots "enabled" Toml.bool? defaults.enabled
  let listenAddr ← Toml.fieldOr slots "listen_addr" Toml.text? defaults.listenAddr
  let port ← Toml.fieldOr slots "port" Toml.uint16? defaults.port
  return { enabled, listenAddr, port }

end MetricsSettings

namespace Config

/-- The settings of a whole configuration. -/
def ofToml? (v : Toml) : Option Config := do
  let slots ← v.slots? ["general", "metadata", "enrichment", "metrics"]
  let general ← Toml.fieldOr slots "general" GeneralSettings.ofToml? {}
  let metadata ← Toml.fieldOr slots "metadata" SourceSettings.ofToml? {}
  let enrichment ← Toml.fieldOr slots "enrichment" EnrichmentSettings.ofToml? {}
  let metrics ← Toml.fieldOr slots "metrics" MetricsSettings.ofToml? {}
  return { general, metadata, enrichment, metrics }

/-- The settings in a text. -/
def ofText (s : String) : Except Error Config :=
  match (Toml.read? s).bind ofToml? with
  | some c => .ok c
  | none => .error (.config (.parseFailed "not a TOML text with these settings"))

end Config

end LogTagger
