import LogTagger.Config.File
import LogTagger.Config.Validation
import LogTagger.Text.Digits

/-!
# Loading a configuration

A configuration is read from a file, and variables of the environment take the place of single
settings. A variable that cannot be read as its setting is passed over. The settings in the file must
be allowed by themselves, before anything takes their place.
-/

namespace LogTagger

/-- The variables of an environment. -/
abbrev Environment := String → Option String

/-- What is found at the path of a file. -/
inductive FileContent where
  /-- Nothing. -/
  | missing
  /-- Something that cannot be read. -/
  | unreadable (fault : FileFault)
  /-- The octets of a file. -/
  | octets (content : ByteArray)

/-- Whether something is at the path. A path that cannot be followed to its end leads to nothing. -/
def FileContent.isPresent : FileContent → Bool
  | .missing => false
  | .unreadable .notADirectory | .unreadable .invalidPath | .unreadable .nameTooLong => false
  | .unreadable _ => true
  | .octets _ => true

namespace Environment

/-- What `read` makes of a variable, or the given value if the variable is not set or cannot be
read. -/
def override {α : Type} (env : Environment) (name : String) (read : String → Option α) (value : α) : α :=
  ((env name).bind read).getD value

/-- The unsigned integer below `2 ^ width` that a text writes. -/
def natural? (width : Nat) (s : String) : Option Nat := Text.boundedNumeral? ((1 <<< width) - 1) s.toList

/-- The unsigned 64-bit integer that a text writes. -/
def uint64? (s : String) : Option UInt64 := (natural? 64 s).map UInt64.ofNat

/-- The unsigned 16-bit integer that a text writes. -/
def uint16? (s : String) : Option UInt16 := (natural? 16 s).map UInt16.ofNat

/-- The truth value that a text writes. -/
def bool? (s : String) : Option Bool :=
  if s = "true" then some true else if s = "false" then some false else none

/-- The pieces of characters between commas. -/
def pieces : List Char → List (List Char)
  | [] => [[]]
  | c :: rest =>
    match pieces rest with
    | [] => [[c]]
    | piece :: others => if c = ',' then [] :: piece :: others else (c :: piece) :: others

/-- The names in a text that are parted by commas, without blanks at their ends; empty ones are left
out. -/
def names (s : String) : List String :=
  ((pieces s.toList).map (fun cs => Text.trim (String.ofList cs))).filter (fun n => !n.isEmpty)

end Environment

/-- The variables that can take the place of settings. -/
def Environment.variables : List String :=
  ["DOCKMETA_GENERAL_LOG_LEVEL", "DOCKMETA_GENERAL_LOG_FORMAT", "DOCKMETA_METADATA_DOCKER_SOCKET",
    "DOCKMETA_METADATA_REFRESH_INTERVAL_SECS", "DOCKMETA_METADATA_FETCH_TIMEOUT_SECS",
    "DOCKMETA_METADATA_MAX_DOCUMENT_BYTES", "DOCKMETA_METADATA_WATCH_EVENTS",
    "DOCKMETA_ENRICHMENT_CONTAINER_ID_SOURCES", "DOCKMETA_METRICS_ENABLED", "DOCKMETA_METRICS_LISTEN_ADDR",
    "DOCKMETA_METRICS_PORT"]

namespace Config

/-- The configuration with the settings of an environment in place of its own. -/
def overriddenBy (c : Config) (env : Environment) : Config where
  general :=
    { logLevel := env.override "DOCKMETA_GENERAL_LOG_LEVEL" some c.general.logLevel
      logFormat := env.override "DOCKMETA_GENERAL_LOG_FORMAT" some c.general.logFormat }
  metadata :=
    { dockerSocket := env.override "DOCKMETA_METADATA_DOCKER_SOCKET" some c.metadata.dockerSocket
      refreshIntervalSecs :=
        env.override "DOCKMETA_METADATA_REFRESH_INTERVAL_SECS" Environment.uint64? c.metadata.refreshIntervalSecs
      fetchTimeoutSecs :=
        env.override "DOCKMETA_METADATA_FETCH_TIMEOUT_SECS" Environment.uint64? c.metadata.fetchTimeoutSecs
      maxDocumentBytes :=
        env.override "DOCKMETA_METADATA_MAX_DOCUMENT_BYTES" Environment.uint64? c.metadata.maxDocumentBytes
      watchEvents := env.override "DOCKMETA_METADATA_WATCH_EVENTS" Environment.bool? c.metadata.watchEvents }
  enrichment :=
    { c.enrichment with
      containerIdSources :=
        env.override "DOCKMETA_ENRICHMENT_CONTAINER_ID_SOURCES" (fun s => some (Environment.names s))
          c.enrichment.containerIdSources }
  metrics :=
    { enabled := env.override "DOCKMETA_METRICS_ENABLED" Environment.bool? c.metrics.enabled
      listenAddr := env.override "DOCKMETA_METRICS_LISTEN_ADDR" some c.metrics.listenAddr
      port := env.override "DOCKMETA_METRICS_PORT" Environment.uint16? c.metrics.port }

/-- The text of a file. -/
def textOf (path : String) : FileContent → Except Error String
  | .missing => .error (.config (.fileNotFound path))
  | .unreadable fault => .error (.file fault)
  | .octets content =>
    match String.fromUTF8? content with
    | some s => .ok s
    | none => .error (.file .invalidData)

/-- The configuration in a file, if its settings are allowed. -/
def ofFile (path : String) (content : FileContent) : Except Error Config := do
  let c ← ofText (← textOf path content)
  c.check
  return c

/-- The configuration of a file and an environment, if its settings are allowed. -/
def load (path : String) (content : FileContent) (env : Environment) : Except Error Config := do
  let c := (← ofFile path content).overriddenBy env
  c.check
  return c

end Config

end LogTagger
