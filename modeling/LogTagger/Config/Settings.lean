import LogTagger.Flatten.Flattener
import LogTagger.Json.Printer

/-!
# Settings

The settings of the program in four sections, with their defaults. `TaggingSettings` gathers those
that the enrichment needs.
-/

namespace LogTagger

/-- The settings of the program's own log. -/
structure GeneralSettings where
  /-- The least severity that is logged. -/
  logLevel : String := "info"
  /-- The format of the log. -/
  logFormat : String := "json"
  deriving DecidableEq

/-- The settings of the metadata source. -/
structure SourceSettings where
  /-- The socket of the Docker daemon; an empty one stands for the usual one. -/
  dockerSocket : String := ""
  /-- The seconds between two synchronisations. -/
  refreshIntervalSecs : UInt64 := 60
  /-- The seconds that a fetch may take. -/
  fetchTimeoutSecs : UInt64 := 5
  /-- The greatest size of a document in octets. -/
  maxDocumentBytes : UInt64 := 1048576
  /-- Whether container events start a synchronisation. -/
  watchEvents : Bool := true
  deriving DecidableEq

/-- The patterns of the attributes that are written unless others are set. -/
def defaultPatterns : List String := ["^aws.ecs.*|^image.*|^docker.*|^labels.*"]

/-- The attributes in which a container id is sought unless others are set. -/
def defaultSources : List String := ["container.id", "log.file.name"]

/-- The settings of the enrichment. -/
structure EnrichmentSettings where
  /-- The attributes in which a container id is sought, in order. -/
  containerIdSources : List String := defaultSources
  /-- The patterns of the attributes that are written. -/
  attributes : List String := defaultPatterns
  /-- How documents are flattened. -/
  flatten : Flattener := {}
  deriving DecidableEq

/-- The settings of the metrics listener. -/
structure MetricsSettings where
  /-- Whether metrics are served. -/
  enabled : Bool := false
  /-- The address at which they are served. -/
  listenAddr : String := "127.0.0.1"
  /-- The port at which they are served. -/
  port : UInt16 := 9464
  deriving DecidableEq

/-- The settings of the program. -/
structure Config where
  /-- The settings of the program's own log. -/
  general : GeneralSettings := {}
  /-- The settings of the metadata source. -/
  metadata : SourceSettings := {}
  /-- The settings of the enrichment. -/
  enrichment : EnrichmentSettings := {}
  /-- The settings of the metrics listener. -/
  metrics : MetricsSettings := {}
  deriving DecidableEq

/-- The settings of the enrichment with those of its metadata source. -/
structure TaggingSettings where
  /-- The attributes in which a container id is sought, in order. -/
  containerIdSources : List String := defaultSources
  /-- The patterns of the attributes that are written. -/
  attributes : List String := defaultPatterns
  /-- How documents are flattened. -/
  flatten : Flattener := {}
  /-- The settings of the metadata source. -/
  metadata : SourceSettings := {}
  deriving DecidableEq

/-- The settings that the enrichment needs. -/
def Config.tagging (c : Config) : TaggingSettings :=
  { containerIdSources := c.enrichment.containerIdSources, attributes := c.enrichment.attributes,
    flatten := c.enrichment.flatten, metadata := c.metadata }

namespace SourceSettings

/-- The milliseconds between two synchronisations. -/
def refreshIntervalMs (s : SourceSettings) : Nat := s.refreshIntervalSecs.toNat * 1000

/-- The milliseconds that a fetch may take. -/
def fetchTimeoutMs (s : SourceSettings) : Nat := s.fetchTimeoutSecs.toNat * 1000

end SourceSettings

/-! ### Names of choices -/

/-- The name of a mode. -/
def FlattenMode.name : FlattenMode → String
  | .generic => "generic"
  | .ecs => "ecs"

/-- The name of a naming. -/
def KeyNaming.name : KeyNaming → String
  | .dotted => "dotted"
  | .literal => "literal"

/-! ### Writing -/

/-- The JSON object of the general settings. -/
def GeneralSettings.toJson (s : GeneralSettings) : Json :=
  .object [("log_level", .string s.logLevel), ("log_format", .string s.logFormat)]

/-- The JSON object of the settings of the metadata source. -/
def SourceSettings.toJson (s : SourceSettings) : Json :=
  .object [("docker_socket", .string s.dockerSocket), ("refresh_interval_secs", Json.ofUInt64 s.refreshIntervalSecs),
    ("fetch_timeout_secs", Json.ofUInt64 s.fetchTimeoutSecs), ("max_document_bytes", Json.ofUInt64 s.maxDocumentBytes),
    ("watch_events", .bool s.watchEvents)]

/-- The JSON object of the choice of flattening. -/
def Flattener.toJson (f : Flattener) : Json :=
  .object [("mode", .string f.mode.name), ("key_naming", .string f.naming.name)]

/-- The JSON object of the settings of the enrichment. -/
def EnrichmentSettings.toJson (s : EnrichmentSettings) : Json :=
  .object [("container_id_sources", .array (s.containerIdSources.map .string)),
    ("attributes", .array (s.attributes.map .string)), ("flatten", s.flatten.toJson)]

/-- The JSON object of the settings of the metrics listener. -/
def MetricsSettings.toJson (s : MetricsSettings) : Json :=
  .object [("enabled", .bool s.enabled), ("listen_addr", .string s.listenAddr),
    ("port", Json.ofUInt64 (UInt64.ofNat s.port.toNat))]

/-- The JSON object of all settings. -/
def Config.toJson (c : Config) : Json :=
  .object [("general", c.general.toJson), ("metadata", c.metadata.toJson), ("enrichment", c.enrichment.toJson),
    ("metrics", c.metrics.toJson)]

end LogTagger
