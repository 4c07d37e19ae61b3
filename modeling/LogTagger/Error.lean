/-!
# Causes of failure

Each stage has its own causes, and one function that words them. `Error` gathers the causes that
reach a user of the whole program; the conversions keep the cause when there is a matching one and
else carry its wording along.
-/

namespace LogTagger

/-- Why a configuration cannot be used. -/
inductive ConfigError where
  /-- There is no file at the path. -/
  | fileNotFound (path : String)
  /-- The text is no configuration. -/
  | parseFailed (reason : String)
  /-- A field holds a value that is not allowed. -/
  | invalidValue (field reason : String)
  deriving DecidableEq

/-- Why a component cannot be started, stopped or used. -/
inductive LifecycleError where
  /-- It cannot be started. -/
  | initFailed (reason : String)
  /-- It has been started already. -/
  | alreadyRunning
  /-- It is not running. -/
  | notRunning
  deriving DecidableEq

/-- Why metadata cannot be obtained, as told to a user. -/
inductive MetadataError where
  /-- The metadata endpoints cannot be found. -/
  | discovery (reason : String)
  /-- A container's document cannot be fetched. -/
  | fetch (container reason : String)
  deriving DecidableEq

/-- Why resources cannot be enriched, as told to a user. -/
inductive EnrichmentError where
  /-- An attribute pattern is no regular expression. -/
  | invalidPattern (pattern reason : String)
  /-- A document cannot be flattened. -/
  | flatten (reason : String)
  deriving DecidableEq

/-- What the system reports when a file cannot be read. -/
inductive FileFault where
  /-- The content is no text. -/
  | invalidData
  /-- The path names a directory. -/
  | isADirectory
  /-- The path leads through something that is no directory. -/
  | notADirectory
  /-- The path holds a NUL. -/
  | invalidPath
  /-- The path, or a name in it, is too long. -/
  | nameTooLong
  /-- Something else. -/
  | other (reason : String)
  deriving DecidableEq

/-- A cause of failure as told to a user of the program. -/
inductive Error where
  /-- The configuration. -/
  | config (cause : ConfigError)
  /-- The life cycle of a component. -/
  | lifecycle (cause : LifecycleError)
  /-- The metadata. -/
  | metadata (cause : MetadataError)
  /-- The enrichment. -/
  | enrichment (cause : EnrichmentError)
  /-- A file. -/
  | file (fault : FileFault)
  deriving DecidableEq

/-- Why a document cannot be fetched. -/
inductive FetchError where
  /-- The exchange failed. -/
  | request (reason : String)
  /-- The answer has a status other than success. -/
  | status (code : Nat)
  /-- The document is larger than allowed. -/
  | tooLarge (limit : Nat)
  /-- The answer is no JSON text. -/
  | decode (reason : String)
  /-- The answer is no JSON object. -/
  | notAnObject
  deriving DecidableEq

/-- Why the metadata source fails: the Docker daemon, a metadata endpoint, or their settings. -/
inductive SourceError where
  /-- The Docker daemon refuses a request. -/
  | dockerApi (reason : String)
  /-- The Docker daemon cannot be reached. -/
  | dockerConnection (reason : String)
  /-- The Docker daemon does not know the container. -/
  | containerNotFound (id : String)
  /-- A container's document cannot be fetched. -/
  | fetch (id url reason : String)
  /-- The stream of container events fails. -/
  | eventStream (reason : String)
  /-- A setting is not allowed. -/
  | config (field reason : String)
  deriving DecidableEq

/-- Why the enrichment cannot be set up or a document not be flattened. -/
inductive TaggingError where
  /-- An attribute pattern is no regular expression. -/
  | invalidPattern (pattern reason : String)
  /-- A document cannot be flattened. -/
  | flatten (reason : String)
  /-- A setting is not allowed. -/
  | config (field reason : String)
  /-- The metadata source fails. -/
  | source (cause : SourceError)
  deriving DecidableEq

/-! ### Wording -/

/-- The wording of a configuration failure. -/
def ConfigError.message : ConfigError → String
  | .fileNotFound path => "config file not found: " ++ path
  | .parseFailed reason => "failed to parse config: " ++ reason
  | .invalidValue field reason => "invalid config value for '" ++ field ++ "': " ++ reason

/-- The wording of a life-cycle failure. -/
def LifecycleError.message : LifecycleError → String
  | .initFailed reason => "pipeline init failed: " ++ reason
  | .alreadyRunning => "pipeline is already running"
  | .notRunning => "pipeline is not running"

/-- The wording of a metadata failure. -/
def MetadataError.message : MetadataError → String
  | .discovery reason => "endpoint discovery failed: " ++ reason
  | .fetch container reason => "metadata fetch failed for container '" ++ container ++ "': " ++ reason

/-- The wording of an enrichment failure. -/
def EnrichmentError.message : EnrichmentError → String
  | .invalidPattern pattern reason => "invalid attribute pattern '" ++ pattern ++ "': " ++ reason
  | .flatten reason => "flatten failed: " ++ reason

/-- The wording of a file fault. -/
def FileFault.message : FileFault → String
  | .invalidData => "stream did not contain valid UTF-8"
  | .isADirectory => "Is a directory (os error 21)"
  | .notADirectory => "Not a directory (os error 20)"
  | .invalidPath => "file name contained an unexpected NUL byte"
  | .nameTooLong => "File name too long (os error 36)"
  | .other reason => reason

/-- The wording of a failure as told to a user. -/
def Error.message : Error → String
  | .config cause => "config error: " ++ cause.message
  | .lifecycle cause => "pipeline error: " ++ cause.message
  | .metadata cause => "metadata error: " ++ cause.message
  | .enrichment cause => "enrichment error: " ++ cause.message
  | .file fault => "io error: " ++ fault.message

/-- The wording of a failed fetch. -/
def FetchError.message : FetchError → String
  | .request reason => "request failed: " ++ reason
  | .status code => "unexpected status " ++ toString code
  | .tooLarge limit => "document exceeds " ++ toString limit ++ " bytes"
  | .decode reason => "malformed JSON: " ++ reason
  | .notAnObject => "top-level value is not a JSON object"

/-- The wording of a failure of the metadata source. -/
def SourceError.message : SourceError → String
  | .dockerApi reason => "docker api error: " ++ reason
  | .dockerConnection reason => "docker connection error: " ++ reason
  | .containerNotFound id => "container not found: " ++ id
  | .fetch id url reason => "metadata fetch failed for container '" ++ id ++ "' from " ++ url ++ ": " ++ reason
  | .eventStream reason => "container event stream error: " ++ reason
  | .config field reason => "config error: " ++ field ++ ": " ++ reason

/-- The wording of a failure of the enrichment. -/
def TaggingError.message : TaggingError → String
  | .invalidPattern pattern reason => "invalid attribute pattern '" ++ pattern ++ "': " ++ reason
  | .flatten reason => "flatten error: " ++ reason
  | .config field reason => "config error: " ++ field ++ ": " ++ reason
  | .source cause => cause.message

/-! ### Names -/

/-- The name of a kind of file fault. -/
def FileFault.name : FileFault → String
  | .invalidData => "InvalidData"
  | .isADirectory => "IsADirectory"
  | .notADirectory => "NotADirectory"
  | .invalidPath => "InvalidInput"
  | .nameTooLong => "InvalidFilename"
  | .other _ => "Other"

/-- The name of a kind of failure as told to a user. -/
def Error.name : Error → String
  | .config (.fileNotFound _) => "Config.FileNotFound"
  | .config (.parseFailed _) => "Config.ParseFailed"
  | .config (.invalidValue _ _) => "Config.InvalidValue"
  | .lifecycle (.initFailed _) => "Pipeline.InitFailed"
  | .lifecycle .alreadyRunning => "Pipeline.AlreadyRunning"
  | .lifecycle .notRunning => "Pipeline.NotRunning"
  | .metadata (.discovery _) => "Metadata.Discovery"
  | .metadata (.fetch _ _) => "Metadata.Fetch"
  | .enrichment (.invalidPattern _ _) => "Enrichment.InvalidPattern"
  | .enrichment (.flatten _) => "Enrichment.Flatten"
  | .file _ => "Io"

/-- The name of a kind of failed fetch. -/
def FetchError.name : FetchError → String
  | .request _ => "Request"
  | .status _ => "Status"
  | .tooLarge _ => "TooLarge"
  | .decode _ => "Decode"
  | .notAnObject => "NotAnObject"

/-- The name of a kind of failure of the metadata source. -/
def SourceError.name : SourceError → String
  | .dockerApi _ => "DockerApi"
  | .dockerConnection _ => "DockerConnection"
  | .containerNotFound _ => "ContainerNotFound"
  | .fetch _ _ _ => "Fetch"
  | .eventStream _ => "EventStream"
  | .config _ _ => "Config"

/-- The name of a kind of failure of the enrichment. -/
def TaggingError.name : TaggingError → String
  | .invalidPattern _ _ => "InvalidPattern"
  | .flatten _ => "Flatten"
  | .config _ _ => "Config"
  | .source cause => "Metadata." ++ cause.name

/-! ### Conversion -/

/-- A failure of the metadata source as told to a user. -/
def SourceError.toError : SourceError → Error
  | .fetch id url reason => .metadata (.fetch id (url ++ ": " ++ reason))
  | .config field reason => .config (.invalidValue field reason)
  | cause => .metadata (.discovery cause.message)

/-- A failure of the enrichment as told to a user. -/
def TaggingError.toError : TaggingError → Error
  | .invalidPattern pattern reason => .enrichment (.invalidPattern pattern reason)
  | .flatten reason => .enrichment (.flatten reason)
  | .config field reason => .config (.invalidValue field reason)
  | .source cause => cause.toError

end LogTagger
