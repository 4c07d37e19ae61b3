import LogTagger.Error
import LogTagger.Text.Utf8

/-!
# Causes of failure of the daemon

Why the daemon cannot be set up, cannot start, or ends.
-/

namespace LogTagger

/-- Why the log stream cannot go on. -/
inductive StreamError where
  /-- A line is no text in UTF-8. -/
  | notText (fault : Text.Utf8Fault)
  /-- A line cannot be processed; lines are counted from one, blank ones left out. -/
  | line (number : Nat) (cause : LifecycleError)
  /-- The output takes no more. -/
  | brokenPipe
  deriving DecidableEq

/-- A cause of failure of the daemon. -/
inductive DaemonError where
  /-- The configuration cannot be loaded. -/
  | load (cause : Error)
  /-- The configuration file of the command line cannot be loaded. -/
  | loadFrom (path : String) (cause : Error)
  /-- A setting is not allowed. -/
  | settings (cause : Error)
  /-- A setting of the enrichment is not allowed. -/
  | taggingSettings (cause : TaggingError)
  /-- There is no way to talk to the Docker daemon. -/
  | dockerClient (cause : SourceError)
  /-- The Docker daemon does not answer. -/
  | dockerUnreachable (cause : SourceError)
  /-- The metrics listener has no proper address. -/
  | listenAddress
  /-- The recorder of metrics cannot be installed. -/
  | recorder (reason : String)
  /-- The log has no such format. -/
  | logFormat (format : String)
  /-- The fetcher of documents cannot be set up. -/
  | fetcher (cause : SourceError)
  /-- The processor cannot be set up. -/
  | processor (cause : TaggingError)
  /-- The processor cannot be started. -/
  | start (cause : LifecycleError)
  /-- The stream fails. -/
  | stream (cause : StreamError)
  deriving DecidableEq

/-- The wording of a failure of the stream. -/
def StreamError.message : StreamError → String
  | .notText fault => fault.message
  | .line number cause => "failed to process line " ++ toString number ++ ": " ++ (Error.lifecycle cause).message
  | .brokenPipe => "broken pipe"

/-- The wording of a failure of the daemon. -/
def DaemonError.message : DaemonError → String
  | .load cause => "failed to load config: " ++ cause.message
  | .loadFrom path cause => "failed to load config " ++ path ++ ": " ++ cause.message
  | .settings cause => "config validation failed: " ++ cause.message
  | .taggingSettings cause => "config validation failed: " ++ cause.message
  | .dockerClient cause => "failed to create docker client: " ++ cause.message
  | .dockerUnreachable cause => "docker daemon unreachable: " ++ cause.message
  | .listenAddress => "invalid metrics listen address: invalid socket address syntax"
  | .recorder reason => "failed to install metrics recorder: " ++ reason
  | .logFormat format => "unknown log format '" ++ format ++ "', expected 'json' or 'pretty'"
  | .fetcher cause => "failed to create metadata fetcher: " ++ cause.message
  | .processor cause => "failed to build enrichment processor: " ++ cause.message
  | .start cause => "failed to start enrichment processor: " ++ (Error.lifecycle cause).message
  | .stream cause => cause.message

end LogTagger
