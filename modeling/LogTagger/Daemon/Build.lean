import LogTagger.Config.Loading
import LogTagger.Daemon.Basic
import LogTagger.Docker.Service

/-!
# Setting up the daemon

The daemon is set up from its configuration in a fixed order, and the first step that fails is the
cause: the configuration is loaded and checked, the Docker daemon is connected and asked for a sign
of life, metrics are served at a proper address if they are to be, the fetcher gets its client, and
the processor is built. What the Docker daemon, the recorder of metrics and the client make of it is
not the daemon's own: these are its `Facilities`.
-/

namespace LogTagger

/-- A way to connect to a Docker daemon by the path of its socket. -/
abbrev DockerConnector := String → Except String Docker.Service

/-- What the daemon is set up with. Each facility says why it is not to be had. -/
structure Facilities where
  /-- Connects to a Docker daemon. -/
  docker : DockerConnector
  /-- Installs the recorder of metrics, to serve them at an address. -/
  recorder : SocketAddress → Except String Unit
  /-- Makes a client for documents that waits some milliseconds for each. -/
  client : Nat → Except String Unit

namespace Docker

/-- The service of the Docker daemon at a socket; an empty path stands for the usual one. -/
def connect (connector : DockerConnector) (path : String) : Except SourceError Service :=
  (connector path).mapError (fun reason =>
    .dockerConnection
      ((if path.isEmpty then "failed to connect to docker" else "failed to connect to docker at " ++ path) ++ ": " ++ reason))

end Docker

/-- Fails unless the Docker daemon answers. -/
def ensureReachable (d : DockerDaemon) : Except DaemonError Unit := d.ping.mapError .dockerUnreachable

/-- Fails if metrics are to be served and the address for that is none, or they cannot be served there. -/
def MetricsSettings.install (s : MetricsSettings) (recorder : SocketAddress → Except String Unit) :
    Except DaemonError Unit :=
  if s.enabled then do
    let address ← s.listenAddress
    (recorder address).mapError .recorder
  else .ok ()

/-- Fails unless the settings are allowed and give a client. -/
def SourceSettings.prepare (s : SourceSettings) (client : Nat → Except String Unit) : Except SourceError Unit := do
  s.check
  (client s.fetchTimeoutMs).mapError (fun reason =>
    .config "fetch_timeout_secs" ("failed to build http client: " ++ reason))

namespace Daemon

variable {L : PatternLanguage}

/-- The daemon with some settings, and the service of its Docker daemon. -/
def ofConfig (L : PatternLanguage) (config : Config) (facilities : Facilities) (sink : Sink) :
    Except DaemonError (Daemon L × Docker.Service) := do
  config.checkAll L
  let service ← (Docker.connect facilities.docker config.tagging.metadata.dockerSocket).mapError .dockerClient
  ensureReachable (Docker.daemon service)
  config.metrics.install facilities.recorder
  (config.tagging.metadata.prepare facilities.client).mapError .fetcher
  let processor ← (Processor.build L config.tagging true true true).mapError .processor
  return (ofParts config processor sink, service)

/-- The daemon with the settings of a configuration file and an environment. -/
def build (L : PatternLanguage) (path : String) (content : FileContent) (env : Environment)
    (facilities : Facilities) (sink : Sink) : Except DaemonError (Daemon L × Docker.Service) := do
  let config ← (Config.load path content env).mapError .load
  ofConfig L config facilities sink

/-- The events of a Docker daemon, queued for the scheduler. A stream that has ended takes no more. -/
def withEvents (d : Daemon L) (items : List EventItem) : Daemon L :=
  d.withScheduler (items.foldl Scheduler.offer d.processor.scheduler).endEvents

end Daemon

end LogTagger
