import LogTagger.Config.Validation
import LogTagger.Daemon.Error
import LogTagger.SocketAddress

/-!
# The daemon's view of its settings

What the daemon checks before it runs: the configuration as a whole, the address at which metrics
are served, and the format of its log.
-/

namespace LogTagger

/-- Fails with the first setting that is not allowed, attribute patterns included. -/
def Config.checkAll (L : PatternLanguage) (c : Config) : Except DaemonError Unit := do
  c.check.mapError .settings
  (c.tagging.check L).mapError .taggingSettings

/-- The address at which metrics are served. -/
def MetricsSettings.listenAddress (s : MetricsSettings) : Except DaemonError SocketAddress :=
  match SocketAddress.ofText? (s.listenAddr ++ ":" ++ toString s.port.toNat) with
  | some a => .ok a
  | none => .error .listenAddress

/-- Fails unless the log has the format of the settings. -/
def GeneralSettings.checkLogFormat (s : GeneralSettings) : Except DaemonError Unit :=
  if s.logFormat = "json" ∨ s.logFormat = "pretty" then .ok () else .error (.logFormat s.logFormat)

end LogTagger
