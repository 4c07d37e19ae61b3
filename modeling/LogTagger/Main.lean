import LogTagger.AttributeFilter
import LogTagger.Daemon.Build
import LogTagger.Daemon.CommandLine
import LogTagger.Daemon.Run
import LogTagger.Metrics

/-!
# The program

The command line around the daemon: options, the configuration file and the environment come in, and
standard input goes through the daemon to standard output. The program has no sockets of its own, so
each attempt to talk to a Docker daemon or a metadata endpoint ends as if nobody were there.
-/

namespace LogTagger.Program

/-- What is found at the path of a file. -/
def contentAt (path : String) : IO FileContent := do
  try
    return .octets (← IO.FS.readBinFile path)
  catch
    | .noFileOrDirectory _ _ _ => return .missing
    | .inappropriateType _ _ _ => return .unreadable .isADirectory
    | e => return .unreadable (.other (toString e))

/-- The variables of the environment that concern the settings. -/
def environment : IO Environment := do
  let values ← Environment.variables.mapM (fun name => return (name, ← IO.getEnv name))
  return fun name => (values.lookup name).join

/-- No Docker daemon can be reached, and nothing be served. -/
def noSockets : Facilities where
  docker _ := .error "sockets are not available"
  recorder _ := .error "sockets are not available"
  client _ := .ok ()

/-- The language of the patterns. -/
def patterns : PatternLanguage := regularExpressions (fun _ => "not a regular expression")

/-- Reports a failure. -/
def fail (e : DaemonError) : IO UInt32 := do
  IO.eprintln ("Error: " ++ e.message)
  return 1

/-- Takes standard input through a daemon to standard output. -/
def serve (daemon : Daemon patterns) (service : Docker.Service) : IO UInt32 := do
  let input ← (← IO.getStdin).readToEnd
  let rehearsal : Rehearsal :=
    { scheduler := daemon.processor.scheduler
      discovery := { value := (Docker.daemon service).endpoints }
      document := fun _ => { value := .error (.request "sockets are not available") } }
  let (_, final, ending) := DaemonRun.run { daemon, rehearsal } [.input input.toUTF8.toList]
  (← IO.getStdout).write final.daemon.stream.sink.content
  match ending with
  | .ok _ => return 0
  | .error e => fail e

/-- Checks a configuration, or runs the daemon with it. -/
def carryOut (options : CommandLine) (config : Config) : IO UInt32 := do
  if options.validate then
    match config.checkAll patterns with
    | .ok _ =>
      IO.println ("configuration OK: " ++ options.config)
      return 0
    | .error e => fail e
  else
    match config.general.checkLogFormat, Daemon.ofConfig patterns config noSockets {} with
    | .error e, _ => fail e
    | _, .error e => fail e
    | .ok _, .ok (daemon, service) => serve daemon service

/-- Carries out the options that arguments give. -/
def run (arguments : List String) : IO UInt32 := do
  match CommandLine.ofArguments arguments with
  | .error .displayHelp =>
    IO.println CommandLine.help
    return 0
  | .error .displayVersion =>
    IO.println ("dockmeta-daemon " ++ Series.version)
    return 0
  | .error e =>
    IO.eprintln ("error: " ++ e.message)
    return 2
  | .ok options =>
    match options.loadConfig (← contentAt options.config) (← environment) with
    | .ok config => carryOut options config
    | .error e => fail e

end LogTagger.Program

/-- The program. -/
def main (arguments : List String) : IO UInt32 := LogTagger.Program.run arguments
