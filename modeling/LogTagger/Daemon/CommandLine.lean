import LogTagger.Config.Loading
import LogTagger.Daemon.Error

/-!
# The command line

The options of the daemon. An option takes its value from the text after an equals sign, from the
rest of its argument if it has a short name, or from the next argument unless that looks like an
option itself. The value is settled when the next option is met or the arguments end; until then it
is pending. There are no arguments besides options.
-/

namespace LogTagger

/-- The path of the configuration file unless another is given. -/
def defaultConfigPath : String := "/etc/dockmeta/dockmeta.toml"

/-- The options of the daemon. -/
structure CommandLine where
  /-- The path of the configuration file. -/
  config : String := defaultConfigPath
  /-- The severity that takes the place of the configured one. -/
  logLevel : Option String := none
  /-- The format that takes the place of the configured one. -/
  logFormat : Option String := none
  /-- The socket that takes the place of the configured one. -/
  dockerSocket : Option String := none
  /-- Whether only the configuration is to be checked. -/
  validate : Bool := false
  deriving DecidableEq

/-- Why arguments are not carried out; the first two are requests rather than faults. -/
inductive UsageError where
  /-- The help is asked for. -/
  | displayHelp
  /-- The version is asked for. -/
  | displayVersion
  /-- There is no such option. -/
  | unknownArgument
  /-- An option has no value, or one that it does not take. -/
  | invalidValue
  /-- An option is given twice. -/
  | argumentConflict
  /-- An option that takes no value has one. -/
  | tooManyValues
  deriving DecidableEq

/-- The name of a kind of usage failure. -/
def UsageError.name : UsageError → String
  | .displayHelp => "DisplayHelp"
  | .displayVersion => "DisplayVersion"
  | .unknownArgument => "UnknownArgument"
  | .invalidValue => "InvalidValue"
  | .argumentConflict => "ArgumentConflict"
  | .tooManyValues => "TooManyValues"

/-- The wording of a usage failure. -/
def UsageError.message : UsageError → String
  | .displayHelp => "the help is asked for"
  | .displayVersion => "the version is asked for"
  | .unknownArgument => "unexpected argument found"
  | .invalidValue => "a value is required for an option but none was supplied"
  | .argumentConflict => "an option cannot be used multiple times"
  | .tooManyValues => "unexpected value for an option found"

namespace CommandLine

/-- The help. -/
def help : String :=
  "Container metadata enrichment daemon\n\n" ++
  "Usage: dockmeta-daemon [OPTIONS]\n\n" ++
  "Options:\n" ++
  "  -c, --config <CONFIG>                Path to dockmeta.toml configuration file [default: " ++ defaultConfigPath ++ "]\n" ++
  "      --log-level <LOG_LEVEL>          Override log level (trace, debug, info, warn, error)\n" ++
  "      --log-format <LOG_FORMAT>        Override log format (json, pretty)\n" ++
  "      --docker-socket <DOCKER_SOCKET>  Override the Docker socket path\n" ++
  "      --validate                       Validate configuration file and exit without starting the daemon\n" ++
  "  -h, --help                           Print help (see more with '--help')\n" ++
  "  -V, --version                        Print version"

/-- An option that takes a value. -/
inductive Setting where
  /-- The path of the configuration file. -/
  | config
  /-- The severity. -/
  | logLevel
  /-- The format. -/
  | logFormat
  /-- The socket. -/
  | dockerSocket
  deriving DecidableEq

/-- An option. -/
inductive Flag where
  /-- One that takes a value. -/
  | setting (s : Setting)
  /-- The check of the configuration. -/
  | validate
  /-- The help. -/
  | help
  /-- The version. -/
  | version
  deriving DecidableEq

/-- The option with a long name. -/
def Flag.ofName? (name : String) : Option Flag :=
  match name with
  | "config" => some (.setting .config)
  | "log-level" => some (.setting .logLevel)
  | "log-format" => some (.setting .logFormat)
  | "docker-socket" => some (.setting .dockerSocket)
  | "validate" => some .validate
  | "help" => some .help
  | "version" => some .version
  | _ => none

/-- The option with a short name. -/
def Flag.ofLetter? (c : Char) : Option Flag :=
  match c with
  | 'c' => some (.setting .config)
  | 'h' => some .help
  | 'V' => some .version
  | _ => none

/-- What has been settled, and the option that waits to be settled with the value it has so far. -/
structure Progress where
  /-- The values of the options that have been settled. -/
  settled : List (Setting × String) := []
  /-- Whether the check of the configuration has been asked for. -/
  validate : Bool := false
  /-- The option that waits to be settled. -/
  pending : Option (Setting × Option String) := none

namespace Progress

/-- Settles the waiting option. It needs a value, must not have been given before, and the path of
the configuration file must not be empty. -/
def settle (p : Progress) : Except UsageError Progress :=
  match p.pending with
  | none => .ok p
  | some (_, none) => .error .invalidValue
  | some (s, some v) =>
    if p.settled.any (fun e => e.1 = s) then .error .argumentConflict
    else if s = .config ∧ v.isEmpty then .error .invalidValue
    else .ok { p with settled := p.settled ++ [(s, v)], pending := none }

/-- Takes an option that needs no value. -/
def mark (p : Progress) : Flag → Except UsageError Progress
  | .setting s => (p.settle).map (fun q => { q with pending := some (s, none) })
  | .validate => do
    let q ← p.settle
    if q.validate then .error .argumentConflict else .ok { q with validate := true }
  | .help => p.settle.bind (fun _ => .error .displayHelp)
  | .version => p.settle.bind (fun _ => .error .displayVersion)

/-- Takes an option with a value of its own. -/
def give (p : Progress) (s : Setting) (value : String) : Except UsageError Progress := do
  let q ← p.settle
  { q with pending := some (s, some value) }.settle

/-- Takes a long option, with the text after an equals sign if there is one. -/
def takeLong (p : Progress) (name : String) (value : Option String) : Except UsageError Progress :=
  match Flag.ofName? name, value with
  | none, _ => .error .unknownArgument
  | some (.setting s), some v => p.give s v
  | some _, some _ => .error .tooManyValues
  | some f, none => p.mark f

/-- Takes the letters of short options. The rest of the letters is the value of an option that takes
one, after an equals sign if there is one. -/
def takeShort (p : Progress) : List Char → Except UsageError Progress
  | [] => .ok p
  | c :: rest =>
    match Flag.ofLetter? c with
    | none => .error .unknownArgument
    | some (.setting s) =>
      match rest with
      | [] => p.mark (.setting s)
      | '=' :: value => p.give s (String.ofList value)
      | value => p.give s (String.ofList value)
    | some f => (p.mark f).bind (fun q => takeShort q rest)

/-- Takes one argument; `none` is the mark after which no options follow. -/
def take (p : Progress) (argument : String) : Except UsageError Progress :=
  match argument.toList with
  | '-' :: '-' :: long =>
    let name := long.takeWhile (· != '=')
    match long.drop name.length with
    | [] => p.takeLong (String.ofList name) none
    | _ :: value => p.takeLong (String.ofList name) (some (String.ofList value))
  | '-' :: c :: rest => p.takeShort (c :: rest)
  | _ =>
    match p.pending with
    | some (s, none) => .ok { p with pending := some (s, some argument) }
    | _ => .error .unknownArgument

/-- Takes all arguments. After two hyphens alone any argument would be one besides options. -/
def takeAll (p : Progress) : List String → Except UsageError Progress
  | [] => p.settle
  | argument :: rest =>
    if argument = "--" then if rest.isEmpty then p.settle else .error .unknownArgument
    else (p.take argument).bind (fun q => takeAll q rest)

/-- The value of an option that has been settled. -/
def value? (p : Progress) (s : Setting) : Option String := (p.settled.find? (fun e => e.1 = s)).map (·.2)

end Progress

/-- The options that arguments give. -/
def ofArguments (arguments : List String) : Except UsageError CommandLine :=
  (Progress.takeAll {} arguments).map (fun p =>
    { config := (p.value? .config).getD defaultConfigPath, logLevel := p.value? .logLevel,
      logFormat := p.value? .logFormat, dockerSocket := p.value? .dockerSocket, validate := p.validate })

/-- Whether the configuration file is the one that is used unless another is given. -/
def usesDefaultConfig (o : CommandLine) : Bool := o.config = defaultConfigPath

/-- The configuration with the options in place of single settings. -/
def apply (o : CommandLine) (c : Config) : Config :=
  { c with
    general :=
      { logLevel := o.logLevel.getD c.general.logLevel, logFormat := o.logFormat.getD c.general.logFormat }
    metadata := { c.metadata with dockerSocket := o.dockerSocket.getD c.metadata.dockerSocket } }

/-- The settings of the configuration file by themselves. Only the usual file may be missing. -/
def fileSettings (o : CommandLine) (content : FileContent) : Except Error Config :=
  if o.usesDefaultConfig && !content.isPresent then .ok {} else Config.ofFile o.config content

/-- The configuration of the file, the environment and the options. -/
def loadConfig (o : CommandLine) (content : FileContent) (env : Environment) : Except DaemonError Config :=
  match o.fileSettings content with
  | .ok c => .ok (o.apply (c.overriddenBy env))
  | .error cause => .error (.loadFrom o.config cause)

end CommandLine

end LogTagger
