import LogTagger.Daemon.CommandLine
import LogTagger.Proofs.Config.Checks
import LogTagger.Proofs.Config.Fields

/-!
# The layers of a configuration

A setting is looked for in four layers: a flag of the command line, a variable of the environment, the
configuration file and the defaults. **`loadConfig_layered`** says that each setting of the configuration
that comes out is the value of the first layer that has one, and so that nothing but its own flag, its own
variable and the file has a say in it. A variable is named after the section and the setting
(`Field.envName?`); one that cannot be read as its setting is none.

A file is checked by itself before anything takes the place of its settings. Beyond that, to load a
configuration is to load it without flags and to check what comes out.
-/

namespace LogTagger

/-- Commas part a text into its pieces. -/
theorem Environment.pieces_eq_splitOn (s : List Char) : pieces s = s.splitOn ',' := by
  induction s with
  | nil => rfl
  | cons c s ih =>
    obtain ⟨piece, others, hsplit⟩ := List.exists_cons_of_ne_nil (List.splitOn_ne_nil ',' s)
    rw [pieces, ih, List.splitOn_cons_eq_if_modifyHead, hsplit]
    by_cases hc : c = ',' <;> simp [hc]

namespace Config

namespace Field

variable {α : Type}

/-! ### Flags -/

/-- The value that the command line gives a setting. -/
def flag? : Field α → CommandLine → Option α
  | logLevel, o => o.logLevel
  | logFormat, o => o.logFormat
  | dockerSocket, o => o.dockerSocket
  | _, _ => none

/-! ### Variables -/

/-- Whether an environment has a say in a setting. -/
def hasVariable : Field α → Bool
  | attributes | flattenMode | keyNaming => false
  | _ => true

/-- The name of the variable of a setting, from that of its section and its own. -/
def variableName (sectionName name : String) : String :=
  String.ofList ("DOCKMETA_".toList ++ sectionName.toList.map Char.toUpper ++ '_' :: name.toList.map Char.toUpper)

/-- The variable of a setting. -/
def envName? (f : Field α) : Option String :=
  match f.hasVariable, f.path with
  | true, [(_, sectionName), (_, name)] => some (variableName sectionName name)
  | _, _ => none

/-- How a setting is read from its variable. A list of names stands between commas; blanks at their ends do not
count, and neither do empty names. -/
def ofVariable? : Field α → String → Option α
  | logLevel, s | logFormat, s | dockerSocket, s | listenAddr, s => some s
  | refreshIntervalSecs, s | fetchTimeoutSecs, s | maxDocumentBytes, s => Environment.uint64? s
  | watchEvents, s | metricsEnabled, s => Environment.bool? s
  | containerIdSources, s =>
    some (((s.toList.splitOn ',').map fun piece => Text.trim (String.ofList piece)).filter fun name => !name.isEmpty)
  | port, s => Environment.uint16? s
  | attributes, _ => none
  | flattenMode, _ => none
  | keyNaming, _ => none

/-- The value that an environment gives a setting. -/
def inEnvironment? (f : Field α) (env : Environment) : Option α := (f.envName?.bind env).bind f.ofVariable?

/-- The names of the variables. -/
theorem envName?_eq (f : Field α) : f.envName? = match f with
    | logLevel => some "DOCKMETA_GENERAL_LOG_LEVEL"
    | logFormat => some "DOCKMETA_GENERAL_LOG_FORMAT"
    | dockerSocket => some "DOCKMETA_METADATA_DOCKER_SOCKET"
    | refreshIntervalSecs => some "DOCKMETA_METADATA_REFRESH_INTERVAL_SECS"
    | fetchTimeoutSecs => some "DOCKMETA_METADATA_FETCH_TIMEOUT_SECS"
    | maxDocumentBytes => some "DOCKMETA_METADATA_MAX_DOCUMENT_BYTES"
    | watchEvents => some "DOCKMETA_METADATA_WATCH_EVENTS"
    | containerIdSources => some "DOCKMETA_ENRICHMENT_CONTAINER_ID_SOURCES"
    | metricsEnabled => some "DOCKMETA_METRICS_ENABLED"
    | listenAddr => some "DOCKMETA_METRICS_LISTEN_ADDR"
    | port => some "DOCKMETA_METRICS_PORT"
    | attributes | flattenMode | keyNaming => none := by
  cases f <;> rfl

/-- A variable takes the place of the setting that it names, and of no other. -/
theorem get_overriddenBy (f : Field α) (c : Config) (env : Environment) :
    f.get (c.overriddenBy env) = (f.inEnvironment? env).getD (f.get c) := by
  cases f with
  | attributes => rfl
  | flattenMode => rfl
  | keyNaming => rfl
  | containerIdSources =>
    have hnames : containerIdSources.ofVariable? = fun s => some (Environment.names s) := by
      funext s
      rw [Environment.names, Environment.pieces_eq_splitOn]
      rfl
    rw [inEnvironment?, envName?_eq, hnames]
    rfl
  | _ =>
    rw [inEnvironment?, envName?_eq]
    rfl

/-- So does a flag. -/
theorem get_apply (f : Field α) (o : CommandLine) (c : Config) : f.get (o.apply c) = (f.flag? o).getD (f.get c) := by
  cases f <;> rfl

end Field

end Config

/-! ### The layers together -/

namespace CommandLine

variable {o : CommandLine} {content : FileContent} {env : Environment} {c : Config}

/-- What the configuration file says; the usual one may be missing. -/
def fileRoot? (o : CommandLine) (content : FileContent) : Option Toml :=
  if o.usesDefaultConfig && !content.isPresent then none else (Config.textOf o.config content).toOption.bind Toml.read?

/-- The value that the layers give a setting: the flag, else the variable, else the file, else the default. -/
def layered {α : Type} (o : CommandLine) (env : Environment) (content : FileContent) (f : Config.Field α) : α :=
  ((f.flag? o).or ((f.inEnvironment? env).or ((o.fileRoot? content).bind f.inFile))).getD f.default

/-- A file that can be loaded gives each setting its value, or leaves it at its default. -/
theorem get_of_fileSettings (h : o.fileSettings content = .ok c) {α : Type} (f : Config.Field α) :
    f.get c = ((o.fileRoot? content).bind f.inFile).getD f.default := by
  rw [fileSettings] at h
  rw [fileRoot?]
  split at h
  case isTrue hdefault =>
    cases h
    rw [if_pos hdefault]
    rfl
  case isFalse hdefault =>
    rw [if_neg hdefault]
    obtain ⟨text, htext, hsettings, -⟩ := Config.ofFile_eq_ok_iff.mp h
    obtain ⟨root, hroot, hread⟩ := Config.ofText_eq_ok_iff.mp hsettings
    rw [htext, Except.toOption, Option.bind_some, hroot, Option.bind_some]
    exact Config.get_of_ofToml? hread f

theorem loadConfig_eq_ok_iff : o.loadConfig content env = .ok c ↔
    ∃ base, o.fileSettings content = .ok base ∧ c = o.apply (base.overriddenBy env) := by
  rw [loadConfig]
  cases o.fileSettings content <;> simp [eq_comm]

theorem get_of_loadConfig (h : o.loadConfig content env = .ok c) {α : Type} (f : Config.Field α) :
    f.get c = o.layered env content f := by
  obtain ⟨base, hbase, rfl⟩ := loadConfig_eq_ok_iff.mp h
  rw [Config.Field.get_apply, Config.Field.get_overriddenBy, get_of_fileSettings hbase, layered, Option.getD_or,
    Option.getD_or]

/-- A configuration comes out if the file can be loaded, and then it is what the layers make it. -/
theorem loadConfig_eq_ok_iff_layered : o.loadConfig content env = .ok c ↔
    (o.fileSettings content).isOk = true ∧ ∀ (α : Type) (f : Config.Field α), f.get c = o.layered env content f := by
  constructor
  · intro h
    obtain ⟨base, hbase, -⟩ := loadConfig_eq_ok_iff.mp h
    exact ⟨by rw [hbase]; rfl, fun _ f => get_of_loadConfig h f⟩
  · rintro ⟨hok, hlayers⟩
    cases hbase : o.fileSettings content with
    | error cause =>
      rw [hbase] at hok
      cases hok
    | ok base =>
      have hcome : o.loadConfig content env = .ok (o.apply (base.overriddenBy env)) :=
        loadConfig_eq_ok_iff.mpr ⟨base, hbase, rfl⟩
      rw [hcome, Config.ext_get fun α f => (get_of_loadConfig hcome f).trans (hlayers α f).symm]

/-- The layers give a setting the same value if they agree on its flag, its variable and the file. -/
theorem layered_congr {o' : CommandLine} {env' : Environment} (hconfig : o'.config = o.config) {α : Type}
    {f : Config.Field α} (hflag : f.flag? o' = f.flag? o) (henv : ∀ name ∈ f.envName?, env' name = env name) :
    o'.layered env' content f = o.layered env content f := by
  have hvariable : f.inEnvironment? env' = f.inEnvironment? env := by
    rw [Config.Field.inEnvironment?, Config.Field.inEnvironment?]
    cases hname : f.envName? with
    | none => rfl
    | some name => rw [Option.bind_some, Option.bind_some, henv name hname]
  rw [layered, layered, hflag, hvariable, fileRoot?, fileRoot?, usesDefaultConfig, usesDefaultConfig, hconfig]

/-- What comes of the layers of a configuration. -/
structure Layered (o : CommandLine) (content : FileContent) (env : Environment) : Prop where
  /-- A configuration comes out if the file can be loaded, and each setting is that of the first layer that has it. -/
  settings : ∀ c, o.loadConfig content env = .ok c ↔ (o.fileSettings content).isOk = true ∧
    ∀ (α : Type) (f : Config.Field α), f.get c = o.layered env content f
  /-- Another command line and another environment give a setting the same value if they have the same flag and the
  same variable for it. -/
  own : ∀ o' env' c c', o'.config = o.config → o.loadConfig content env = .ok c → o'.loadConfig content env' = .ok c' →
    ∀ (α : Type) (f : Config.Field α), f.flag? o' = f.flag? o → (∀ name ∈ f.envName?, env' name = env name) →
      f.get c' = f.get c
  /-- Patterns and flattening are those of the file, or the defaults. -/
  file : ∀ c, o.loadConfig content env = .ok c → ∃ base, o.fileSettings content = .ok base ∧
    c.enrichment.attributes = base.enrichment.attributes ∧ c.enrichment.flatten = base.enrichment.flatten
  /-- Where there is a file, or the path is another than the usual one, to load a configuration from it is to load it
  without flags and to check what comes out. -/
  load : (content.isPresent = true ∨ o.config ≠ defaultConfigPath) → ∀ c, Config.load o.config content env = .ok c ↔
    CommandLine.loadConfig { config := o.config } content env = .ok c ∧ c.check = .ok ()

/-- Where the file must be there, its settings are those that are allowed in it. -/
theorem fileSettings_of_present (h : content.isPresent = true ∨ o.config ≠ defaultConfigPath) :
    o.fileSettings content = Config.ofFile o.config content := by
  refine if_neg fun hdefault => ?_
  rw [Bool.and_eq_true, usesDefaultConfig, decide_eq_true_eq, Bool.not_eq_true'] at hdefault
  rcases h with h | h
  · exact absurd (h.symm.trans hdefault.2) (by simp)
  · exact h hdefault.1

theorem load_eq_ok_iff_of_present (h : content.isPresent = true ∨ o.config ≠ defaultConfigPath) :
    Config.load o.config content env = .ok c ↔
      CommandLine.loadConfig { config := o.config } content env = .ok c ∧ c.check = .ok () := by
  have hfile := fileSettings_of_present (o := { config := o.config }) h
  rw [Config.load_eq_ok_iff, loadConfig_eq_ok_iff, hfile]
  constructor
  · rintro ⟨base, hbase, rfl, hcheck⟩
    exact ⟨⟨base, hbase, rfl⟩, hcheck⟩
  · rintro ⟨⟨base, hbase, rfl⟩, hcheck⟩
    exact ⟨base, hbase, rfl, hcheck⟩

/-- **Each setting is that of the first layer that has it**, for every command line, file and environment. -/
theorem loadConfig_layered (o : CommandLine) (content : FileContent) (env : Environment) : Layered o content env where
  settings _ := loadConfig_eq_ok_iff_layered
  own o' env' c c' hconfig h h' α f hflag henv := by
    rw [get_of_loadConfig h, get_of_loadConfig h', layered_congr hconfig hflag henv]
  file c h := by
    obtain ⟨base, hbase, rfl⟩ := loadConfig_eq_ok_iff.mp h
    exact ⟨base, hbase, rfl, rfl⟩
  load hpresent _ := load_eq_ok_iff_of_present hpresent

end CommandLine

end LogTagger
