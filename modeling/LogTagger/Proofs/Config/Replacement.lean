import LogTagger.Proofs.Config.Layers
import LogTagger.Proofs.Text.Octets

/-!
# Settings whose place is taken

A flag or a variable takes the place of what the configuration file says of a setting, so that two files
that differ only there give the same configuration (`apply_overriddenBy_congr`), if both give one. But a file
is checked by itself before anything takes the place of its settings, and a value that is not allowed there
keeps the configuration from being loaded though it would never be used
(`exists_replaced_value_refused`). **`loadAlike_iff`** says that this is the only way in which such a value
matters: two files load alike exactly if both are allowed by themselves or neither is. So they do if they
differ only in settings without a rule.
-/

namespace LogTagger

namespace Config

namespace Field

variable {α : Type}

/-- Whether a flag or a variable takes the place of what the file says of a setting. -/
def isReplaced (f : Field α) (o : CommandLine) (env : Environment) : Bool :=
  ((f.flag? o).or (f.inEnvironment? env)).isSome

/-- Whether there is a rule for the values of a setting. -/
def hasRule : Field α → Bool
  | logLevel | logFormat | refreshIntervalSecs | fetchTimeoutSecs | maxDocumentBytes | containerIdSources
  | metricsEnabled | port => true
  | dockerSocket | watchEvents | attributes | flattenMode | keyNaming | listenAddr => false

/-- What stands at a setting in the end does not depend on the file if its place is taken. -/
theorem get_apply_overriddenBy_of_isReplaced {f : Field α} {o : CommandLine} {env : Environment}
    (h : f.isReplaced o env = true) (c d : Config) :
    f.get (o.apply (c.overriddenBy env)) = f.get (o.apply (d.overriddenBy env)) := by
  obtain ⟨v, hv⟩ := Option.isSome_iff_exists.mp h
  rw [get_apply, get_apply, get_overriddenBy, get_overriddenBy, ← Option.getD_or, ← Option.getD_or, hv]
  rfl

end Field

/-- The check looks at the settings that have a rule and at no others. -/
theorem check_congr {c d : Config} (h : ∀ (α : Type) (f : Field α), f.hasRule = true → f.get c = f.get d) :
    c.check = d.check := by
  have hlevel : c.general.logLevel = d.general.logLevel := h _ .logLevel rfl
  have hformat : c.general.logFormat = d.general.logFormat := h _ .logFormat rfl
  have hinterval : c.metadata.refreshIntervalSecs = d.metadata.refreshIntervalSecs := h _ .refreshIntervalSecs rfl
  have htimeout : c.metadata.fetchTimeoutSecs = d.metadata.fetchTimeoutSecs := h _ .fetchTimeoutSecs rfl
  have hbytes : c.metadata.maxDocumentBytes = d.metadata.maxDocumentBytes := h _ .maxDocumentBytes rfl
  have hsources : c.enrichment.containerIdSources = d.enrichment.containerIdSources := h _ .containerIdSources rfl
  have henabled : c.metrics.enabled = d.metrics.enabled := h _ .metricsEnabled rfl
  have hport : c.metrics.port = d.metrics.port := h _ .port rfl
  simp only [check, fault?, GeneralSettings.fault?, SourceSettings.fault?, EnrichmentSettings.fault?,
    MetricsSettings.fault?, hlevel, hformat, hinterval, htimeout, hbytes, hsources, henabled, hport]

end Config

namespace CommandLine

variable {o : CommandLine} {env : Environment} {a b content : FileContent} {c d : Config}

/-- The settings that the configuration file holds, whether they are allowed or not. -/
def held? (o : CommandLine) (content : FileContent) : Option Config :=
  (Config.textOf o.config content).toOption.bind fun text => (Config.ofText text).toOption

/-- Two configurations differ at most in settings whose place is taken. -/
def AgreeElsewhere (o : CommandLine) (env : Environment) (c d : Config) : Prop :=
  ∀ (α : Type) (f : Config.Field α), f.isReplaced o env = false → f.get c = f.get d

/-- Two files load alike: both give the same configuration, or neither gives one. -/
def LoadAlike (o : CommandLine) (env : Environment) (a b : FileContent) : Prop :=
  (∃ m, o.loadConfig a env = .ok m ∧ o.loadConfig b env = .ok m) ∨
    ((∃ e, o.loadConfig a env = .error e) ∧ ∃ e, o.loadConfig b env = .error e)

/-! ### One file -/

theorem held?_eq_some_iff : o.held? content = some c ↔
    ∃ text, Config.textOf o.config content = .ok text ∧ Config.ofText text = .ok c := by
  rw [held?]
  cases htext : Config.textOf o.config content with
  | error e => simp [Except.toOption]
  | ok text => cases hc : Config.ofText text <;> simp [Except.toOption, hc]

/-- What holds settings is there. -/
theorem isPresent_of_held? (h : o.held? content = some c) : content.isPresent = true := by
  obtain ⟨text, htext, -⟩ := held?_eq_some_iff.mp h
  cases content with
  | missing => cases htext
  | unreadable fault => cases htext
  | octets content => rfl

/-- The settings in a file are checked, and nothing else can go wrong. -/
theorem fileSettings_of_held? (h : o.held? content = some c) : o.fileSettings content = c.check.map fun _ => c := by
  obtain ⟨text, htext, hc⟩ := held?_eq_some_iff.mp h
  rw [fileSettings_of_present (.inl (isPresent_of_held? h)), Config.ofFile, htext]
  change (do let c ← Config.ofText text; c.check; pure c) = _
  rw [hc]
  change (do c.check; pure c) = _
  cases c.check <;> rfl

theorem loadConfig_of_allowed (h : o.held? content = some c) (hcheck : c.check = .ok ()) :
    o.loadConfig content env = .ok (o.apply (c.overriddenBy env)) := by
  rw [loadConfig, fileSettings_of_held? h, hcheck]
  rfl

theorem loadConfig_of_refused (h : o.held? content = some c) {cause : Error} (hcheck : c.check = .error cause) :
    o.loadConfig content env = .error (.loadFrom o.config cause) := by
  rw [loadConfig, fileSettings_of_held? h, hcheck]
  rfl

/-- A file is refused for what is wrong with its own settings. -/
theorem loadConfig_eq_error_iff (h : o.held? content = some c) {e : DaemonError} :
    o.loadConfig content env = .error e ↔ ∃ cause, c.check = .error cause ∧ e = .loadFrom o.config cause := by
  cases hcheck : c.check with
  | ok _ =>
    rw [loadConfig_of_allowed h hcheck]
    simp
  | error cause =>
    rw [loadConfig_of_refused h hcheck]
    simp [eq_comm]

/-- The octets of a text are a file that holds the settings in it. -/
theorem held?_toUTF8 {text : String} (h : Config.ofText text = .ok c) : o.held? (.octets text.toUTF8) = some c := by
  have hread : String.fromUTF8? text.toUTF8 = some text := by
    rw [String.fromUTF8?, dif_pos (show text.toUTF8.IsValidUTF8 from text.isValidUTF8)]
    rfl
  refine held?_eq_some_iff.mpr ⟨text, ?_, h⟩
  rw [Config.textOf, hread]

/-! ### Two files -/

/-- **What is replaced leaves no trace** in a configuration. -/
theorem apply_overriddenBy_congr (h : o.AgreeElsewhere env c d) :
    o.apply (c.overriddenBy env) = o.apply (d.overriddenBy env) := by
  refine Config.ext_get fun α f => ?_
  cases hreplaced : f.isReplaced o env with
  | true => exact Config.Field.get_apply_overriddenBy_of_isReplaced hreplaced c d
  | false =>
    rw [Config.Field.get_apply, Config.Field.get_apply, Config.Field.get_overriddenBy, Config.Field.get_overriddenBy,
      h α f hreplaced]

/-- Files that are allowed by themselves give the same configuration. -/
theorem exists_loadConfig_of_allowed (ha : o.held? a = some c) (hb : o.held? b = some d)
    (h : o.AgreeElsewhere env c d) (hc : c.check = .ok ()) (hd : d.check = .ok ()) :
    ∃ m, o.loadConfig a env = .ok m ∧ o.loadConfig b env = .ok m := by
  refine ⟨o.apply (c.overriddenBy env), loadConfig_of_allowed ha hc, ?_⟩
  rw [apply_overriddenBy_congr h]
  exact loadConfig_of_allowed hb hd

theorem loadAlike_iff_check (ha : o.held? a = some c) (hb : o.held? b = some d) (h : o.AgreeElsewhere env c d) :
    o.LoadAlike env a b ↔ (c.check = .ok () ↔ d.check = .ok ()) := by
  cases hc : c.check with
  | ok _ =>
    cases hd : d.check with
    | ok _ => exact iff_of_true (.inl (exists_loadConfig_of_allowed ha hb h hc hd)) Iff.rfl
    | error cause => simp [LoadAlike, loadConfig_of_allowed ha hc, loadConfig_of_refused hb hd]
  | error cause =>
    cases hd : d.check with
    | ok _ => simp [LoadAlike, loadConfig_of_refused ha hc, loadConfig_of_allowed hb hd]
    | error cause' => simp [LoadAlike, loadConfig_of_refused ha hc, loadConfig_of_refused hb hd]

/-- What becomes of two files that hold settings and differ at most in those whose place is taken. -/
structure Replaced (o : CommandLine) (env : Environment) (a b : FileContent) (c d : Config) : Prop where
  /-- A file is refused for a setting of its own that is not allowed, and for nothing else. -/
  refused : ∀ e, o.loadConfig a env = .error e ↔ ∃ cause, c.check = .error cause ∧ e = .loadFrom o.config cause
  /-- If both are allowed by themselves they give the same configuration. -/
  allowed : c.check = .ok () → d.check = .ok () → ∃ m, o.loadConfig a env = .ok m ∧ o.loadConfig b env = .ok m
  /-- They load alike exactly if both are allowed by themselves or neither is. -/
  alike : o.LoadAlike env a b ↔ (c.check = .ok () ↔ d.check = .ok ())
  /-- So they do if every setting that has a rule is the same in both. -/
  unruled : (∀ (α : Type) (f : Config.Field α), f.hasRule = true → f.get c = f.get d) → o.LoadAlike env a b

/-- **A value that is replaced matters only if the file may not hold it.** -/
theorem loadAlike_iff (ha : o.held? a = some c) (hb : o.held? b = some d) (h : o.AgreeElsewhere env c d) :
    Replaced o env a b c d where
  refused _ := loadConfig_eq_error_iff ha
  allowed := exists_loadConfig_of_allowed ha hb h
  alike := loadAlike_iff_check ha hb h
  unruled hsame := by rw [loadAlike_iff_check ha hb h, Config.check_congr hsame]

/-- A command line that gives the severity. -/
def severityGiven : CommandLine := { config := "a.toml", logLevel := some "debug" }

/-- An environment that gives the interval. -/
def intervalGiven : Environment := fun name =>
  if name = "DOCKMETA_METADATA_REFRESH_INTERVAL_SECS" then some "15" else none

/-- A file may hold a severity that there is not, and an interval that is none, if both are replaced; it is refused
for the first of them, while a file with other values is not. -/
theorem loadAlike_iff_of_loud :
    let loud := "[general]\nlog_level = \"loud\"\n[metadata]\nrefresh_interval_secs = 0\n"
    let usual := "[general]\nlog_level = \"warn\"\n"
    let c : Config := { general := { logLevel := "loud" }, metadata := { refreshIntervalSecs := 0 } }
    let d : Config := { general := { logLevel := "warn" } }
    severityGiven.held? (.octets loud.toUTF8) = some c ∧ severityGiven.held? (.octets usual.toUTF8) = some d ∧
      severityGiven.AgreeElsewhere intervalGiven c d ∧
      Replaced severityGiven intervalGiven (.octets loud.toUTF8) (.octets usual.toUTF8) c d := by
  intro loud usual c d
  have hloud : severityGiven.held? (.octets loud.toUTF8) = some c := held?_toUTF8 (by decide +kernel)
  have husual : severityGiven.held? (.octets usual.toUTF8) = some d := held?_toUTF8 (by decide +kernel)
  have hagree : severityGiven.AgreeElsewhere intervalGiven c d := by
    intro α f hkept
    cases f with
    | logLevel => cases hkept
    | refreshIntervalSecs => exact absurd hkept (by decide +kernel)
    | _ => rfl
  exact ⟨hloud, husual, hagree, loadAlike_iff hloud husual hagree⟩

/-- A value that is replaced may still be what a file is refused for: a severity that there is not, where a flag gives
another one. -/
theorem exists_replaced_value_refused :
    ¬ ∀ (o : CommandLine) (env : Environment) (a b : FileContent) (c d : Config),
      o.held? a = some c → o.held? b = some d → o.AgreeElsewhere env c d → o.LoadAlike env a b := by
  intro hall
  have hloud : severityGiven.held? (.octets "[general]\nlog_level = \"loud\"\n".toUTF8) =
      some { general := { logLevel := "loud" } } := held?_toUTF8 (by decide +kernel)
  have hempty : severityGiven.held? (.octets "".toUTF8) = some {} := held?_toUTF8 (by decide +kernel)
  have hagree : severityGiven.AgreeElsewhere (fun _ => none) { general := { logLevel := "loud" } } {} := by
    intro α f hkept
    cases f with
    | logLevel => cases hkept
    | _ => rfl
  have halike := hall severityGiven (fun _ => none) _ _ _ _ hloud hempty hagree
  -- Nothing is wrong with the defaults, so the one file is refused and the other is not.
  have hallowed := ((loadAlike_iff_check hloud hempty hagree).mp halike).mpr rfl
  cases hallowed

end CommandLine

end LogTagger
