import LogTagger.AttributeFilter
import LogTagger.Config.Settings
import LogTagger.Text.Blank

/-!
# Validation of settings

Each section reports the first of its settings that is not allowed. `Config.check` words the report
for a user of the program, `SourceSettings.check` and `TaggingSettings.check` for the component that
is to be built from the settings; the latter also compiles the attribute patterns. A component has its
own rules (`SourceSettings.partFault?`, `TaggingSettings.sourceFault?`) beside those of the section.
-/

namespace LogTagger

/-- A setting that is not allowed, and why. -/
structure SettingFault where
  /-- The name of the setting. -/
  field : String
  /-- The reason. -/
  reason : String
  deriving DecidableEq

namespace SettingFault

/-- The fault with the name of the section in front. -/
def within (f : SettingFault) (sectionName : String) : SettingFault := { f with field := sectionName ++ "." ++ f.field }

/-- The fault as told to a user. -/
def toError (f : SettingFault) : Error := .config (.invalidValue f.field f.reason)

end SettingFault

/-- A check that fails if there is a fault. -/
def checkFault {ε : Type} (word : SettingFault → ε) : Option SettingFault → Except ε Unit
  | none => .ok ()
  | some f => .error (word f)

/-- The severities that may be logged. -/
def logLevels : List String := ["trace", "debug", "info", "warn", "error"]

/-- The formats in which may be logged. -/
def logFormats : List String := ["json", "pretty"]

/-- The fault of a setting that is none of several choices. -/
def choiceFault? (field value : String) (choices : List String) : Option SettingFault :=
  if choices.contains value then none else some ⟨field, "must be one of: " ++ ", ".intercalate choices⟩

/-- The fault of a setting that is not between one and a greatest value. -/
def rangeFault? (field : String) (value : UInt64) (greatest : Nat) : Option SettingFault :=
  if 1 ≤ value.toNat ∧ value.toNat ≤ greatest then none else some ⟨field, "must be 1-" ++ toString greatest⟩

/-- The first fault of the general settings. -/
def GeneralSettings.fault? (s : GeneralSettings) : Option SettingFault :=
  (choiceFault? "log_level" s.logLevel logLevels).or (choiceFault? "log_format" s.logFormat logFormats)

/-- The first fault of the settings of the metadata source. -/
def SourceSettings.fault? (s : SourceSettings) : Option SettingFault :=
  (rangeFault? "refresh_interval_secs" s.refreshIntervalSecs 3600).or
    ((rangeFault? "fetch_timeout_secs" s.fetchTimeoutSecs 60).or
      (rangeFault? "max_document_bytes" s.maxDocumentBytes 16777216))

/-- The fault of a configuration without attributes to seek an id in. -/
def noSource : SettingFault := ⟨"container_id_sources", "at least one container ID source must be specified"⟩

/-- The first fault of the settings of the enrichment. -/
def EnrichmentSettings.fault? (s : EnrichmentSettings) : Option SettingFault :=
  if s.containerIdSources.isEmpty then some noSource
  else if s.containerIdSources.any Text.allBlank then
    some ⟨"container_id_sources", "source attribute names must not be empty"⟩
  else none

/-- The fault of the settings of the metrics listener. -/
def MetricsSettings.fault? (s : MetricsSettings) : Option SettingFault :=
  if s.enabled ∧ s.port = 0 then some ⟨"port", "must be 1-65535 when enabled"⟩ else none

/-- The first fault of a configuration. -/
def Config.fault? (c : Config) : Option SettingFault :=
  (c.general.fault?.map (·.within "general")).or
    ((c.metadata.fault?.map (·.within "metadata")).or
      ((c.enrichment.fault?.map (·.within "enrichment")).or
        (c.metrics.fault?.map (·.within "metrics"))))

/-- Fails with the first setting that is not allowed. -/
def Config.check (c : Config) : Except Error Unit := checkFault SettingFault.toError c.fault?

/-- Fails with the first setting of the metadata section that is not allowed. -/
def SourceSettings.checkSection (s : SourceSettings) : Except Error Unit :=
  checkFault SettingFault.toError (s.fault?.map (·.within "metadata"))

/-- The first fault of the settings of the metadata source, for the component. -/
def SourceSettings.partFault? (s : SourceSettings) : Option SettingFault :=
  (rangeFault? "refresh_interval_secs" s.refreshIntervalSecs 3600).or
    ((rangeFault? "fetch_timeout_secs" s.fetchTimeoutSecs 60).or
      (rangeFault? "max_document_bytes" s.maxDocumentBytes (16 * 1024 * 1024)))

/-- Fails with the first setting of the metadata source that is not allowed. -/
def SourceSettings.check (s : SourceSettings) : Except SourceError Unit :=
  checkFault (fun f => .config f.field f.reason) s.partFault?

namespace TaggingSettings

/-- The fault of the attributes in which a container id is sought: the first that is blank is named
by its position. -/
def sourceFault? (s : TaggingSettings) : Option SettingFault :=
  if s.containerIdSources.isEmpty then some noSource
  else
    (s.containerIdSources.findIdx? Text.allBlank).map (fun i =>
      ⟨"container_id_sources[" ++ toString i ++ "]", "source attribute name must not be empty"⟩)

/-- The compiled attribute patterns. -/
def filter (L : PatternLanguage) (s : TaggingSettings) : Except TaggingError (AttributeFilter L) :=
  AttributeFilter.compile L s.attributes

/-- Fails with the first setting that is not allowed. -/
def check (L : PatternLanguage) (s : TaggingSettings) : Except TaggingError Unit := do
  checkFault (fun f => .config f.field f.reason) s.sourceFault?
  let _ ← s.filter L
  s.metadata.check.mapError .source

end TaggingSettings

end LogTagger
