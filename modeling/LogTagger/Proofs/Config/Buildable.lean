import LogTagger.Daemon.Settings
import LogTagger.Proofs.AttributeFilter
import LogTagger.Proofs.Config.Checks
import LogTagger.Proofs.Processor.Lockstep
import LogTagger.Proofs.Scheduler.Timer

/-!
# What is allowed can be built

The rules for settings are written more than once: the sections of a configuration have theirs, the
components that are built from it have their own, and each component checks again what it is given. The
wording differs, and so does the way to look for a blank name. **`config_buildable`** says that they never
disagree: a component allows what its section allows, a configuration that is allowed as a whole is one
whose sections are allowed and whose attribute patterns compile, and from it everything is built.

A timer without an interval would break the loop of the scheduler. The least interval that is allowed is a
second, and no step changes it, so no loop breaks (`Scheduler.Timed.run`).
-/

namespace LogTagger

/-! ### The components -/

theorem TaggingSettings.check_eq_ok_iff {L : PatternLanguage} {s : TaggingSettings} : s.check L = .ok () ↔
    s.sourceFault? = none ∧ (∀ p ∈ s.attributes, (L.compile p).isOk = true) ∧ s.metadata.fault? = none := by
  rw [check, check_bind_eq_ok_iff, bind_eq_ok_iff, exists_and_right, checkFault_eq_ok_iff, mapError_eq_ok_iff,
    SourceSettings.check_eq_ok_iff, filter, AttributeFilter.exists_compile_iff]

/-- Where the names and the numbers are allowed, the first pattern that does not compile is the cause. -/
theorem TaggingSettings.check_of_firstInvalid {L : PatternLanguage} {s : TaggingSettings} {pattern reason : String}
    (hsources : s.sourceFault? = none)
    (h : AttributeFilter.compile L s.attributes = .error (.invalidPattern pattern reason)) :
    s.check L = .error (.invalidPattern pattern reason) := by
  rw [check, hsources, filter, h]
  rfl

theorem Config.checkAll_eq_ok_iff {L : PatternLanguage} {c : Config} :
    c.checkAll L = .ok () ↔ c.check = .ok () ∧ ∀ p ∈ c.enrichment.attributes, (L.compile p).isOk = true := by
  rw [checkAll, check_bind_eq_ok_iff, mapError_eq_ok_iff, mapError_eq_ok_iff, TaggingSettings.check_eq_ok_iff,
    sourceFault?_tagging_eq_none_iff]
  constructor
  · rintro ⟨hcheck, -, hpatterns, -⟩
    exact ⟨hcheck, hpatterns⟩
  · rintro ⟨hcheck, hpatterns⟩
    obtain ⟨-, hmetadata, henrichment, -⟩ := check_eq_ok_iff.mp hcheck
    exact ⟨hcheck, henrichment, hpatterns, hmetadata⟩

/-! ### Building -/

/-- From settings that are allowed a processor is built. -/
theorem Processor.exists_build {L : PatternLanguage} {s : TaggingSettings} (h : s.check L = .ok ()) (hasEvents : Bool) :
    ∃ p, build L s true true hasEvents = .ok p := by
  obtain ⟨f, hf⟩ := AttributeFilter.exists_compile_iff.mpr (TaggingSettings.check_eq_ok_iff.mp h).2.1
  have henricher : Enricher.ofSettings (L := L) s =
      .ok { sources := s.containerIdSources, filter := f, flattener := s.flatten } := by
    rw [Enricher.ofSettings, h, TaggingSettings.filter, hf]
    rfl
  rw [build, h, henricher]
  exact ⟨_, rfl⟩

/-! ### Configurations -/

/-- All that is built from a configuration that is allowed. -/
structure Built (L : PatternLanguage) (c : Config) : Prop where
  /-- The processor, with or without a stream of container events. -/
  processor : ∀ hasEvents, ∃ p, Processor.build L c.tagging true true hasEvents = .ok p
  /-- The settings of the fetcher pass. -/
  fetcher : c.tagging.metadata.check = .ok ()
  /-- The log has one of the formats. -/
  log : c.general.checkLogFormat = .ok ()
  /-- Synchronisations are a second to an hour apart. -/
  interval : 1 ≤ c.metadata.refreshIntervalSecs.toNat ∧ c.metadata.refreshIntervalSecs.toNat ≤ 3600
  /-- This is the interval of the scheduler, and its loop never breaks. -/
  timed : ∀ hasEvents p, Processor.build L c.tagging true true hasEvents = .ok p → ∀ steps,
    (p.scheduler.run steps).Timed (c.metadata.refreshIntervalSecs.toNat * 1000)

/-- How the checks of a configuration stand to each other. -/
structure Buildable (L : PatternLanguage) (c : Config) : Prop where
  /-- The component allows the same metadata sources as the section. -/
  source_ok : c.metadata.checkSection = .ok () ↔ c.tagging.metadata.check = .ok ()
  /-- They name the same setting, of which the section gives the full name, with the same reason. -/
  source_error : ∀ e, c.metadata.checkSection = .error e ↔ ∃ field reason,
    e = .config (.invalidValue ("metadata." ++ field) reason) ∧
      c.tagging.metadata.check = .error (.config field reason)
  /-- A configuration is allowed as a whole if its sections are and all its patterns compile. -/
  whole : c.checkAll L = .ok () ↔ c.check = .ok () ∧ ∀ p ∈ c.enrichment.attributes, (L.compile p).isOk = true
  /-- If its sections are allowed and a pattern does not compile, the first such pattern is the cause. -/
  pattern : c.check = .ok () → (∃ p ∈ c.enrichment.attributes, (L.compile p).isOk = false) → ∃ pattern reason,
    L.FirstInvalid c.enrichment.attributes pattern reason ∧ c.tagging.check L = .error (.invalidPattern pattern reason)
  /-- If it is allowed as a whole, everything is built from it. -/
  built : c.checkAll L = .ok () → Built L c

namespace Config

variable {L : PatternLanguage} {c : Config}

theorem refreshInterval_of_check (h : c.metadata.fault? = none) :
    1 ≤ c.metadata.refreshIntervalSecs.toNat ∧ c.metadata.refreshIntervalSecs.toNat ≤ 3600 := by
  rw [SourceSettings.fault?, Option.or_eq_none_iff] at h
  exact SourceSettings.rangeFault?_eq_none_iff.mp h.1

theorem checkLogFormat_of_check (h : c.general.fault? = none) : c.general.checkLogFormat = .ok () := by
  rw [GeneralSettings.fault?, Option.or_eq_none_iff] at h
  have hformat : c.general.logFormat = "json" ∨ c.general.logFormat = "pretty" := by
    have hchoice := h.2
    rw [choiceFault?] at hchoice
    split at hchoice
    case isTrue hlisted => simpa [logFormats] using hlisted
    case isFalse => cases hchoice
  rw [GeneralSettings.checkLogFormat, if_pos hformat]

theorem built_of_checkAll (h : c.checkAll L = .ok ()) : Built L c := by
  obtain ⟨hcheck, hpatterns⟩ := checkAll_eq_ok_iff.mp h
  obtain ⟨hgeneral, hmetadata, henrichment, -⟩ := check_eq_ok_iff.mp hcheck
  have htagging : c.tagging.check L = .ok () :=
    TaggingSettings.check_eq_ok_iff.mpr ⟨sourceFault?_tagging_eq_none_iff.mpr henrichment, hpatterns, hmetadata⟩
  have hinterval := refreshInterval_of_check hmetadata
  exact {
    processor := Processor.exists_build htagging
    fetcher := SourceSettings.check_eq_ok_iff.mpr hmetadata
    log := checkLogFormat_of_check hgeneral
    interval := hinterval
    timed := fun hasEvents p hp steps => by
      obtain ⟨enricher, rfl⟩ := Processor.exists_of_build hp
      exact (Scheduler.timed_fresh _ _ _ _ _).run (by omega) steps }

/-- **A configuration that is allowed can be built**, whatever the language of patterns is, and the checks that
are made on the way never disagree. -/
theorem config_buildable (L : PatternLanguage) (c : Config) : Buildable L c where
  source_ok := by rw [SourceSettings.checkSection_eq_ok_iff, tagging, SourceSettings.check_eq_ok_iff]
  source_error _ := SourceSettings.checkSection_eq_error_iff
  whole := checkAll_eq_ok_iff
  pattern hcheck hpattern := by
    obtain ⟨p, hp, hinvalid⟩ := hpattern
    have hsources := sourceFault?_tagging_eq_none_iff.mpr (check_eq_ok_iff.mp hcheck).2.2.1
    rcases AttributeFilter.compile_cases L c.tagging.attributes with ⟨f, -, hall⟩ | ⟨pattern, reason, herror, hfirst⟩
    · exact absurd ((hall p hp).symm.trans hinvalid) (by simp)
    · exact ⟨pattern, reason, hfirst, TaggingSettings.check_of_firstInvalid hsources herror⟩
  built := built_of_checkAll

end Config

end LogTagger
