import LogTagger.Config.Loading

/-!
# Checks

What it means that a check of settings succeeds or fails. A configuration is checked section by section
(`Config.check_eq_sections`), and the rules of a component of which a section tells are those of the section,
though they are written anew: **`SourceSettings.checkSection_eq_error_iff`** for the metadata source, and
`Config.sourceFault?_tagging_eq_none_iff` for the attributes in which an id is sought, where the section and
the component look for a blank name in different ways.
-/

namespace LogTagger

/-! ### Checks -/

section Checks

variable {ε : Type} {word : SettingFault → ε}

theorem checkFault_eq_ok_iff {f : Option SettingFault} : checkFault word f = .ok () ↔ f = none := by
  cases f <;> simp [checkFault]

theorem checkFault_eq_error_iff {f : Option SettingFault} {e : ε} :
    checkFault word f = .error e ↔ ∃ fault, f = some fault ∧ e = word fault := by
  cases f <;> simp [checkFault, eq_comm]

/-- The first of two faults is that of the first check that fails. -/
theorem checkFault_or (f g : Option SettingFault) :
    checkFault word (f.or g) = (do checkFault word f; checkFault word g) := by
  cases f <;> rfl

end Checks

theorem bind_eq_ok_iff {ε α β : Type} {first : Except ε α} {second : α → Except ε β} {b : β} :
    first >>= second = .ok b ↔ ∃ a, first = .ok a ∧ second a = .ok b := by
  cases first <;> simp [Bind.bind, Except.bind]

/-- One check after the other succeeds if both do. -/
theorem check_bind_eq_ok_iff {ε β : Type} {first : Except ε Unit} {second : Unit → Except ε β} {b : β} :
    first >>= second = .ok b ↔ first = .ok () ∧ second () = .ok b := by
  rw [bind_eq_ok_iff]
  exact ⟨fun ⟨_, h⟩ => h, fun h => ⟨(), h⟩⟩

theorem check_bind_eq_error_iff {ε β : Type} {first : Except ε Unit} {second : Unit → Except ε β} {e : ε} :
    first >>= second = .error e ↔ first = .error e ∨ first = .ok () ∧ second () = .error e := by
  cases first <;> simp [Bind.bind, Except.bind]

theorem mapError_eq_ok_iff {ε ε' α : Type} {word : ε → ε'} {check : Except ε α} {a : α} :
    check.mapError word = .ok a ↔ check = .ok a := by
  cases check with
  | error e => exact ⟨nofun, nofun⟩
  | ok b => exact ⟨fun h => congrArg Except.ok (Except.ok.inj h), fun h => congrArg Except.ok (Except.ok.inj h)⟩

/-! ### Sections and components -/

namespace SourceSettings

/-- The rules of the component are those of the section. -/
theorem partFault?_eq (s : SourceSettings) : s.partFault? = s.fault? := rfl

theorem checkSection_eq_ok_iff {s : SourceSettings} : s.checkSection = .ok () ↔ s.fault? = none := by
  rw [checkSection, checkFault_eq_ok_iff, Option.map_eq_none_iff]

theorem check_eq_ok_iff {s : SourceSettings} : s.check = .ok () ↔ s.fault? = none := by
  rw [check, checkFault_eq_ok_iff, partFault?_eq]

/-- Where the section fails the component fails for the same reason, and the other way round. -/
theorem checkSection_eq_error_iff {s : SourceSettings} {e : Error} :
    s.checkSection = .error e ↔ ∃ field reason, e = .config (.invalidValue ("metadata." ++ field) reason) ∧
      s.check = .error (.config field reason) := by
  rw [checkSection, check, partFault?_eq, checkFault_eq_error_iff]
  cases s.fault? with
  | none => simp [checkFault]
  | some f =>
    simp only [Option.map_some, Option.some.injEq, exists_eq_left', checkFault, Except.error.injEq,
      SourceError.config.injEq, SettingFault.toError, SettingFault.within]
    constructor
    · rintro rfl
      exact ⟨f.field, f.reason, rfl, rfl, rfl⟩
    · rintro ⟨-, -, rfl, rfl, rfl⟩
      rfl

theorem rangeFault?_eq_none_iff {field : String} {value : UInt64} {greatest : Nat} :
    rangeFault? field value greatest = none ↔ 1 ≤ value.toNat ∧ value.toNat ≤ greatest := by
  rw [rangeFault?]
  split <;> simp_all

end SourceSettings

namespace Config

/-- A configuration is checked section by section. -/
theorem check_eq_sections (c : Config) : c.check = (do
    checkFault SettingFault.toError (c.general.fault?.map (·.within "general"))
    c.metadata.checkSection
    checkFault SettingFault.toError (c.enrichment.fault?.map (·.within "enrichment"))
    checkFault SettingFault.toError (c.metrics.fault?.map (·.within "metrics"))) := by
  rw [check, fault?, checkFault_or, checkFault_or, checkFault_or]
  rfl

/-- It is allowed if each of its sections is. -/
theorem check_eq_ok_iff {c : Config} : c.check = .ok () ↔
    c.general.fault? = none ∧ c.metadata.fault? = none ∧ c.enrichment.fault? = none ∧ c.metrics.fault? = none := by
  simp only [check_eq_sections, check_bind_eq_ok_iff, checkFault_eq_ok_iff, SourceSettings.checkSection_eq_ok_iff,
    Option.map_eq_none_iff]

/-- The two ways to look for a blank name find one in the same configurations. -/
theorem sourceFault?_tagging_eq_none_iff {c : Config} :
    c.tagging.sourceFault? = none ↔ c.enrichment.fault? = none := by
  rw [TaggingSettings.sourceFault?, EnrichmentSettings.fault?, tagging]
  split
  · simp
  · simp [List.findIdx?_eq_none_iff]

end Config

/-! ### Loading -/

namespace Config

variable {c : Config}

theorem ofText_eq_ok_iff {s : String} :
    ofText s = .ok c ↔ ∃ root, Toml.read? s = some root ∧ ofToml? root = some c := by
  rw [ofText]
  cases hroot : Toml.read? s with
  | none => simp
  | some root =>
    cases hc : ofToml? root <;> simp [hc]

/-- The settings in a file are allowed by themselves. -/
theorem ofFile_eq_ok_iff {path : String} {content : FileContent} : ofFile path content = .ok c ↔
    ∃ text, textOf path content = .ok text ∧ ofText text = .ok c ∧ c.check = .ok () := by
  rw [ofFile, bind_eq_ok_iff]
  constructor
  · rintro ⟨text, htext, h⟩
    obtain ⟨c', hc', h⟩ := bind_eq_ok_iff.mp h
    obtain ⟨hcheck, hpure⟩ := check_bind_eq_ok_iff.mp h
    cases hpure
    exact ⟨text, htext, hc', hcheck⟩
  · rintro ⟨text, htext, hc, hcheck⟩
    exact ⟨text, htext, bind_eq_ok_iff.mpr ⟨c, hc, check_bind_eq_ok_iff.mpr ⟨hcheck, rfl⟩⟩⟩

/-- So are those that come out. -/
theorem load_eq_ok_iff {path : String} {content : FileContent} {env : Environment} : load path content env = .ok c ↔
    ∃ base, ofFile path content = .ok base ∧ c = base.overriddenBy env ∧ c.check = .ok () := by
  rw [load, bind_eq_ok_iff]
  constructor
  · rintro ⟨base, hbase, h⟩
    obtain ⟨hcheck, hpure⟩ := check_bind_eq_ok_iff.mp h
    cases hpure
    exact ⟨base, hbase, rfl, hcheck⟩
  · rintro ⟨base, hbase, rfl, hcheck⟩
    exact ⟨base, hbase, check_bind_eq_ok_iff.mpr ⟨hcheck, rfl⟩⟩

end Config

end LogTagger
