import LogTagger.Health
import Mathlib

/-!
# The worst health

The health of the daemon is found in one pass over its modules: a module that is worse than all before it makes what
was found worthless, one that is better is passed over, and one that is as bad adds its complaint. What has been found
is the worst severity of the enabled modules so far, with the complaints of exactly those that have it, in their order
(`Found`). Each module keeps this so (`Found.worse`), whatever has come before it.

**`ofModules_aggregates`** reads the health of the daemon off the end of the pass: it is that of the worst modules and
tells of exactly those, the other modules do not matter, and its severity does not depend on their order.
-/

namespace LogTagger

namespace HealthStatus

/-- Whether the component works, but not as it should. -/
def isDegraded : HealthStatus → Bool
  | .degraded _ => true
  | _ => false

/-! ### Severities -/

theorem severity_le_two (status : HealthStatus) : status.severity ≤ 2 := by
  cases status <;> simp [severity]

theorem severity_eq_two_iff {status : HealthStatus} : status.severity = 2 ↔ status.isUnhealthy = true := by
  cases status <;> simp [severity, isUnhealthy]

theorem severity_le_one_iff {status : HealthStatus} : status.severity ≤ 1 ↔ status.isUnhealthy = false := by
  cases status <;> simp [severity, isUnhealthy]

theorem severity_eq_one_iff {status : HealthStatus} : status.severity = 1 ↔ status.isDegraded = true := by
  cases status <;> simp [severity, isDegraded]

theorem severity_eq_zero_iff {status : HealthStatus} :
    status.severity = 0 ↔ status.isUnhealthy = false ∧ status.isDegraded = false := by
  cases status <;> simp [severity, isUnhealthy, isDegraded]

/-- The enabled modules that are not well and have a severity, in their order. -/
def gravest (severity : Nat) (modules : List ModuleHealth) : List ModuleHealth :=
  modules.filter fun m => m.enabled = true ∧ m.status.severity = severity ∧ severity ≠ 0

theorem gravest_concat (severity : Nat) (modules : List ModuleHealth) (m : ModuleHealth) :
    gravest severity (modules ++ [m]) = gravest severity modules ++
      if m.enabled = true ∧ m.status.severity = severity ∧ severity ≠ 0 then [m] else [] := by
  simp only [gravest, List.filter_append, List.filter_singleton, Bool.cond_decide]

theorem mem_gravest_iff {severity : Nat} {modules : List ModuleHealth} {m : ModuleHealth} :
    m ∈ gravest severity modules ↔ m ∈ modules ∧ m.enabled = true ∧ m.status.severity = severity ∧ severity ≠ 0 := by
  rw [gravest, List.mem_filter, decide_eq_true_eq]

/-- Nobody has a severity that is worse than all. -/
theorem gravest_eq_nil {severity : Nat} {modules : List ModuleHealth}
    (h : ∀ m ∈ modules, m.enabled = true → m.status.severity < severity) : gravest severity modules = [] := by
  rw [List.eq_nil_iff_forall_not_mem]
  intro m hm
  obtain ⟨hmem, henabled, heq, -⟩ := mem_gravest_iff.mp hm
  exact absurd heq (h m hmem henabled).ne

theorem gravest_two (modules : List ModuleHealth) :
    gravest 2 modules = modules.filter fun m => m.enabled && m.status.isUnhealthy := by
  refine List.filter_congr fun m _ => ?_
  cases m.status <;> cases m.enabled <;> rfl

theorem gravest_one (modules : List ModuleHealth) :
    gravest 1 modules = modules.filter fun m => m.enabled && m.status.isDegraded := by
  refine List.filter_congr fun m _ => ?_
  cases m.status <;> cases m.enabled <;> rfl

/-! ### The pass over the modules -/

/-- What has been found after some modules. -/
structure Found (modules : List ModuleHealth) (found : Nat × List String) : Prop where
  /-- No enabled module is worse. -/
  bound : ∀ m ∈ modules, m.enabled = true → m.status.severity ≤ found.1
  /-- Some enabled module is as bad, unless all are well. -/
  reached : found.1 ≠ 0 → ∃ m ∈ modules, m.enabled = true ∧ m.status.severity = found.1
  /-- The complaints are those of the modules that are as bad. -/
  complaints : found.2 = (gravest found.1 modules).map ModuleHealth.complaint

/-- All that a module does to what has been found. -/
theorem worse_cases (found : Nat × List String) (m : ModuleHealth) :
    (worse found m = found ∧ (m.enabled = true → m.status.severity ≤ found.1) ∧
      ¬ (m.enabled = true ∧ m.status.severity = found.1 ∧ found.1 ≠ 0)) ∨
    (worse found m = (m.status.severity, [m.complaint]) ∧ m.enabled = true ∧ found.1 < m.status.severity) ∨
    (worse found m = (found.1, found.2 ++ [m.complaint]) ∧ m.enabled = true ∧ m.status.severity = found.1 ∧
      found.1 ≠ 0) := by
  unfold worse
  by_cases hpassed : m.enabled = true ∧ found.1 ≤ m.status.severity ∧ m.status.severity ≠ 0
  · obtain ⟨henabled, hle, hzero⟩ := hpassed
    by_cases hlt : found.1 < m.status.severity
    · refine .inr (.inl ⟨?_, henabled, hlt⟩)
      simp [henabled, hlt, hzero, not_lt.mpr hle]
    · have heq : m.status.severity = found.1 := by omega
      refine .inr (.inr ⟨?_, henabled, heq, heq ▸ hzero⟩)
      simp [henabled, heq, heq ▸ hzero]
  · refine .inl ⟨?_, fun henabled => ?_, fun ⟨henabled, heq, hzero⟩ => ?_⟩
    · rw [if_pos]
      simp only [Bool.or_eq_true, Bool.not_eq_true', decide_eq_true_eq, beq_iff_eq]
      by_contra hall
      simp only [not_or, Bool.not_eq_false, not_lt] at hall
      exact hpassed ⟨hall.1.1, hall.1.2, hall.2⟩
    · by_contra hgt
      exact hpassed ⟨henabled, by omega, by omega⟩
    · exact hpassed ⟨henabled, by omega, by omega⟩

section Pass

variable {modules : List ModuleHealth} {found : Nat × List String}

theorem found_nil : Found [] (0, []) where
  bound := by simp
  reached := fun h => absurd rfl h
  complaints := rfl

/-- One more module keeps it so. -/
theorem Found.worse (h : Found modules found) (m : ModuleHealth) : Found (modules ++ [m]) (worse found m) := by
  obtain ⟨heq, hle, hother⟩ | ⟨heq, henabled, hlt⟩ | ⟨heq, henabled, hsame, hzero⟩ := worse_cases found m
  · -- The module is disabled, well or less severe than some before it.
    rw [heq]
    refine ⟨?_, fun hzero => ?_, ?_⟩
    · exact List.forall_mem_append.mpr ⟨h.bound, List.forall_mem_singleton.mpr hle⟩
    · obtain ⟨m', hm', hreached⟩ := h.reached hzero
      exact ⟨m', List.mem_append_left _ hm', hreached⟩
    · rw [gravest_concat, if_neg hother, List.append_nil]
      exact h.complaints
  · -- It is worse than all before it, whose complaints are given up.
    rw [heq]
    refine ⟨?_, fun _ => ⟨m, by simp, henabled, rfl⟩, ?_⟩
    · refine List.forall_mem_append.mpr ⟨fun m' hm' henabled' => ?_, List.forall_mem_singleton.mpr fun _ => le_rfl⟩
      exact (h.bound m' hm' henabled').trans hlt.le
    · have hnone : gravest m.status.severity modules = [] :=
        gravest_eq_nil fun m' hm' henabled' => (h.bound m' hm' henabled').trans_lt hlt
      rw [gravest_concat, hnone, if_pos ⟨henabled, rfl, by omega⟩]
      rfl
  · -- It is as bad as the worst before it.
    rw [heq]
    refine ⟨?_, fun _ => ⟨m, by simp, henabled, hsame⟩, ?_⟩
    · exact List.forall_mem_append.mpr ⟨h.bound, List.forall_mem_singleton.mpr fun _ => hsame.le⟩
    · rw [gravest_concat, if_pos ⟨henabled, hsame, hzero⟩, List.map_append, ← h.complaints]
      rfl

/-- The pass over all modules. -/
theorem found_foldl (modules : List ModuleHealth) : Found modules (modules.foldl HealthStatus.worse (0, [])) := by
  induction modules using List.reverseRecOn with
  | nil => exact found_nil
  | append_singleton before m ih =>
    rw [List.foldl_concat]
    exact ih.worse m

/-! ### The end of the pass -/

theorem Found.le_two (h : Found modules found) : found.1 ≤ 2 := by
  by_cases hzero : found.1 = 0
  · omega
  · obtain ⟨m, -, -, hm⟩ := h.reached hzero
    rw [← hm]
    exact severity_le_two m.status

theorem Found.severity_eq (h : Found modules found) : (ofSeverity found.1 found.2).severity = found.1 := by
  obtain ⟨s, complaints⟩ := found
  have hle : s ≤ 2 := h.le_two
  interval_cases s <;> rfl

end Pass

/-- No enabled module is worse than the daemon. -/
theorem severity_le_ofModules {modules : List ModuleHealth} {m : ModuleHealth} (hm : m ∈ modules)
    (henabled : m.enabled = true) : m.status.severity ≤ (ofModules modules).severity := by
  have hfound := found_foldl modules
  rw [ofModules, hfound.severity_eq]
  exact hfound.bound m hm henabled

/-- Unless all is well some module is as bad as the daemon. -/
theorem exists_mem_gravest {modules : List ModuleHealth} (h : (ofModules modules).severity ≠ 0) :
    ∃ m, m ∈ gravest (ofModules modules).severity modules := by
  have hfound := found_foldl modules
  rw [ofModules, hfound.severity_eq] at h ⊢
  obtain ⟨m, hm, henabled, heq⟩ := hfound.reached h
  exact ⟨m, mem_gravest_iff.mpr ⟨hm, henabled, heq, h⟩⟩

/-- The severity of the daemon is the least bound on those of the enabled modules. -/
theorem severity_ofModules_le {modules : List ModuleHealth} {bound : Nat}
    (h : ∀ m ∈ modules, m.enabled = true → m.status.severity ≤ bound) : (ofModules modules).severity ≤ bound := by
  by_cases hzero : (ofModules modules).severity = 0
  · omega
  · obtain ⟨m, hm⟩ := exists_mem_gravest hzero
    obtain ⟨hmem, henabled, heq, -⟩ := mem_gravest_iff.mp hm
    rw [← heq]
    exact h m hmem henabled

/-- The daemon tells of the worst modules. -/
theorem ofModules_eq_ofSeverity {modules : List ModuleHealth} {severity : Nat}
    (h : (ofModules modules).severity = severity) :
    ofModules modules = ofSeverity severity ((gravest severity modules).map ModuleHealth.complaint) := by
  have hfound := found_foldl modules
  have hsame : (modules.foldl worse (0, [])).1 = severity := by rw [← h, ofModules, hfound.severity_eq]
  rw [ofModules, hfound.complaints, hsame]

/-- The health of modules is the worst among the enabled ones, with exactly their complaints. -/
structure Aggregates (modules : List ModuleHealth) (status : HealthStatus) : Prop where
  /-- If an enabled module does not work, those that do not work are told of. -/
  unhealthy : (∃ m ∈ modules, m.enabled = true ∧ m.status.isUnhealthy = true) →
    status = .unhealthy ("; ".intercalate
      ((modules.filter fun m => m.enabled && m.status.isUnhealthy).map fun m => m.name ++ ": " ++ m.status.reason))
  /-- Otherwise, if an enabled module works, but not as it should, those are told of. -/
  degraded : (∀ m ∈ modules, m.enabled = true → m.status.isUnhealthy = false) →
    (∃ m ∈ modules, m.enabled = true ∧ m.status.isDegraded = true) →
    status = .degraded ("; ".intercalate
      ((modules.filter fun m => m.enabled && m.status.isDegraded).map fun m => m.name ++ ": " ++ m.status.reason))
  /-- Otherwise all is well. -/
  healthy : (∀ m ∈ modules, m.enabled = true → m.status.isUnhealthy = false ∧ m.status.isDegraded = false) →
    status = .healthy
  /-- Only the worst modules matter: with the same of them, and any others that are disabled or less severe, put in
  anywhere or left out, the health is the same. -/
  decisive : ∀ others, gravest status.severity others = gravest status.severity modules →
    (∀ m ∈ others, m.enabled = true → m.status.severity ≤ status.severity) → ofModules others = status
  /-- The severity does not depend on the order. -/
  unordered : ∀ others, others.Perm modules → (ofModules others).severity = status.severity

/-- **The health of the daemon** is the worst of its enabled modules and tells of exactly the modules that have it. -/
theorem ofModules_aggregates (modules : List ModuleHealth) : Aggregates modules (ofModules modules) := by
  refine ⟨?unhealthy, ?degraded, ?healthy, ?decisive, ?unordered⟩
  case unhealthy =>
    rintro ⟨m, hm, henabled, hbad⟩
    have hle : m.status.severity ≤ (ofModules modules).severity := severity_le_ofModules hm henabled
    rw [severity_eq_two_iff.mpr hbad] at hle
    have htwo : (ofModules modules).severity = 2 := le_antisymm (severity_le_two _) hle
    rw [ofModules_eq_ofSeverity htwo, gravest_two]
    rfl
  case degraded =>
    rintro hnone ⟨m, hm, henabled, hbad⟩
    have hle : m.status.severity ≤ (ofModules modules).severity := severity_le_ofModules hm henabled
    rw [severity_eq_one_iff.mpr hbad] at hle
    have hone : (ofModules modules).severity = 1 := by
      refine le_antisymm (severity_ofModules_le fun m' hm' henabled' => ?_) hle
      exact severity_le_one_iff.mpr (hnone m' hm' henabled')
    rw [ofModules_eq_ofSeverity hone, gravest_one]
    rfl
  case healthy =>
    intro hall
    have hzero : (ofModules modules).severity = 0 := by
      refine Nat.le_zero.mp (severity_ofModules_le fun m hm henabled => ?_)
      exact (severity_eq_zero_iff.mpr (hall m hm henabled)).le
    rw [ofModules_eq_ofSeverity hzero]
    rfl
  case decisive =>
    intro others hsame hbound
    have hle : (ofModules others).severity ≤ (ofModules modules).severity := severity_ofModules_le hbound
    have hge : (ofModules modules).severity ≤ (ofModules others).severity := by
      by_cases hzero : (ofModules modules).severity = 0
      · omega
      · obtain ⟨m, hm⟩ := exists_mem_gravest hzero
        rw [← hsame] at hm
        obtain ⟨hmem, henabled, heq, -⟩ := mem_gravest_iff.mp hm
        rw [← heq]
        exact severity_le_ofModules hmem henabled
    rw [ofModules_eq_ofSeverity (le_antisymm hle hge), hsame, ← ofModules_eq_ofSeverity rfl]
  case unordered =>
    intro others hperm
    refine le_antisymm (severity_ofModules_le fun m hm henabled => ?_) (severity_ofModules_le fun m hm henabled => ?_)
    · exact severity_le_ofModules (hperm.mem_iff.mp hm) henabled
    · exact severity_le_ofModules (hperm.mem_iff.mpr hm) henabled

example : ofModules [⟨"a", true, .degraded "slow"⟩, ⟨"b", true, .unhealthy "stopped"⟩, ⟨"c", true, .degraded "late"⟩,
    ⟨"d", false, .unhealthy "off"⟩, ⟨"e", true, .unhealthy "closed"⟩] = .unhealthy "b: stopped; e: closed" := by
  decide

end HealthStatus

end LogTagger
