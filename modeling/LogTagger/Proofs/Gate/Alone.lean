import LogTagger.Proofs.Gate.Line

/-!
# A scheduler alone at its cache

When no one else uses the cache, the gate makes no difference: a cycle that gets its endpoints has its
turn at once, and the scheduler behind the gate is in the same state as one without it (`run_alone`).
-/

namespace LogTagger

/-- The step of a scheduler that no one keeps from its cache. -/
def SchedulerStep.alone : SchedulerStep → List SharedStep
  | .discovered (.ok target) => [.own (.discovered (.ok target)), .begin]
  | .fetched document => [.answer document]
  | step => [.own step]

namespace SharedCache

variable {s : SharedCache}

/-- At most the cycle stands in the line, and it has had its turn. -/
structure Alone (s : SharedCache) : Prop where
  gated : Gated s
  line : ∀ call ∈ s.line, call.user = .scheduler ∧ call.begun = true

theorem Alone.line_eq_nil (h : Alone s) (hfetching : ∀ trigger r, s.scheduler.activity ≠ .fetching trigger r) :
    s.line = [] := by
  refine List.eq_nil_iff_forall_not_mem.mpr fun call hcall => ?_
  obtain ⟨huser, hbegun⟩ := h.line call hcall
  obtain ⟨trigger, hactivity⟩ := h.gated.inside call hcall huser hbegun
  exact hfetching trigger _ hactivity

theorem Alone.begin (h : Alone s) : s.begin = s := by
  rw [SharedCache.begin]
  split
  · rfl
  case h_2 call rest hline => rw [if_pos (h.line call (by simp [hline])).2]

/-- The cycle that gets its endpoints has its turn at once. -/
theorem Alone.discovered (h : Alone s) (target : EndpointSet) :
    Alone (s.run [.own (.discovered (.ok target)), .begin]) ∧
      (s.run [.own (.discovered (.ok target)), .begin]).scheduler = s.scheduler.discovered (.ok target) := by
  have hgated := (h.gated.next (.own (.discovered (.ok target)))).next .begin
  by_cases hdiscovering : ∃ trigger, s.scheduler.activity = .discovering trigger
  · obtain ⟨trigger, hactivity⟩ := hdiscovering
    have hline : s.line = [] := h.line_eq_nil (by simp [hactivity])
    have hrun : s.run [.own (.discovered (.ok target)), .begin] =
        { s with line := [⟨.scheduler, target, false, []⟩] }.goOn ⟨.scheduler, target, true, []⟩ []
          (s.scheduler.discovered (.ok target)) := by
      simp [run, next, own, hactivity, enqueue, holds, hline, SharedCache.begin, CacheCall.opened,
        Scheduler.afterOpening]
    refine ⟨⟨hgated, ?_⟩, by rw [hrun, scheduler_goOn]⟩
    rw [hrun, goOn]
    split <;> simp
  · have hrun : s.run [.own (.discovered (.ok target)), .begin] = s := by
      rw [run_cons, next, own]
      split
      case h_1 trigger hactivity => exact absurd ⟨trigger, hactivity⟩ hdiscovering
      case h_2 => exact h.begin
    rw [hrun, Scheduler.discovered]
    refine ⟨h, ?_⟩
    split
    case h_1 trigger hactivity => exact absurd ⟨trigger, hactivity⟩ hdiscovering
    case h_2 => rfl

/-- A document goes to the cycle that has asked for it. -/
theorem Alone.answer (h : Alone s) (document : Except FetchError Json) :
    Alone (s.answer document) ∧ (s.answer document).scheduler = s.scheduler.fetched document := by
  have hgated := h.gated.next (.answer document)
  rw [next] at hgated
  rw [SharedCache.answer] at hgated ⊢
  split at hgated
  case h_1 hline =>
    refine ⟨⟨hgated, h.line⟩, ?_⟩
    rw [Scheduler.fetched]
    split
    case h_1 trigger r hactivity =>
      obtain ⟨call, hcall, -⟩ := h.gated.fetching trigger r hactivity
      rw [hline] at hcall
      cases hcall
    case h_2 => rfl
  case h_2 call rest hline =>
    have hfront := h.line call (by simp [hline])
    rw [if_pos hfront.2] at hgated ⊢
    have hrest : ∀ c ∈ rest, c.user = .scheduler ∧ c.begun = true := fun c hc => h.line c (by simp [hline, hc])
    refine ⟨⟨hgated, ?_⟩, ?_⟩
    · rw [goOn]
      split
      · exact hrest
      · exact List.forall_mem_cons.mpr ⟨hfront, hrest⟩
    · rw [scheduler_goOn, Scheduler.afterAnswer]
      simp [CacheCall.answered, hfront.1]

theorem Alone.step (h : Alone s) (step : SchedulerStep) :
    Alone (s.run step.alone) ∧ (s.run step.alone).scheduler = s.scheduler.next step := by
  have hquiet : (∀ answer, step ≠ .discovered answer) → (∀ answer, step ≠ .fetched answer) → step ≠ .stop →
      Alone (s.own step) ∧ (s.own step).scheduler = s.scheduler.next step := by
    intro hdiscovered hfetched hstop
    have hgated := h.gated.own step
    rw [own_eq_next s hdiscovered hfetched hstop] at hgated ⊢
    exact ⟨⟨hgated, h.line⟩, rfl⟩
  cases step with
  | discovered answer =>
    cases answer with
    | ok target => exact h.discovered target
    | error cause =>
      have hgated := h.gated.own (.discovered (.error cause))
      change Alone (s.own (.discovered (.error cause))) ∧ (s.own (.discovered (.error cause))).scheduler = _
      rw [own] at hgated ⊢
      split at hgated
      case isTrue hholds =>
        obtain ⟨call, hcall, huser⟩ := holds_iff.mp hholds
        obtain ⟨trigger, hactivity⟩ := h.gated.inside call hcall huser (h.line call hcall).2
        rw [if_pos hholds, Scheduler.next, Scheduler.discovered, hactivity]
        exact ⟨h, rfl⟩
      case isFalse hholds =>
        rw [if_neg hholds]
        exact ⟨⟨hgated, h.line⟩, rfl⟩
  | fetched document => exact h.answer document
  | stop =>
    have hgated := h.gated.own .stop
    change Alone (s.own .stop) ∧ (s.own .stop).scheduler = _
    rw [own] at hgated ⊢
    cases hstop : s.scheduler.stop with
    | ok stopped =>
      rw [hstop] at hgated
      refine ⟨⟨hgated, fun call hcall => h.line call (List.filter_sublist.subset hcall)⟩, ?_⟩
      rw [Scheduler.next_stop_of_ok hstop]
      rfl
    | error e => exact ⟨h, (Scheduler.next_stop_of_error hstop).symm⟩
  | _ => exact hquiet (by simp) (by simp) (by simp)

/-- **A scheduler alone at its cache** moves as it does without a gate. -/
theorem run_alone (interval now : Nat) (cache : DocumentCache) (events : EventQueue) (metrics : Metrics)
    (steps : List SchedulerStep) :
    (run { scheduler := .fresh interval now cache events metrics } (steps.flatMap SchedulerStep.alone)).scheduler =
      (Scheduler.fresh interval now cache events metrics).run steps := by
  have hrun : ∀ (steps : List SchedulerStep) (s : SharedCache), Alone s →
      (s.run (steps.flatMap SchedulerStep.alone)).scheduler = s.scheduler.run steps := by
    intro steps
    induction steps with
    | nil => exact fun s _ => rfl
    | cons step rest ih =>
      intro s h
      obtain ⟨halone, hstep⟩ := h.step step
      rw [List.flatMap_cons, run_append, ih _ halone, hstep, Scheduler.run_cons]
  exact hrun steps _ ⟨gated_fresh interval now cache events metrics, by simp⟩

end SharedCache

end LogTagger
