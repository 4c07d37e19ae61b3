import LogTagger.Proofs.Gate.Moves

/-!
# How far a cycle has come

While a cycle waits for an answer, cache and ledger are what the commits of other users have made of
those at its beginning. When it comes to its outcome, it has made of them all that its endpoints and
documents make, and what the ledger will be when that is told is from then on again changed by the
commits of others alone.

The invariant is `Progress`, which says how far the cycle has come after some steps: `Progress.next`
is the step, `Progress.run` the run.
-/

namespace LogTagger

/-- Steps brought the endpoints and then the documents that a call of the cycle has got, in order. -/
def CacheCall.Provided (steps : List SharedStep) (call : CacheCall) : Prop :=
  (.own (.discovered (.ok call.target)) :: call.answers.map .answer).Sublist steps

/-- Commits of other users lead from a ledger to another; each is that of a whole reconciliation of the
cache that it found. -/
inductive Visits (before : Ledger) : List Commit → Ledger → Prop
  | nil : Visits before [] before
  | concat {commits : List Commit} {l : Ledger} (c : Commit) (visits : Visits before commits l)
      (user : c.call.user ≠ .scheduler) (complete : c.Complete l.cache) : Visits before (commits ++ [c]) (l.commit c)

/-- A cycle came to its outcome, and with the commits of other users before that it led from a ledger to
the one that there is when the outcome has been told. -/
inductive CycleEnd (before : Ledger) (trigger : SyncTrigger) (steps : List SharedStep) : List Commit → Ledger → Prop
  /-- It got no endpoints. -/
  | failed {others : List Commit} {l : Ledger} (cause : SourceError) (visits : Visits before others l)
      (answer : .own (.discovered (.error cause)) ∈ steps) :
      CycleEnd before trigger steps others (l.endCycle trigger (.error cause))
  /-- It was committed. -/
  | committed {others : List Commit} {l : Ledger} (c : Commit) (visits : Visits before others l)
      (user : c.call.user = .scheduler) (provided : c.call.Provided steps) (complete : c.Complete l.cache) :
      CycleEnd before trigger steps (others ++ [c]) ((l.commit c).endCycle trigger c.outcome)

theorem CacheCall.Provided.concat {steps : List SharedStep} {call : CacheCall} (h : call.Provided steps)
    (step : SharedStep) : call.Provided (steps ++ [step]) :=
  List.Sublist.trans h (List.sublist_append_left steps [step])

theorem CycleEnd.concat {before after : Ledger} {trigger : SyncTrigger} {steps : List SharedStep}
    {commits : List Commit} (h : CycleEnd before trigger steps commits after) (step : SharedStep) :
    CycleEnd before trigger (steps ++ [step]) commits after := by
  cases h with
  | failed cause visits answer => exact .failed cause visits (List.mem_append_left _ answer)
  | committed c visits user provided complete => exact .committed c visits user (provided.concat step) complete

namespace SharedCache

variable {s before : SharedCache} {trigger : SyncTrigger} {steps : List SharedStep}

/-! ### What the calls have got -/

/-- A call of the cycle that stands in the line after a step stood there before it, or has just come
with the endpoints. -/
theorem mem_line_next {step : SharedStep} {call : CacheCall} (hcall : call ∈ (s.next step).line)
    (huser : call.user = .scheduler) :
    call ∈ s.line ∨ (∃ old ∈ s.line, Gains step.documents old call) ∨
      (step = .own (.discovered (.ok call.target)) ∧ call.answers = [] ∧
        ∃ trigger, s.scheduler.activity = .discovering trigger) := by
  have henqueue : ∀ user target, call ∈ (s.enqueue user target).line →
      call ∈ s.line ∨ call = ⟨user, target, false, []⟩ := by
    intro user target h
    rw [enqueue] at h
    split at h
    · exact .inl h
    · simpa using h
  have hgoOn : ∀ old new rest moved documents, s.line = old :: rest → Gains documents old new →
      call ∈ (s.goOn new rest moved).line → call ∈ s.line ∨ ∃ old ∈ s.line, Gains documents old call := by
    intro old new rest moved documents hline hgains h
    rw [hline]
    rw [goOn] at h
    split at h
    · exact .inl (List.mem_cons_of_mem _ h)
    · rcases List.mem_cons.mp h with rfl | h
      · exact .inr ⟨old, List.mem_cons_self, hgains⟩
      · exact .inl (List.mem_cons_of_mem _ h)
  cases step with
  | own step =>
    by_cases hdiscovered : ∃ answer, step = .discovered answer
    · obtain ⟨answer, rfl⟩ := hdiscovered
      cases answer with
      | ok target =>
        rw [next, own] at hcall
        split at hcall
        case h_1 trigger hactivity =>
          rcases henqueue _ _ hcall with h | rfl
          · exact .inl h
          · exact .inr (.inr ⟨rfl, rfl, trigger, hactivity⟩)
        case h_2 => exact .inl hcall
      | error cause =>
        rw [next, own] at hcall
        split at hcall <;> exact .inl hcall
    · left
      rw [next, own.eq_def] at hcall
      split at hcall
      case h_4 =>
        split at hcall
        · exact List.filter_sublist.subset hcall
        · exact hcall
      all_goals first | exact hcall | exact absurd ⟨_, rfl⟩ hdiscovered
  | call id target =>
    rcases henqueue _ _ hcall with h | rfl
    · exact .inl h
    · cases huser
  | begin =>
    rw [next, begin] at hcall
    split at hcall
    · exact .inl hcall
    case h_2 old rest hline =>
      split at hcall
      · exact .inl hcall
      · exact (hgoOn old old.opened rest _ [] hline ⟨rfl, rfl, rfl, by simp [CacheCall.opened]⟩ hcall).imp id .inl
  | answer document =>
    rw [next, answer] at hcall
    split at hcall
    · exact .inl hcall
    case h_2 old rest hline =>
      split at hcall
      case isTrue hbegun =>
        exact (hgoOn old (old.answered document) rest _ [document] hline ⟨rfl, rfl, hbegun, rfl⟩ hcall).imp id .inl
      case isFalse => exact .inl hcall
  | abandon id => exact .inl (List.filter_sublist.subset hcall)

theorem map_answer_documents_sublist (step : SharedStep) : (step.documents.map SharedStep.answer).Sublist [step] := by
  cases step <;> simp [SharedStep.documents]

theorem Gains.provided {step : SharedStep} {old call : CacheCall} (h : Gains step.documents old call)
    (hold : old.Provided steps) : call.Provided (steps ++ [step]) := by
  rw [CacheCall.Provided, h.target, h.answers, List.map_append, ← List.cons_append]
  exact hold.append (map_answer_documents_sublist step)

/-- What a call of the cycle has got after a step is what the steps up to then have brought. -/
theorem provided_next (h : ∀ call ∈ s.line, call.user = .scheduler → call.Provided steps) (step : SharedStep) :
    ∀ call ∈ (s.next step).line, call.user = .scheduler → call.Provided (steps ++ [step]) := by
  intro call hcall huser
  rcases mem_line_next hcall huser with hold | ⟨old, hold, hgains⟩ | ⟨rfl, hanswers, -⟩
  · exact (h call hold huser).concat step
  · exact hgains.provided (h old hold (hgains.user.symm.trans huser))
  · rw [CacheCall.Provided, hanswers]
    exact List.sublist_append_right steps _

/-! ### How far a cycle has come -/

/-- How far a cycle has come after some steps, which began with a state. -/
inductive Progress (before : SharedCache) (trigger : SyncTrigger) (steps : List SharedStep) (s : SharedCache) : Prop
  /-- It waits for an answer, and only other users have changed the ledger. -/
  | underWay (others : List Commit) (busy : s.scheduler.activity.awaiting? = some trigger)
      (commits : s.commits = before.commits ++ others)
      (visits : Visits before.scheduler.told others s.scheduler.told)
      (provided : ∀ call ∈ s.line, call.user = .scheduler → call.Provided steps)
      (count : s.scheduler.discoveryCount = before.scheduler.discoveryCount + 1)
  /-- It has come to its outcome, and only other users have changed since what is told of it or will be. -/
  | ended (upTo later : List Commit) (l : Ledger) (waits : s.scheduler.activity.awaiting? = none)
      (commits : s.commits = before.commits ++ (upTo ++ later))
      (cycle : CycleEnd before.scheduler.told trigger steps upTo l) (visits : Visits l later s.scheduler.told)
      (count : s.scheduler.discoveryCount = before.scheduler.discoveryCount + 1)
  /-- The scheduler has been stopped, or has begun another cycle. -/
  | past (after : s.scheduler.phase = .stopped ∨ before.scheduler.discoveryCount + 1 < s.scheduler.discoveryCount)

theorem Gated.activity_of_stopped (h : Gated s) (hphase : s.scheduler.phase = .stopped) :
    s.scheduler.activity = .waiting :=
  h.orderly.waits (by simp [hphase]) (by simp [hphase])

/-- Nothing leads out of the stage after the stop, and nothing is asked for in it. -/
theorem Gated.stopped_next (h : Gated s) (hphase : s.scheduler.phase = .stopped) (step : SharedStep) :
    (s.next step).scheduler.phase = .stopped ∧ (s.next step).scheduler.journal = s.scheduler.journal := by
  rcases next_scheduler s step with hmove | hvisited
  · have hstopped := Scheduler.Stopped.move ⟨hphase, h.activity_of_stopped hphase, rfl, rfl⟩ hmove
    exact ⟨hstopped.phase, hstopped.journal⟩
  · exact ⟨hvisited.phase.trans hphase, hvisited.journal⟩

theorem Progress.next (hgated : Gated s) (h : Progress before trigger steps s) (step : SharedStep) :
    Progress before trigger (steps ++ [step]) (s.next step) := by
  have hmove := next_move hgated step
  cases h with
  | underWay others busy commits visits provided count =>
    have hprovided := provided_next provided step
    cases hmove with
    | rests cycle' commits' told' count' =>
      exact .underWay others (cycle'.trans busy) (commits'.trans commits) (told' ▸ visits) hprovided
        (count'.trans count)
    | begins count' commits' told' => exact .past (.inr (by omega))
    | stops phase' activity' commits' told' => exact .past (.inl phase')
    | visits c user complete cycle' commits' told' count' =>
      refine .underWay (others ++ [c]) (cycle'.trans busy) ?_ ?_ hprovided (count'.trans count)
      · rw [commits', commits, List.append_assoc]
      · rw [told']
        exact visits.concat c user (s.scheduler.told_cache ▸ complete)
    | fails trigger' cause answer before' after' commits' told' count' =>
      obtain rfl := Option.some.inj (before'.symm.trans busy)
      refine .ended others [] _ after' ?_ (.failed cause visits (by simp [answer])) (told' ▸ .nil) (count'.trans count)
      rw [commits', commits, List.append_nil]
    | ends trigger' old c line gains user complete before' after' commits' told' count' =>
      obtain rfl := Option.some.inj (before'.symm.trans busy)
      have hcall := gains.provided (provided old line (gains.user.symm.trans user))
      refine .ended (others ++ [c]) [] _ after' ?_
        (.committed c visits user hcall (s.scheduler.told_cache ▸ complete)) (told' ▸ .nil) (count'.trans count)
      rw [commits', commits, List.append_nil, List.append_assoc]
  | ended upTo later l waits commits cycle visits count =>
    have hcycle := cycle.concat step
    cases hmove with
    | rests cycle' commits' told' count' =>
      exact .ended upTo later l (cycle'.trans waits) (commits'.trans commits) hcycle (told' ▸ visits)
        (count'.trans count)
    | begins count' commits' told' => exact .past (.inr (by omega))
    | stops phase' activity' commits' told' => exact .past (.inl phase')
    | visits c user complete cycle' commits' told' count' =>
      refine .ended upTo (later ++ [c]) l (cycle'.trans waits) ?_ hcycle ?_ (count'.trans count)
      · rw [commits', commits, List.append_assoc, List.append_assoc]
      · rw [told']
        exact visits.concat c user (s.scheduler.told_cache ▸ complete)
    | fails trigger' cause answer before' => cases waits.symm.trans before'
    | ends trigger' old c line gains user complete before' => cases waits.symm.trans before'
  | past after =>
    rcases after with hphase | hcount
    · exact .past (.inl (hgated.stopped_next hphase step).1)
    · cases hmove with
      | stops phase' activity' commits' told' => exact .past (.inl phase')
      | rests | begins | visits | fails | ends => exact .past (.inr (by omega))

theorem Progress.run (hgated : Gated s) (h : Progress before trigger steps s) (more : List SharedStep) :
    Progress before trigger (steps ++ more) (s.run more) := by
  induction more generalizing s steps with
  | nil => rwa [List.append_nil]
  | cons step rest ih =>
    rw [List.append_cons]
    exact ih (hgated.next step) (h.next hgated step)

/-- The step that begins a cycle. -/
theorem Gated.progress (h : Gated s) (hwaits : s.scheduler.activity = .waiting) {first : SharedStep}
    (hbegins : (s.next first).scheduler.activity = .discovering trigger) : Progress s trigger [] (s.next first) := by
  have hnone : s.scheduler.activity.awaiting? = none := by rw [hwaits, Activity.awaiting?]
  have hsome : (s.next first).scheduler.activity.awaiting? = some trigger := by rw [hbegins, Activity.awaiting?]
  cases next_move h first with
  | begins count commits told =>
    refine .underWay [] hsome (by rw [commits, List.append_nil]) (told ▸ .nil) (fun call hcall huser => ?_) count
    -- The line has no place for a cycle before it has got its endpoints.
    rcases mem_line_next hcall huser with hold | ⟨old, hold, hgains⟩ | ⟨-, -, t, hdiscovering⟩
    · exact absurd huser (h.not_mem_of_awaiting_eq_none hnone hold)
    · exact absurd (hgains.user.symm.trans huser) (h.not_mem_of_awaiting_eq_none hnone hold)
    · cases hwaits.symm.trans hdiscovering
  | stops phase activity => cases activity.symm.trans hbegins
  | rests cycle => cases hsome.symm.trans (cycle.trans hnone)
  | visits c user complete cycle => cases hsome.symm.trans (cycle.trans hnone)
  | fails t cause answer busy => cases hnone.symm.trans busy
  | ends t old c line gains user complete busy => cases hnone.symm.trans busy

end SharedCache

end LogTagger
