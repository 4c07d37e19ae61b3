import LogTagger.Proofs.Gate.Line

/-!
# What a step does to a cache with a gate

`next_move` says all that a step can do to the commits and to the ledger, as it is when the cycle under
way has told its outcome. The commit of a call is one of a whole reconciliation, whose documents were
all fetched while it had its turn (`Commit.Complete`).
-/

namespace LogTagger

/-- A commit is that of a whole reconciliation, which began with the given cache. -/
structure Commit.Complete (c : Commit) (cache : DocumentCache) : Prop where
  /-- Each container that was missing has an answer. -/
  answered : c.call.answers.length = (Reconciliation.missingFrom cache c.call.target).length
  /-- The outcome is that of the reconciliation. -/
  outcome : c.outcome = (c.call.reconciliation cache).outcome ((c.call.reconciliation cache).commit cache).2

namespace SharedCache

variable {s s' : SharedCache}

/-- All that a step can do to the commits and to what will be told. -/
inductive SharedMove (step : SharedStep) (s s' : SharedCache) : Prop
  /-- Nothing, and no cycle begins or comes to its outcome. -/
  | rests (cycle : s'.scheduler.activity.awaiting? = s.scheduler.activity.awaiting?)
      (commits : s'.commits = s.commits) (told : s'.scheduler.told = s.scheduler.told)
      (count : s'.scheduler.discoveryCount = s.scheduler.discoveryCount)
  /-- Nothing, but a cycle begins. -/
  | begins (count : s'.scheduler.discoveryCount = s.scheduler.discoveryCount + 1)
      (commits : s'.commits = s.commits) (told : s'.scheduler.told = s.scheduler.told)
  /-- Nothing, but the scheduler is stopped. -/
  | stops (phase : s'.scheduler.phase = .stopped) (activity : s'.scheduler.activity = .waiting)
      (commits : s'.commits = s.commits) (told : s'.scheduler.told = s.scheduler.told)
  /-- The call of another user is committed. -/
  | visits (c : Commit) (user : c.call.user ≠ .scheduler) (complete : c.Complete s.cache)
      (cycle : s'.scheduler.activity.awaiting? = s.scheduler.activity.awaiting?)
      (commits : s'.commits = s.commits ++ [c]) (told : s'.scheduler.told = s.scheduler.told.commit c)
      (count : s'.scheduler.discoveryCount = s.scheduler.discoveryCount)
  /-- The cycle under way gets no endpoints. -/
  | fails (trigger : SyncTrigger) (cause : SourceError) (answer : step = .own (.discovered (.error cause)))
      (before : s.scheduler.activity.awaiting? = some trigger)
      (after : s'.scheduler.activity.awaiting? = none) (commits : s'.commits = s.commits)
      (told : s'.scheduler.told = s.scheduler.told.endCycle trigger (.error cause))
      (count : s'.scheduler.discoveryCount = s.scheduler.discoveryCount)
  /-- The cycle under way is committed. -/
  | ends (trigger : SyncTrigger) (old : CacheCall) (c : Commit) (line : old ∈ s.line)
      (gains : Gains step.documents old c.call) (user : c.call.user = .scheduler) (complete : c.Complete s.cache)
      (before : s.scheduler.activity.awaiting? = some trigger) (after : s'.scheduler.activity.awaiting? = none)
      (commits : s'.commits = s.commits ++ [c])
      (told : s'.scheduler.told = (s.scheduler.told.commit c).endCycle trigger c.outcome)
      (count : s'.scheduler.discoveryCount = s.scheduler.discoveryCount)

variable {step : SharedStep}

theorem SharedMove.refl (s : SharedCache) : SharedMove step s s := .rests rfl rfl rfl rfl

/-- The call that goes on is answered for each container if nothing is left to fetch. -/
theorem complete_of_missing_eq_nil {call : CacheCall} (h : (call.reconciliation s.cache).missing = [])
    (hanswers : call.answers.length ≤ (Reconciliation.missingFrom s.cache call.target).length) :
    Commit.Complete ⟨call, (call.reconciliation s.cache).outcome ((call.reconciliation s.cache).commit s.cache).2⟩
      s.cache := by
  rw [CacheCall.missing_reconciliation, List.drop_eq_nil_iff] at h
  exact ⟨Nat.le_antisymm hanswers h, rfl⟩

theorem Advance.move (step : SharedStep) (h : Advance step.documents s s') : SharedMove step s s' := by
  cases h with
  | cycle old call rest metrics trigger hline huser hgains hanswers hledger hbusy =>
    have hactivity := (s.scheduler.withMetrics metrics).activity_continueCycle trigger (call.reconciliation s.cache)
    have hcount := (s.scheduler.withMetrics metrics).discoveryCount_continueCycle trigger (call.reconciliation s.cache)
    have hmoved := (s.scheduler.withMetrics metrics).ledger_continueCycle trigger
      (c := ⟨call, (call.reconciliation s.cache).outcome ((call.reconciliation s.cache).commit s.cache).2⟩)
      (r := call.reconciliation s.cache) rfl
    rw [hledger, ← Scheduler.told_of_awaiting hbusy] at hmoved
    by_cases hmissing : (call.reconciliation s.cache).missing = []
    · rw [goOn_of_missing_eq_nil s rest _ hmissing]
      rw [if_pos hmissing] at hactivity hmoved
      refine .ends trigger old _ (by simp [hline]) hgains (hgains.user.trans huser)
        (complete_of_missing_eq_nil hmissing hanswers) hbusy ?_ rfl ?_ hcount
      · rw [hactivity, Activity.awaiting?]
      · rw [Scheduler.told_of_concluding hactivity, hmoved]
        rfl
    · rw [goOn_of_missing_ne_nil s rest _ hmissing]
      rw [if_neg hmissing] at hactivity hmoved
      have hawaiting : (((s.scheduler.withMetrics metrics).continueCycle trigger
          (call.reconciliation s.cache)).activity).awaiting? = some trigger := by rw [hactivity, Activity.awaiting?]
      exact .rests (hawaiting.trans hbusy.symm) rfl ((Scheduler.told_of_awaiting hawaiting).trans hmoved) hcount
  | visit old call rest metrics hline huser hgains hanswers hledger =>
    have hactivity := (s.scheduler.withMetrics metrics).activity_visited (call.reconciliation s.cache)
    have hcount := (s.scheduler.withMetrics metrics).discoveryCount_visited (call.reconciliation s.cache)
    have hmoved := (s.scheduler.withMetrics metrics).told_visited
      (c := ⟨call, (call.reconciliation s.cache).outcome ((call.reconciliation s.cache).commit s.cache).2⟩)
      (r := call.reconciliation s.cache) rfl
    have hother : call.user ≠ .scheduler := hgains.user ▸ huser
    have htold : (s.scheduler.withMetrics metrics).told = s.scheduler.told := Scheduler.told_congr rfl hledger
    rw [htold] at hmoved
    by_cases hmissing : (call.reconciliation s.cache).missing = []
    · rw [goOn_of_missing_eq_nil s rest _ hmissing]
      rw [if_pos hmissing] at hmoved
      exact .visits _ hother (complete_of_missing_eq_nil hmissing hanswers) (congrArg _ hactivity) rfl hmoved hcount
    · rw [goOn_of_missing_ne_nil s rest _ hmissing]
      rw [if_neg hmissing] at hmoved
      exact .rests (congrArg _ hactivity) rfl hmoved hcount

theorem own_sharedMove (horderly : s.scheduler.Orderly) (step : SchedulerStep) :
    SharedMove (.own step) s (s.own step) := by
  have hquiet : ∀ step, (∀ answer, step ≠ .discovered answer) → (∀ answer, step ≠ .fetched answer) → step ≠ .stop →
      SharedMove (.own step) s (s.own step) := by
    intro step hdiscovered hfetched hstop
    rw [own_eq_next s hdiscovered hfetched hstop]
    cases Scheduler.next_quiet s.scheduler hdiscovered hfetched hstop with
    | concludes hsame =>
      rw [hsame]
      exact .rests s.scheduler.conclude_awaiting rfl s.scheduler.told_conclude s.scheduler.discoveryCount_conclude
    | rests hledger hactivity hjournal =>
      exact .rests (congrArg _ hactivity) rfl (Scheduler.told_congr hactivity hledger)
        (by simp [Scheduler.discoveryCount, hjournal])
    | begins trigger hbefore hledger hactivity hjournal =>
      have hwaits : s.scheduler.activity = .waiting := by
        rcases hbefore with hidle | hwaits
        · exact horderly.waits (by simp [hidle]) (by simp [hidle])
        · exact hwaits
      refine .begins (by simp [Scheduler.discoveryCount, hjournal]) rfl ?_
      rw [Scheduler.told_of_ne (by simp [hactivity]), Scheduler.told_of_waiting hwaits, hledger]
  cases step with
  | discovered answer =>
    cases answer with
    | ok target =>
      rw [own]
      split
      · rw [enqueue]
        split <;> exact .rests rfl rfl rfl rfl
      · exact .refl s
    | error cause =>
      rw [own]
      split
      · exact .refl s
      · rcases Scheduler.discovered_error_cases s.scheduler cause with hsame | ⟨trigger, hactivity, hends⟩
        · rw [hsame]
          exact .refl s
        · have hawaiting : s.scheduler.activity.awaiting? = some trigger := by rw [hactivity, Activity.awaiting?]
          rw [hends]
          refine .fails trigger cause rfl hawaiting rfl rfl ?_ rfl
          rw [Scheduler.told_of_concluding rfl, Scheduler.told_of_awaiting hawaiting]
          rfl
  | fetched document => exact .refl s
  | stop =>
    rw [own]
    split
    case h_1 stopped hstop =>
      obtain ⟨-, rfl⟩ := Scheduler.stop_eq_ok_iff.mp hstop
      exact .stops rfl rfl rfl (Scheduler.told_of_waiting rfl)
    case h_2 => exact .refl s
  | _ => exact hquiet _ (by simp) (by simp) (by simp)

/-- **All that a step can do to the commits and to what will be told.** -/
theorem next_move (h : Gated s) (step : SharedStep) : SharedMove step s (s.next step) := by
  cases step with
  | own step => exact own_sharedMove h.orderly step
  | call id target =>
    rw [next, enqueue]
    split <;> exact .rests rfl rfl rfl rfl
  | begin =>
    rcases h.begin_advance with hsame | hadvance
    · rw [next, hsame]
      exact .refl s
    · exact hadvance.move .begin
  | answer document =>
    rcases h.answer_advance document with hsame | hadvance
    · rw [next, hsame]
      exact .refl s
    · exact hadvance.move (.answer document)
  | abandon id => exact .rests rfl rfl rfl rfl

end SharedCache

end LogTagger
