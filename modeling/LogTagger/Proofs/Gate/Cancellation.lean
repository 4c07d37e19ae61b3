import LogTagger.Proofs.Gate.Progress

/-!
# Cutting a cycle short

A cycle that the stop finds waiting for an answer leaves nothing behind, whether it waits for its
endpoints, stands in the line, or has fetched all documents but the last. A cycle that has come to its
outcome leaves all that it has made, also when the stop finds it before it has told that. There is
nothing between the two: **`stop_all_or_nothing`**.

After the stop the line is free of the cycle. Whoever stands at its front then, or comes first to an
empty one, reconciles the cache as the stop has left it (`run_turn`).
-/

namespace LogTagger

theorem Visits.eq_of_nil {before after : Ledger} (h : Visits before [] after) : after = before := by
  generalize hcommits : ([] : List Commit) = commits at h
  cases h with
  | nil => rfl
  | concat c visits user complete => simp at hcommits

namespace SharedCache

variable {s before cut after : SharedCache} {trigger : SyncTrigger} {steps : List SharedStep}

/-! ### A turn of another user -/

/-- The state after the call at the front, that of another user, has got all its answers. -/
def reconciled (s : SharedCache) (call : CacheCall) (rest : List CacheCall) (answers : List (Except FetchError Json)) :
    SharedCache :=
  let (after, outcome) := s.cache.reconciledBy s.scheduler.metrics call.target answers
  { scheduler := { s.scheduler with cache := after.1, metrics := after.2 }
    line := rest
    commits := s.commits ++ [⟨{ call with begun := true, answers }, outcome⟩] }

/-- The answers that are left are taken one after the other, and with the last one the call is
committed. -/
theorem run_goOn (s : SharedCache) {call : CacheCall} (rest : List CacheCall) (metrics : Metrics)
    (huser : call.user ≠ .scheduler) (hbegun : call.begun = true) (answers : List (Except FetchError Json))
    (hanswers : answers.length = (call.reconciliation s.cache).missing.length) :
    (s.goOn call rest ((s.scheduler.withMetrics metrics).visited (call.reconciliation s.cache))).run
        (answers.map .answer) =
      let r := answers.foldl Reconciliation.record (call.reconciliation s.cache)
      { scheduler :=
          { s.scheduler with
            cache := (r.commit s.cache).1
            metrics := (answers.foldl Metrics.countFetch metrics).countCommit (r.commit s.cache).2 }
        line := rest
        commits := s.commits ++
          [⟨{ call with answers := call.answers ++ answers }, r.outcome (r.commit s.cache).2⟩] } := by
  induction answers generalizing call metrics with
  | nil =>
    have hmissing : (call.reconciliation s.cache).missing = [] := List.length_eq_zero_iff.mp hanswers.symm
    rw [goOn_of_missing_eq_nil s rest _ hmissing, Scheduler.visited]
    simp only [hmissing, List.map_nil, run_nil, List.foldl_nil, List.append_nil]
    rfl
  | cons document left ih =>
    have hmissing : (call.reconciliation s.cache).missing ≠ [] := by
      intro hnil
      rw [hnil] at hanswers
      cases hanswers
    have hrecord := CacheCall.reconciliation_answered call s.cache document
    have hleft : left.length = ((call.answered document).reconciliation s.cache).missing.length := by
      rw [CacheCall.missing_reconciliation] at hanswers ⊢
      simp only [CacheCall.answered, List.length_append, List.length_drop, List.length_cons,
        List.length_nil] at hanswers ⊢
      omega
    have hvisited : (s.scheduler.withMetrics metrics).visited (call.reconciliation s.cache) =
        s.scheduler.withMetrics metrics := by
      rw [Scheduler.visited]
      split
      case h_1 hnil => exact absurd hnil hmissing
      case h_2 => rfl
    have hnext : (s.goOn call rest ((s.scheduler.withMetrics metrics).visited (call.reconciliation s.cache))).next
        (.answer document) =
          s.goOn (call.answered document) rest
            ((s.scheduler.withMetrics (metrics.countFetch document)).visited
              ((call.answered document).reconciliation s.cache)) := by
      rw [goOn_of_missing_ne_nil s rest _ hmissing, hvisited]
      simp only [next, answer, hbegun, if_true]
      have hafter : (s.scheduler.withMetrics metrics).afterAnswer (call.answered document) document =
          (s.scheduler.withMetrics (metrics.countFetch document)).visited
            ((call.answered document).reconciliation s.cache) := by
        rw [Scheduler.afterAnswer]
        split
        case h_1 hscheduler => exact absurd hscheduler huser
        case h_2 => rfl
      rw [hafter]
      rfl
    have hother : (call.answered document).user ≠ .scheduler := huser
    rw [List.map_cons, run_cons, hnext, ih (metrics.countFetch document) hother hbegun hleft, hrecord]
    simp only [List.foldl_cons, CacheCall.answered, List.append_assoc, List.singleton_append]

/-- **A turn**: who stands at the front of the line reconciles the cache as it is. -/
theorem run_turn {call : CacheCall} {rest : List CacheCall} (hline : s.line = call :: rest)
    (huser : call.user ≠ .scheduler) (hbegun : call.begun = false) (hnone : call.answers = [])
    {answers : List (Except FetchError Json)}
    (hanswers : answers.length = (Reconciliation.missingFrom s.cache call.target).length) :
    s.run (.begin :: answers.map .answer) = s.reconciled call rest answers := by
  have hopened : call.opened.reconciliation s.cache = .begin s.cache call.target := by
    simp [CacheCall.reconciliation, CacheCall.opened, hnone]
  have hnext : s.next .begin =
      s.goOn call.opened rest
        ((s.scheduler.withMetrics s.scheduler.metrics).visited (call.opened.reconciliation s.cache)) := by
    simp only [next, begin, hline, hbegun, Bool.false_eq_true, if_false]
    rw [Scheduler.afterOpening]
    split
    case h_1 hscheduler => exact absurd hscheduler huser
    case h_2 => rfl
  have hother : call.opened.user ≠ .scheduler := huser
  have hleft : answers.length = (call.opened.reconciliation s.cache).missing.length := by
    rw [hopened]
    exact hanswers
  rw [run_cons, hnext, run_goOn s rest s.scheduler.metrics hother rfl answers hleft, hopened]
  simp only [CacheCall.opened, hnone, List.nil_append]
  rfl

/-- Who comes first to an empty line has its turn at once. -/
theorem run_call (hline : s.line = []) (id : Nat) (target : EndpointSet) {answers : List (Except FetchError Json)}
    (hanswers : answers.length = (Reconciliation.missingFrom s.cache target).length) :
    s.run (.call id target :: .begin :: answers.map .answer) =
      s.reconciled ⟨.other id, target, false, []⟩ [] answers := by
  have hnext : s.next (.call id target) = { s with line := [⟨.other id, target, false, []⟩] } := by
    simp [next, enqueue, holds, hline]
  rw [run_cons, hnext, run_turn rfl (by simp) rfl rfl hanswers]
  rfl

/-! ### After the stop -/

/-- A new scheduler ran to the state before, then a cycle began, and after some steps, in which no other
cycle began, the scheduler was stopped. -/
structure StoppedCycle (before : SharedCache) (trigger : SyncTrigger) (steps : List SharedStep)
    (cut after : SharedCache) : Prop where
  reached : ∃ interval now cache events metrics earlier,
    before = run { scheduler := .fresh interval now cache events metrics } earlier
  waits : before.scheduler.activity = .waiting
  begins : ∃ first, (before.next first).scheduler.activity = .discovering trigger ∧ cut = (before.next first).run steps
  alone : cut.scheduler.discoveryCount = before.scheduler.discoveryCount + 1
  stops : ∃ stopped, cut.scheduler.stop = .ok stopped
  after : after = cut.next (.own .stop)

/-- What a stop makes of a cycle. -/
structure AllOrNothing (before : SharedCache) (trigger : SyncTrigger) (steps : List SharedStep)
    (cut after : SharedCache) : Prop where
  /-- The cycle waits for an answer when it is stopped, or has come to its outcome. -/
  either : cut.scheduler.activity.awaiting? = some trigger ∨ cut.scheduler.activity.awaiting? = none
  /-- If it waits for an answer, only the commits of others lead from the ledger before it to that after
  the stop. -/
  nothing : cut.scheduler.activity.awaiting? = some trigger →
    ∃ others, after.commits = before.commits ++ others ∧ Visits before.scheduler.ledger others after.scheduler.ledger
  /-- If it waits for an answer and there are no such commits, the ledger is the same. -/
  untouched : cut.scheduler.activity.awaiting? = some trigger → after.commits = before.commits →
    after.scheduler.ledger = before.scheduler.ledger
  /-- If it has come to its outcome, all that it has made is there after the stop, and since then only the
  commits of others have changed it. -/
  all : cut.scheduler.activity.awaiting? = none →
    ∃ upTo later l, after.commits = before.commits ++ (upTo ++ later) ∧
      CycleEnd before.scheduler.ledger trigger steps upTo l ∧ Visits l later after.scheduler.ledger
  /-- The cycle has left the line, and the others keep their places. -/
  line : after.line = cut.line.filter (·.user ≠ .scheduler)
  /-- From then on only the commits of others change the ledger. -/
  others : ∀ later, ∃ others, (after.run later).commits = after.commits ++ others ∧
    Visits after.scheduler.ledger others (after.run later).scheduler.ledger
  /-- Who stands at the front of the line then, and has not begun, reconciles the cache as the stop has
  left it. -/
  turn : ∀ call rest answers, after.line = call :: rest → call.begun = false →
    answers.length = (Reconciliation.missingFrom after.cache call.target).length →
    after.run (.begin :: answers.map .answer) = after.reconciled call rest answers
  /-- So does who comes first to an empty line. -/
  free : ∀ id target answers, after.line = [] →
    answers.length = (Reconciliation.missingFrom after.cache target).length →
    after.run (.call id target :: .begin :: answers.map .answer) =
      after.reconciled ⟨.other id, target, false, []⟩ [] answers

/-- After the stop nothing is left to be told, and only other users are left. -/
theorem Gated.run_stopped (h : Gated s) (hphase : s.scheduler.phase = .stopped) (later : List SharedStep) :
    Gated (s.run later) ∧ (s.run later).scheduler.phase = .stopped ∧
      ∃ others, (s.run later).commits = s.commits ++ others ∧
        Visits s.scheduler.told others (s.run later).scheduler.told := by
  refine run_induction (P := fun s' => Gated s' ∧ s'.scheduler.phase = .stopped ∧
    ∃ others, s'.commits = s.commits ++ others ∧ Visits s.scheduler.told others s'.scheduler.told)
    ?_ ⟨h, hphase, [], by simp, .nil⟩ later
  rintro s' step ⟨hgated, hstopped, others, hcommits, hvisits⟩
  obtain ⟨hstill, hjournal⟩ := hgated.stopped_next hstopped step
  have hnone : s'.scheduler.activity.awaiting? = none := by
    rw [hgated.activity_of_stopped hstopped, Activity.awaiting?]
  refine ⟨hgated.next step, hstill, ?_⟩
  cases next_move hgated step with
  | rests cycle commits told count => exact ⟨others, commits.trans hcommits, told ▸ hvisits⟩
  | begins count =>
    have hsame : (s'.next step).scheduler.discoveryCount = s'.scheduler.discoveryCount := by
      rw [Scheduler.discoveryCount, Scheduler.discoveryCount, hjournal]
    omega
  | stops phase activity commits told => exact ⟨others, commits.trans hcommits, told ▸ hvisits⟩
  | visits c user complete cycle commits told count =>
    refine ⟨others ++ [c], ?_, ?_⟩
    · rw [commits, hcommits, List.append_assoc]
    · rw [told]
      exact hvisits.concat c user (s'.scheduler.told_cache ▸ complete)
  | fails trigger cause answer busy => cases hnone.symm.trans busy
  | ends trigger old c line gains user complete busy => cases hnone.symm.trans busy

theorem Gated.visits_of_stopped (h : Gated s) (hphase : s.scheduler.phase = .stopped) (later : List SharedStep) :
    ∃ others, (s.run later).commits = s.commits ++ others ∧
      Visits s.scheduler.ledger others (s.run later).scheduler.ledger := by
  obtain ⟨hgated, hstopped, others, hcommits, hvisits⟩ := h.run_stopped hphase later
  rw [Scheduler.told_of_waiting (h.activity_of_stopped hphase),
    Scheduler.told_of_waiting (hgated.activity_of_stopped hstopped)] at hvisits
  exact ⟨others, hcommits, hvisits⟩

namespace StoppedCycle

theorem gated (h : StoppedCycle before trigger steps cut after) : Gated before := by
  obtain ⟨interval, now, cache, events, metrics, earlier, hbefore⟩ := h.reached
  rw [hbefore]
  exact (gated_fresh interval now cache events metrics).run earlier

theorem progress (h : StoppedCycle before trigger steps cut after) : Progress before trigger steps cut := by
  obtain ⟨first, hbegins, hcut⟩ := h.begins
  rw [hcut]
  exact (h.gated.progress h.waits hbegins).run (h.gated.next first) steps

theorem gated_after (h : StoppedCycle before trigger steps cut after) : Gated after := by
  obtain ⟨first, -, hcut⟩ := h.begins
  rw [h.after, hcut]
  exact ((h.gated.next first).run steps).next (.own .stop)

/-- The stop itself lets the cycle tell its outcome, if it has come to one, and otherwise touches only the
stage, what the scheduler is doing, and the line. -/
theorem after_eq (h : StoppedCycle before trigger steps cut after) :
    cut.scheduler.phase.isStarted = true ∧
      after =
        { scheduler := { cut.scheduler.conclude with phase := .stopped, activity := .waiting }
          line := cut.line.filter (·.user ≠ .scheduler), commits := cut.commits } := by
  obtain ⟨stopped, hstop⟩ := h.stops
  obtain ⟨hstarted, rfl⟩ := Scheduler.stop_eq_ok_iff.mp hstop
  refine ⟨hstarted, ?_⟩
  rw [h.after, next, own, hstop]
  rfl

theorem commits_after (h : StoppedCycle before trigger steps cut after) : after.commits = cut.commits := by
  rw [h.after_eq.2]

theorem ledger_after (h : StoppedCycle before trigger steps cut after) :
    after.scheduler.ledger = cut.scheduler.told := by
  rw [h.after_eq.2]
  rfl

/-- Before the cycle there was nothing to be told. -/
theorem ledger_before (h : StoppedCycle before trigger steps cut after) :
    before.scheduler.told = before.scheduler.ledger := Scheduler.told_of_waiting h.waits

theorem line_after (h : StoppedCycle before trigger steps cut after) :
    after.line = cut.line.filter (·.user ≠ .scheduler) := by
  rw [h.after_eq.2]

theorem user_ne_of_mem_line_after (h : StoppedCycle before trigger steps cut after) {call : CacheCall}
    (hcall : call ∈ after.line) : call.user ≠ .scheduler := by
  rw [h.line_after] at hcall
  simpa using (List.mem_filter.mp hcall).2

end StoppedCycle

/-- **A stop leaves nothing of a cycle that waits for an answer, and all of one that has come to its
outcome**, and it takes the cycle out of the line. -/
theorem stop_all_or_nothing (h : StoppedCycle before trigger steps cut after) :
    AllOrNothing before trigger steps cut after := by
  have hlater := h.gated_after.visits_of_stopped (by rw [h.after_eq.2])
  have hturn : ∀ call rest answers, after.line = call :: rest → call.begun = false →
      answers.length = (Reconciliation.missingFrom after.cache call.target).length →
      after.run (.begin :: answers.map .answer) = after.reconciled call rest answers := by
    intro call rest answers hline hbegun hanswers
    have hmem : call ∈ after.line := by simp [hline]
    exact run_turn hline (h.user_ne_of_mem_line_after hmem) hbegun (h.gated_after.unanswered call hmem hbegun) hanswers
  have hfree : ∀ id target answers, after.line = [] →
      answers.length = (Reconciliation.missingFrom after.cache target).length →
      after.run (.call id target :: .begin :: answers.map .answer) =
        after.reconciled ⟨.other id, target, false, []⟩ [] answers :=
    fun id target answers hempty hanswers => run_call hempty id target hanswers
  cases h.progress with
  | underWay others busy commits visits provided count =>
    rw [h.ledger_before] at visits
    have hnothing := h.commits_after.trans commits
    refine ⟨.inl busy, fun _ => ⟨others, hnothing, h.ledger_after ▸ visits⟩, fun _ hsame => ?_, fun hnone => ?_,
      h.line_after, hlater, hturn, hfree⟩
    · rw [hsame, List.self_eq_append_right] at hnothing
      rw [hnothing] at visits
      exact h.ledger_after.trans visits.eq_of_nil
    · cases busy.symm.trans hnone
  | ended upTo later l waits commits cycle visits count =>
    rw [h.ledger_before] at cycle
    refine ⟨.inr waits, fun busy => ?_, fun busy => ?_,
      fun _ => ⟨upTo, later, l, h.commits_after.trans commits, cycle, h.ledger_after ▸ visits⟩, h.line_after, hlater,
      hturn, hfree⟩
    · cases waits.symm.trans busy
    · cases waits.symm.trans busy
  | past hpast =>
    rcases hpast with hstopped | hcount
    · have hstarted := h.after_eq.1
      rw [hstopped] at hstarted
      cases hstarted
    · have halone := h.alone
      omega

/-- Two containers without documents. -/
def twoContainers : EndpointSet where
  endpoints := ⟨[("a", ⟨"http://a", []⟩), ("b", ⟨"http://b", []⟩)], List.pairwise_pair.mpr (show "a" < "b" by decide)⟩

/-- A scheduler whose loop is about to take up a request. -/
def requested : SharedCache :=
  run { scheduler := .fresh 1000 0 {} {} {} }
    [.own .start, .own (.discovered (.ok {})), .begin, .own .conclude, .own .beginLoop, .own .request]

/-- A cycle that has one of its two documents is cut short, and nothing is left of it. -/
theorem stop_while_fetching :
    let cut := (requested.next (.own .wake)).run [.own (.discovered (.ok twoContainers)), .begin, .answer (.ok .null)]
    StoppedCycle requested .manual [.own (.discovered (.ok twoContainers)), .begin, .answer (.ok .null)] cut
        (cut.next (.own .stop)) ∧
      cut.scheduler.missingCount = 1 ∧ (cut.next (.own .stop)).scheduler.ledger = requested.scheduler.ledger := by
  intro cut
  have h : StoppedCycle requested .manual [.own (.discovered (.ok twoContainers)), .begin, .answer (.ok .null)] cut
      (cut.next (.own .stop)) :=
    ⟨⟨_, _, _, _, _, _, rfl⟩, rfl, ⟨_, rfl, rfl⟩, rfl, ⟨_, Scheduler.stop_eq_ok_iff.mpr ⟨rfl, rfl⟩⟩, rfl⟩
  exact ⟨h, rfl, (stop_all_or_nothing h).untouched rfl rfl⟩

end SharedCache

end LogTagger
