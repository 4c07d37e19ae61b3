import LogTagger.Proofs.Scheduler.Chronicle
import LogTagger.Proofs.Scheduler.Requests
import LogTagger.Proofs.Scheduler.Within

/-!
# The accounts of a scheduler

The metrics are raised at different points of a cycle: each fetch counts when it is answered, evictions
and the number of cached documents with the commit, and the cycle itself at its end, however it ends.
**`accounts_balance`** says what they come to together. Whenever no cycle is under way and none has been
cut short, the documents that were fetched and not evicted are those that are cached, each fetch and each
search for endpoints has been counted, and the cycles count as failed in which a search or a fetch failed.
A cycle that is under way or was cut short is the only one that is missing from the count.

While a cycle is under way, what it has fetched stands apart from what is cached. `Tally` says how the
counters stand to both; each step keeps it (`Booked.watch`) except for a stop that loses what was fetched.
-/

namespace LogTagger

/-! ### Counters -/

namespace Metrics

/-- By how much a counter has been raised in the meantime. -/
def raised (first later : Metrics) (series : Series) : Int := later.count series - first.count series

theorem raised_add (first m : Metrics) (series raisedSeries : Series) (n : Nat) :
    first.raised (m.add raisedSeries n) series =
      first.raised m series + if series = raisedSeries then (n : Int) else 0 := by
  rw [raised, raised, count_add]
  split
  case isTrue h =>
    subst h
    omega
  case isFalse => omega

theorem raised_set_of_ne (first m : Metrics) {series gauge : Series} (n : Nat) (h : series ≠ gauge) :
    first.raised (m.set gauge n) series = first.raised m series := by
  rw [raised, raised, count_set_of_ne m n h]

/-- The counters tell of so many documents that were fetched and not evicted, and of so many fetches. -/
structure Tally (first m : Metrics) (documents fetches : Int) : Prop where
  documents : first.raised m (.fetches true) - first.raised m .evictions = documents
  fetches : first.raised m (.fetches true) + first.raised m (.fetches false) = fetches

variable {first m : Metrics} {documents fetches : Int}

theorem Tally.countFetch (h : Tally first m documents fetches) (answer : Except FetchError Json) :
    Tally first (m.countFetch answer) (documents + if answer.isOk then 1 else 0) (fetches + 1) := by
  obtain ⟨hdocuments, hfetches⟩ := h
  constructor <;> cases hok : answer.isOk <;> simp [Metrics.countFetch, raised_add, hok] <;> omega

theorem Tally.countCommit {stats : ReconcileStats} (h : Tally first m (documents + stats.evicted) fetches) :
    Tally first (m.countCommit stats) documents fetches := by
  obtain ⟨hdocuments, hfetches⟩ := h
  constructor <;> simp [Metrics.countCommit, raised_set_of_ne, raised_add] <;> omega

theorem Tally.countCycle (h : Tally first m documents fetches) (trigger : SyncTrigger) (success : Bool) :
    Tally first (m.add (.syncCycles trigger success) 1) documents fetches := by
  obtain ⟨hdocuments, hfetches⟩ := h
  constructor <;> simp [raised_add] <;> omega

end Metrics

/-! ### What a step does to the metrics -/

/-- The metrics when a cycle goes on with a reconciliation: they change only if that is committed. -/
def Metrics.settle (m : Metrics) (cache : DocumentCache) (r : Reconciliation) : Metrics :=
  if r.missing = [] then m.countCommit (r.commit cache).2 else m

namespace Scheduler

variable {s s' : Scheduler} {step : SchedulerStep} {trigger : SyncTrigger} {r : Reconciliation}

theorem metrics_continueCycle (s : Scheduler) (trigger : SyncTrigger) (r : Reconciliation) :
    (s.continueCycle trigger r).metrics = s.metrics.settle s.cache r := by
  rw [continueCycle, Metrics.settle]
  split
  case h_1 hmissing => rw [if_pos hmissing, commitCycle]
  case h_2 hmissing => rw [if_neg (by simp [hmissing]), note]

/-- The metrics with the answer counted that a step brings to a cycle that waits for a document. -/
def heardMetrics (s : Scheduler) (step : SchedulerStep) : Metrics :=
  match s.activity, step with
  | .fetching _ _, .fetched answer => s.metrics.countFetch answer
  | _, _ => s.metrics

theorem metrics_of_answers (h : Answers s step trigger r) :
    (s.next step).metrics = (s.heardMetrics step).settle s.cache r := by
  cases h with
  | discovered trigger target waits =>
    have hheard : s.heardMetrics (.discovered (.ok target)) = s.metrics := by simp [heardMetrics]
    rw [hheard, next, discovered, waits]
    exact metrics_continueCycle s trigger _
  | fetched trigger r answer waits =>
    have hheard : s.heardMetrics (.fetched answer) = s.metrics.countFetch answer := by simp [heardMetrics, waits]
    rw [hheard, next, fetched, waits]
    exact metrics_continueCycle _ trigger _

/-! ### Cycles by the journal -/

/-- The cycles that have come to their end, by what triggered them and how they turned out. -/
def conclusions (s : Scheduler) : List (SyncTrigger × Except SourceError ReconcileStats) :=
  s.journal.filterMap (fun e => match e with
    | .finished trigger outcome => some (trigger, outcome)
    | _ => none)

theorem conclusions_of_journal (later : List JournalEntry) (h : s'.journal = s.journal ++ later) :
    s'.conclusions = s.conclusions ++ later.filterMap (fun e => match e with
      | .finished trigger outcome => some (trigger, outcome)
      | _ => none) := by
  rw [conclusions, h, List.filterMap_append, conclusions]

theorem map_snd_conclusions (s : Scheduler) : s.conclusions.map Prod.snd = s.outcomes := by
  rw [conclusions, outcomes, List.map_filterMap]
  congr
  funext e
  cases e <;> rfl

/-- Each cycle that has begun has come to its end, but for the one that the journal leaves open. -/
theorem triggers_eq {current : Option SyncTrigger} (h : cycleAfter s.journal = some current) :
    s.triggers = s.conclusions.map Prod.fst ++ current.toList := by
  suffices hall : ∀ journal current, cycleAfter journal = some current →
      { s with journal }.triggers = { s with journal }.conclusions.map Prod.fst ++ current.toList from hall _ _ h
  intro journal
  induction journal using List.reverseRecOn with
  | nil =>
    rintro current ⟨⟩
    rfl
  | append_singleton earlier e ih =>
    intro current hafter
    rw [cycleAfter_concat] at hafter
    obtain ⟨before, hbefore, hfollow⟩ := Option.bind_eq_some_iff.mp hafter
    have hearlier := ih before hbefore
    rw [triggers_of_journal (s := { s with journal := earlier }) [e] rfl,
      conclusions_of_journal (s := { s with journal := earlier }) [e] rfl, hearlier]
    cases e with
    | discovery trigger time =>
      rw [JournalEntry.follow] at hfollow
      split at hfollow
      case isTrue hnone =>
        obtain rfl := Option.some.inj hfollow
        simp [hnone]
      case isFalse => cases hfollow
    | fetch id url =>
      rw [JournalEntry.follow] at hfollow
      split at hfollow
      case isTrue => cases hfollow
      case isFalse =>
        obtain rfl := Option.some.inj hfollow
        simp
    | finished trigger outcome =>
      rw [JournalEntry.follow] at hfollow
      split at hfollow
      case isTrue hsome =>
        obtain rfl := Option.some.inj hfollow
        simp [hsome]
      case isFalse => cases hfollow

theorem trigger?_of_busy (h : s.activity ≠ .waiting) : ∃ trigger, s.activity.trigger? = some trigger := by
  cases hactivity : s.activity with
  | waiting => exact absurd hactivity h
  | discovering trigger => exact ⟨trigger, rfl⟩
  | fetching trigger r => exact ⟨trigger, rfl⟩
  | concluding trigger outcome => exact ⟨trigger, rfl⟩

end Scheduler

/-! ### The books -/

/-- The number of documents that a cycle has fetched and not committed. -/
def Activity.heldCount : Activity → Nat
  | .fetching _ r => r.fetched.length
  | .waiting | .discovering _ | .concluding _ _ => 0

/-- The number of fetches for whose answer a cycle waits. -/
def Activity.awaitedCount : Activity → Nat
  | .fetching _ _ => 1
  | .waiting | .discovering _ | .concluding _ _ => 0

namespace Metrics

/-- A commit shows the number of cached documents. -/
theorem get?_settle {m : Metrics} {cache : DocumentCache} {r : Reconciliation} (h : r.missing = []) :
    (m.settle cache r).get? .cachedContainers = some (r.commit cache).1.size := by
  rw [settle, if_pos h, countCommit, get?_set, if_pos rfl]
  rfl

/-- A commit takes the evicted documents off, and counts the others as cached. -/
theorem Tally.settle {first m : Metrics} {cache : DocumentCache} {r : Reconciliation} {fetches : Int}
    (h : Tally first m (cache.size + r.fetched.length : Nat) fetches) (hmissing : r.missing = [])
    (hsize : cache.size + r.fetched.length = (r.commit cache).1.size + (r.commit cache).2.evicted) :
    Tally first (m.settle cache r) (r.commit cache).1.size fetches := by
  rw [Metrics.settle, if_pos hmissing]
  rw [hsize, Int.natCast_add] at h
  exact h.countCommit

end Metrics

namespace Scheduler

variable {first : Metrics} {s s' : Scheduler} {step : SchedulerStep} {c : Chronicle} {trigger : SyncTrigger}
  {r : Reconciliation}

theorem fetchedUrls_of_journal (later : List JournalEntry) (h : s'.journal = s.journal ++ later) :
    s'.fetchedUrls = s.fetchedUrls ++ later.filterMap (fun e => match e with
      | .fetch _ url => some url
      | _ => none) := by
  rw [fetchedUrls, h, List.filterMap_append]
  rfl

/-- How the metrics stand to the cache, to the journal and to the cycles that have come to their end. -/
structure Booked (first : Metrics) (s : Scheduler) (c : Chronicle) : Prop where
  /-- What was fetched and not evicted is cached, or held by the cycle under way; each fetch that was answered
  has been counted. -/
  tally : first.Tally s.metrics (s.cache.size + s.activity.heldCount : Nat)
    (s.fetchedUrls.length - s.activity.awaitedCount)
  /-- Once a cycle with endpoints has left its cache the number of cached documents is shown. -/
  shown : (∃ k ∈ c.committed s, k.discovery.isOk = true) → s.metrics.get? .cachedContainers = some s.cache.size

theorem booked_fresh (interval now : Nat) (events : EventQueue) (metrics : Metrics) :
    Booked metrics (fresh interval now {} events metrics) {} where
  tally := by
    constructor <;> simp [Metrics.raised, fresh, fetchedUrls, Activity.heldCount, Activity.awaitedCount]
    rfl
  shown := by simp [Chronicle.committed, Chronicle.untold?, fresh]

/-- The answer that a step brings is counted, and the document is held. -/
theorem Booked.heard (h : Booked first s c) (hcurrent : CurrentAt s.cache c.current s.activity)
    (hanswers : Answers s step trigger r) :
    first.Tally (s.heardMetrics step) (s.cache.size + r.fetched.length : Nat) s.fetchedUrls.length := by
  have htally := h.tally
  cases hanswers with
  | discovered trigger target waits =>
    simpa [heardMetrics, waits, Activity.heldCount, Activity.awaitedCount, Reconciliation.begin] using htally
  | fetched trigger r answer waits =>
    rw [waits] at htally hcurrent
    obtain ⟨target, answers, hr, hlength, -⟩ := hcurrent
    have hmissing : r.missing ≠ [] := by
      rw [hr, Reconciliation.missing_foldl_record]
      exact fun hnil => absurd (List.drop_eq_nil_iff.mp hnil) (Nat.not_le.mpr hlength)
    have hrecord : ((r.record answer).fetched.length : Int) = r.fetched.length + if answer.isOk then 1 else 0 := by
      obtain ⟨e, rest, hcons⟩ := List.exists_cons_of_ne_nil hmissing
      cases answer <;> simp [Reconciliation.record, hcons, Except.isOk, Except.toBool]
    have hheard := htally.countFetch answer
    simp only [heardMetrics, waits, Activity.heldCount, Activity.awaitedCount, Int.natCast_add, hrecord] at hheard ⊢
    rw [← Int.add_assoc]
    simpa using hheard

theorem get?_heardMetrics (s : Scheduler) (step : SchedulerStep) :
    (s.heardMetrics step).get? .cachedContainers = s.metrics.get? .cachedContainers := by
  unfold heardMetrics
  split
  · rw [Metrics.countFetch, Metrics.add, Metrics.get?_set, if_neg (by simp)]
  · rfl

/-- A search that fails adds no cycle whose search has succeeded. -/
theorem exists_ok_of_failure {cause : SourceError} (waits : s.activity = .discovering trigger)
    (activity : (s.next (.discovered (.error cause))).activity = .concluding trigger (.error cause))
    (journal : (s.next (.discovered (.error cause))).journal = s.journal)
    (h : ∃ k ∈ (c.watch s (.discovered (.error cause))).committed (s.next (.discovered (.error cause))),
      k.discovery.isOk = true) :
    ∃ k ∈ c.committed s, k.discovery.isOk = true := by
  obtain ⟨k, hk, hok⟩ := h
  rw [Chronicle.committed_of_ne (by simp [waits])]
  rw [watch_of_journal (by rw [journal, List.append_nil]), waits, Chronicle.committed, Chronicle.untold?, activity] at hk
  rcases List.mem_append.mp hk with hk | hk
  · exact ⟨k, hk, hok⟩
  · cases hc : c.current <;> simp [Chronicle.hear, hc, OpenCycle.close?] at hk
    subst hk
    cases hok

/-- Each step keeps the books, except for a stop that cuts a cycle short. -/
theorem Booked.watch {zero : DocumentCache} (h : Booked first s c) (hfollows : Follows zero s c)
    (huncut : (s.next step).phase = .stopped → s.activity.awaiting? = none) :
    Booked first (s.next step) (c.watch s step) := by
  -- A step that leaves metrics and cache alone and ends no cycle leaves the books as they are.
  have hquiet : ∀ later : List JournalEntry, (s.next step).journal = s.journal ++ later →
      (later = [] ∨ ∃ trigger time, later = [.discovery trigger time]) →
      (c.watch s step).committed (s.next step) = c.committed s →
      (s.next step).metrics = s.metrics → SameCache s (s.next step) →
      (s.next step).activity.heldCount = s.activity.heldCount →
      (s.next step).activity.awaitedCount = s.activity.awaitedCount →
      Booked first (s.next step) (c.watch s step) := by
    intro later hjournal hlater hcommitted hmetrics hsame hheld hawaited
    have hurls : (s.next step).fetchedUrls = s.fetchedUrls := by
      rw [fetchedUrls_of_journal later hjournal]
      rcases hlater with rfl | ⟨trigger, time, rfl⟩ <;> simp
    constructor
    · rw [hmetrics, hsame.cache, hheld, hurls, hawaited]
      exact h.tally
    · rw [hmetrics, hsame.cache, hcommitted]
      exact h.shown
  cases hfollows.orderly.next_cycleMove step with
  | rests unheard started activity same journal metrics =>
    have hwatch : c.watch s step = c := by
      rw [watch_of_journal (by rw [journal, List.append_nil]), unheard, List.foldl_nil]
    refine hquiet [] (by rw [journal, List.append_nil]) (.inl rfl) ?_ metrics same (by rw [activity]) (by rw [activity])
    rw [hwatch, Chronicle.committed, Chronicle.untold?, activity, same.cache]
    rfl
  | begins trigger unheard started before activity same journal metrics =>
    refine hquiet _ journal (.inr ⟨_, _, rfl⟩) ?_ metrics same (by rw [activity, before]; rfl)
      (by rw [activity, before]; rfl)
    rw [Chronicle.committed_of_ne (by simp [activity]), Chronicle.committed_of_ne (by simp [before]),
      watch_of_journal journal, unheard]
    rfl
  | stops unheard before phase activity same journal metrics =>
    have hwaits : s.activity = .waiting := Activity.eq_waiting_of_awaiting? (huncut phase) before
    refine hquiet [] (by rw [journal, List.append_nil]) (.inl rfl) ?_ metrics same (by rw [activity, hwaits])
      (by rw [activity, hwaits])
    rw [Chronicle.committed_of_ne (by simp [activity]), Chronicle.committed_of_ne before,
      watch_of_journal (by rw [journal, List.append_nil]), unheard, List.foldl_nil]
  | fails trigger cause answer waits phase activity same journal metrics =>
    subst answer
    have htally := h.tally
    rw [waits] at htally
    constructor
    · have hurls : (s.next (.discovered (.error cause))).fetchedUrls = s.fetchedUrls := by
        rw [fetchedUrls, journal, fetchedUrls]
      rw [metrics, same.cache, activity, hurls]
      simpa [Activity.heldCount, Activity.awaitedCount] using htally
    · intro hok
      rw [metrics, same.cache]
      exact h.shown (exists_ok_of_failure waits activity journal hok)
  | asks trigger r id url rest answers missing phase activity same journal =>
    have hmetrics : (s.next step).metrics = s.heardMetrics step := by
      rw [metrics_of_answers answers, Metrics.settle, if_neg (by simp [missing])]
    have hheard := h.heard hfollows.current answers
    constructor
    · rw [hmetrics, same.cache, activity, fetchedUrls_of_journal _ journal]
      simpa [Activity.heldCount, Activity.awaitedCount] using hheard
    · obtain ⟨_, _, -, -, hhear⟩ := answers.heard hfollows.current
      have hshown := h.shown
      rw [Chronicle.committed_of_ne answers.activity_ne_concluding] at hshown
      rw [hmetrics, get?_heardMetrics, same.cache, Chronicle.committed_of_ne (by simp [activity]),
        watch_of_journal journal, hhear]
      exact hshown
  | commits trigger r answers missing phase activity cache lastError journal =>
    obtain ⟨target, seen, hr, hle, -⟩ := answers.heard hfollows.current
    have hall : seen.length = (Reconciliation.missingFrom s.cache target).length := by
      rw [hr, Reconciliation.missing_foldl_record, List.drop_eq_nil_iff] at missing
      exact Nat.le_antisymm hle missing
    have hheard := h.heard hfollows.current answers
    constructor
    · have hurls : (s.next step).fetchedUrls = s.fetchedUrls := by rw [fetchedUrls, journal, fetchedUrls]
      rw [metrics_of_answers answers, cache, activity, hurls]
      simpa [Activity.heldCount, Activity.awaitedCount] using
        hheard.settle missing (Reconciliation.size_commit s.cache target hall hr)
    · rw [metrics_of_answers answers, cache, Metrics.get?_settle missing]
      exact fun _ => rfl
  | concludes trigger outcome unheard before activity cache lastError journal metrics =>
    have htally := h.tally
    rw [before] at htally
    constructor
    · rw [metrics, cache, activity, fetchedUrls_of_journal _ journal]
      simpa [Activity.heldCount, Activity.awaitedCount] using htally.countCycle trigger outcome.isOk
    · have hcommitted : (c.watch s step).committed (s.next step) = c.committed s := by
        rw [watch_of_journal journal, unheard, List.foldl_cons, List.foldl_nil,
          Chronicle.committed_note_finished before activity cache]
      rw [metrics, cache, hcommitted, Metrics.add, Metrics.get?_set, if_neg (by simp)]
      exact h.shown

/-- The cycles that have come to their end have been counted, each by its trigger and by how it turned out. -/
def Counted (first : Metrics) (s : Scheduler) : Prop :=
  ∀ trigger success, first.raised s.metrics (.syncCycles trigger success) =
    s.conclusions.countP fun e => e.1 = trigger && e.2.isOk == success

/-- What is counted of a commit and of the fetches is no cycle. -/
theorem raised_settle_heardMetrics (first : Metrics) (s : Scheduler) (step : SchedulerStep) (r : Reconciliation)
    (trigger : SyncTrigger) (success : Bool) :
    first.raised ((s.heardMetrics step).settle s.cache r) (.syncCycles trigger success) =
      first.raised s.metrics (.syncCycles trigger success) := by
  have hheard : first.raised (s.heardMetrics step) (.syncCycles trigger success) =
      first.raised s.metrics (.syncCycles trigger success) := by
    unfold heardMetrics
    split
    · rw [Metrics.countFetch, Metrics.raised_add, if_neg (by simp), Int.add_zero]
    · rfl
  rw [Metrics.settle]
  split
  · rw [Metrics.countCommit, Metrics.raised_set_of_ne _ _ _ (by simp), Metrics.raised_add, if_neg (by simp),
      Int.add_zero, hheard]
  · exact hheard

/-- A step with which no cycle comes to its end counts none. -/
theorem Counted.unended (h : Counted first s) {later : List JournalEntry} (hjournal : s'.journal = s.journal ++ later)
    (hlater : (later.filterMap fun e => match e with
      | .finished trigger outcome => some (trigger, outcome)
      | _ => none) = [])
    (hmetrics : ∀ trigger success, first.raised s'.metrics (.syncCycles trigger success) =
      first.raised s.metrics (.syncCycles trigger success)) : Counted first s' := by
  intro trigger success
  rw [hmetrics, h trigger success, conclusions_of_journal later hjournal, hlater, List.append_nil]

/-- A cycle that comes to its end is counted. -/
theorem Counted.ended (h : Counted first s) {outcome : Except SourceError ReconcileStats}
    (hmetrics : s'.metrics = s.metrics.add (.syncCycles trigger outcome.isOk) 1)
    (hjournal : s'.journal = s.journal ++ [.finished trigger outcome]) : Counted first s' := by
  intro t success
  rw [hmetrics, Metrics.raised_add, h t success, conclusions_of_journal _ hjournal, List.countP_append,
    Int.natCast_add]
  congr 1
  by_cases hsame : t = trigger ∧ success = outcome.isOk
  · obtain ⟨rfl, rfl⟩ := hsame
    simp
  · have hother : ¬ (trigger = t ∧ outcome.isOk = success) := fun h => hsame ⟨h.1.symm, h.2.symm⟩
    rw [if_neg (by simpa using hsame)]
    simp [if_neg hother]

theorem Counted.next (h : Counted first s) (horderly : s.Orderly) (step : SchedulerStep) :
    Counted first (s.next step) := by
  cases horderly.next_cycleMove step with
  | rests unheard started activity same journal metrics =>
    exact h.unended (by rw [journal, List.append_nil]) rfl fun _ _ => by rw [metrics]
  | begins trigger unheard started before activity same journal metrics =>
    exact h.unended journal rfl fun _ _ => by rw [metrics]
  | fails trigger cause answer waits phase activity same journal metrics =>
    exact h.unended (by rw [journal, List.append_nil]) rfl fun _ _ => by rw [metrics]
  | stops unheard before phase activity same journal metrics =>
    exact h.unended (by rw [journal, List.append_nil]) rfl fun _ _ => by rw [metrics]
  | asks trigger r id url rest answers missing phase activity same journal =>
    refine h.unended journal rfl fun t success => ?_
    rw [metrics_of_answers answers, raised_settle_heardMetrics]
  | commits trigger r answers missing phase activity cache lastError journal =>
    refine h.unended (by rw [journal, List.append_nil]) rfl fun t success => ?_
    rw [metrics_of_answers answers, raised_settle_heardMetrics]
  | concludes trigger outcome unheard before activity cache lastError journal metrics =>
    exact h.ended metrics journal

theorem Counted.run (h : Counted first s) (horderly : s.Orderly) (steps : List SchedulerStep) :
    Counted first (s.run steps) := by
  induction steps generalizing s with
  | nil => exact h
  | cons step rest ih => exact ih (h.next horderly step) (horderly.move (next_move s step))

/-! ### Stops that cut a cycle short -/

/-- A stop among the steps comes while a cycle waits for an answer. A cycle that has come to its outcome tells it
before the stop returns, and is not cut short. -/
def CutShort (s : Scheduler) (steps : List SchedulerStep) : Prop :=
  ∃ earlier later, steps = earlier ++ .stop :: later ∧ (s.run earlier).activity.awaiting? ≠ none ∧
    (s.run (earlier ++ [.stop])).phase = .stopped

theorem CutShort.append {steps : List SchedulerStep} (h : s.CutShort steps) (more : List SchedulerStep) :
    s.CutShort (steps ++ more) := by
  obtain ⟨earlier, later, rfl, hbusy, hphase⟩ := h
  exact ⟨earlier, later ++ more, by simp, hbusy, hphase⟩

/-- Only a stop leads to the last stage. -/
theorem eq_stop_of_phase (h : (s.next step).phase = .stopped) (hphase : s.phase ≠ .stopped) : step = .stop := by
  cases hinner : step.isInner with
  | true =>
    cases s.next_advance hinner with
    | stays same => exact absurd (same.symm.trans h) hphase
    | goesOn begun started =>
      rw [h] at started
      cases started
  | false =>
    cases step with
    | stop => rfl
    | start =>
      cases hstart : s.start with
      | error e => exact absurd (next_start_of_error hstart ▸ h) hphase
      | ok s' =>
        obtain ⟨-, rfl⟩ := start_eq_ok_iff.mp hstart
        rw [next_start_of_ok hstart] at h
        cases h
    | _ => cases hinner

/-- In the journal the cycle that a stop has cut short stays open. -/
theorem CutShort.cycleAfter {steps : List SchedulerStep} (h : s.CutShort steps) (horderly : Orderly s) :
    ∃ trigger, cycleAfter (s.run steps).journal = some (some trigger) := by
  obtain ⟨earlier, later, rfl, hawaits, hphase⟩ := h
  have hearlier := horderly.run earlier
  obtain ⟨trigger, hawaiting⟩ := Option.ne_none_iff_exists'.mp hawaits
  have htrigger := Activity.trigger?_of_awaiting? hawaiting
  rw [run_append, run_cons, run_nil] at hphase
  rw [run_append, run_cons]
  cases hstop : (s.run earlier).stop with
  | error e =>
    -- A scheduler that is busy has not been stopped before.
    rw [next_stop_of_error hstop] at hphase
    rcases hearlier.busy_of_trigger htrigger with hp | hp <;> rw [hphase] at hp <;> cases hp
  | ok s' =>
    rw [next_stop_of_ok hstop, ((stopped_of_stop hstop).run later).journal]
    rcases journal_of_stop hstop with hjournal | ⟨_, _, hconcluding, -⟩
    · exact ⟨trigger, by rw [hjournal]; exact hearlier.cycleAfter_of_trigger htrigger⟩
    · rw [hconcluding] at hawaiting
      cases hawaiting

/-! ### Books along a run -/

/-- A step that cuts no cycle short leaves none open in the journal but the one under way. -/
theorem cycleAfter_next (h : cycleAfter s.journal = some s.activity.trigger?) (horderly : Orderly s)
    (huncut : (s.next step).phase = .stopped → s.activity.awaiting? = none) :
    cycleAfter (s.next step).journal = some (s.next step).activity.trigger? := by
  cases horderly.next_cycleMove step with
  | rests unheard started activity same journal => rw [journal, activity, h]
  | begins trigger unheard started before activity same journal =>
    rw [journal, activity, cycleAfter_concat, h, before]
    rfl
  | fails trigger cause answer waits phase activity same journal => rw [journal, activity, h, waits]; rfl
  | asks trigger r id url rest answers missing phase activity same journal =>
    rw [journal, activity, cycleAfter_concat, h, answers.trigger?]
    rfl
  | commits trigger r answers missing phase activity cache lastError journal =>
    rw [journal, activity, h, answers.trigger?]
    rfl
  | concludes trigger outcome unheard before activity cache lastError journal =>
    rw [journal, activity, cycleAfter_concat, h, before]
    simp [Activity.trigger?, JournalEntry.follow]
  | stops unheard before phase activity same journal =>
    rw [journal, activity, h, Activity.eq_waiting_of_awaiting? (huncut phase) before]

theorem chronicleFrom_append (s : Scheduler) (c : Chronicle) (earlier later : List SchedulerStep) :
    s.chronicleFrom c (earlier ++ later) = (s.run earlier).chronicleFrom (s.chronicleFrom c earlier) later := by
  induction earlier generalizing s c with
  | nil => rfl
  | cons step rest ih => exact ih (s.next step) (c.watch s step)

/-- A run that cuts no cycle short keeps the books. -/
theorem Booked.run {zero : DocumentCache} (h : Booked first s c) (hfollows : Follows zero s c)
    (hopen : cycleAfter s.journal = some s.activity.trigger?) {steps : List SchedulerStep}
    (huncut : ¬ s.CutShort steps) :
    Booked first (s.run steps) (s.chronicleFrom c steps) ∧
      cycleAfter (s.run steps).journal = some (s.run steps).activity.trigger? := by
  induction steps using List.reverseRecOn with
  | nil => exact ⟨h, hopen⟩
  | append_singleton earlier step ih =>
    obtain ⟨hbooked, hafter⟩ := ih fun hcut => huncut (hcut.append [step])
    have hearlier := hfollows.orderly.run earlier
    have hstep : ((s.run earlier).next step).phase = .stopped → (s.run earlier).activity.awaiting? = none := by
      intro hstopped
      by_cases hphase : (s.run earlier).phase = .stopped
      · rw [hearlier.waits (by simp [hphase]) (by simp [hphase]), Activity.awaiting?]
      · obtain rfl := eq_stop_of_phase hstopped hphase
        by_contra hawaits
        exact huncut ⟨earlier, [], rfl, hawaits, by rw [run_append]; exact hstopped⟩
    rw [run_append, chronicleFrom_append]
    exact ⟨hbooked.watch (hfollows.run earlier) hstep, cycleAfter_next hafter hearlier hstep⟩

end Scheduler

/-! ### The balance -/

/-- Whether the search for endpoints or a fetch has failed in a cycle. -/
def SyncCycle.failed (c : SyncCycle) : Bool := !c.discovery.isOk || c.requests.any fun request => !request.2.isOk

theorem FetchCall.isSome_failure? (call : FetchCall) : call.failure?.isSome = !call.request.2.isOk := by
  obtain ⟨id, url, answer⟩ := call
  cases answer <;> rfl

/-- A cycle fails exactly if its search for endpoints or one of its fetches does. -/
theorem SyncCycle.Sound.isOk_outcome {c : SyncCycle} (h : c.Sound) : c.outcome.isOk = !c.failed := by
  cases hdiscovery : c.discovery with
  | error cause =>
    obtain ⟨-, -, houtcome⟩ := h.of_error cause hdiscovery
    simp [failed, hdiscovery, houtcome, Except.isOk, Except.toBool]
  | ok target =>
    have hfailed : c.failed = (c.calls.findSome? FetchCall.failure?).isSome := by
      rw [failed, hdiscovery, h.requests_eq, List.any_map, List.isSome_findSome?]
      simp [Except.isOk, Except.toBool, FetchCall.isSome_failure?, Function.comp_def]
    cases houtcome : c.outcome with
    | error cause =>
      rw [hfailed, (h.outcome target hdiscovery cause).mp houtcome]
      rfl
    | ok stats =>
      rw [hfailed]
      cases hfirst : c.calls.findSome? FetchCall.failure? with
      | none => rfl
      | some cause =>
        have herror := (h.outcome target hdiscovery cause).mpr hfirst
        rw [houtcome] at herror
        cases herror

/-- The series of the cycles: every trigger with every result. -/
def Series.ofCycles : List Series :=
  [SyncTrigger.startup, .interval, .manual, .event].flatMap fun trigger =>
    [.syncCycles trigger true, .syncCycles trigger false]

/-- The number of cycles that have been counted in the meantime, over all triggers and results. -/
def Metrics.cyclesCounted (first later : Metrics) : Int :=
  Series.ofCycles.foldr (fun series sum => first.raised later series + sum) 0

namespace Scheduler

variable {first : Metrics} {s : Scheduler}

/-- Every cycle that has come to its end has been counted once. -/
theorem Counted.cyclesCounted (h : Counted first s) : first.cyclesCounted s.metrics = s.conclusions.length := by
  simp only [Metrics.cyclesCounted, Series.ofCycles, List.flatMap_cons, List.flatMap_nil, List.cons_append,
    List.nil_append, List.foldr_cons, List.foldr_nil, h _ _]
  induction s.conclusions with
  | nil => rfl
  | cons e rest ih =>
    obtain ⟨trigger, outcome⟩ := e
    cases trigger <;> cases hok : outcome.isOk <;> simp [hok] at ih ⊢ <;> omega

/-- What the metrics tell when no cycle is under way, of a scheduler whose cycles are given. -/
structure Balanced (first : Metrics) (cycles : List SyncCycle) (s : Scheduler) : Prop where
  /-- The documents that were fetched and not evicted are those that are cached. -/
  documents : first.raised s.metrics (.fetches true) - first.raised s.metrics .evictions = s.cache.size
  /-- Once a search has succeeded their number is shown. -/
  shown : (∃ c ∈ cycles, c.discovery.isOk = true) → s.metrics.get? .cachedContainers = some s.cache.size
  /-- Every fetch has succeeded or failed. -/
  fetches : first.raised s.metrics (.fetches true) + first.raised s.metrics (.fetches false) = s.fetchedUrls.length
  /-- Every cycle that has begun is counted. -/
  counted : first.cyclesCounted s.metrics = s.discoveryCount
  /-- Every cycle that has begun is one of those given. -/
  paired : s.triggers.length = cycles.length
  /-- A cycle is counted by its trigger, and as failed if its search for endpoints or a fetch has failed. -/
  outcomes : ∀ trigger success, first.raised s.metrics (.syncCycles trigger success) =
    (s.triggers.zip cycles).countP fun e => e.1 = trigger && (!e.2.failed) == success

/-- Whether the metrics after steps account for what has happened. -/
structure Accounted (first : Metrics) (s : Scheduler) (steps : List SchedulerStep) : Prop where
  /-- When no cycle is under way, and none has been cut short, everything is accounted for. -/
  balanced : (s.run steps).activity = .waiting → ¬ s.CutShort steps →
    Balanced first (s.chronicle steps).cycles (s.run steps)
  /-- A cycle that is under way or has been cut short is the only one that is missing from the count. -/
  behind : (s.run steps).activity ≠ .waiting ∨ s.CutShort steps →
    first.cyclesCounted (s.run steps).metrics + 1 = (s.run steps).discoveryCount

/-- The cycles of a chronicle, each with its trigger, are those of the journal. -/
theorem conclusions_eq_zip {zero : DocumentCache} {c : Chronicle} (hfollows : Follows zero s c)
    (hclosed : cycleAfter s.journal = some none) :
    s.conclusions = (s.triggers.zip c.cycles).map fun e => (e.1, e.2.outcome) := by
  have htriggers : s.triggers = s.conclusions.map Prod.fst := by simpa using triggers_eq hclosed
  have houtcomes : c.cycles.map (·.outcome) = s.conclusions.map Prod.snd := by
    rw [hfollows.recorded, map_snd_conclusions]
  calc s.conclusions
      = s.triggers.zip (c.cycles.map (·.outcome)) := by
        rw [htriggers, houtcomes, List.zip_map']
        simp
    _ = (s.triggers.zip c.cycles).map fun e => (e.1, e.2.outcome) := by
        rw [List.zip_map_right]
        rfl

/-- Closed books are balanced. -/
theorem Booked.balanced {zero : DocumentCache} {c : Chronicle} (h : Booked first s c) (hcounted : Counted first s)
    (hfollows : Follows zero s c) (hclosed : cycleAfter s.journal = some none) (hwaits : s.activity = .waiting) :
    Balanced first c.cycles s where
  documents := by
    rw [h.tally.documents, hwaits]
    rfl
  shown := by
    rw [← Chronicle.committed_of_ne (s := s) (by simp [hwaits])]
    exact h.shown
  fetches := by
    rw [h.tally.fetches, hwaits]
    exact Int.sub_zero _
  counted := by
    rw [hcounted.cyclesCounted, ← length_triggers, triggers_eq hclosed]
    simp
  paired := by
    have hlength : (c.cycles.map (·.outcome)).length = c.cycles.length := List.length_map _
    rw [triggers_eq hclosed, ← hlength, hfollows.recorded, ← map_snd_conclusions]
    simp
  outcomes trigger success := by
    rw [hcounted, conclusions_eq_zip hfollows hclosed, List.countP_map]
    congr 1
    refine List.countP_congr fun e he => ?_
    have hcommitted : e.2 ∈ c.committed s := by
      rw [Chronicle.committed_of_ne (by simp [hwaits])]
      exact (List.of_mem_zip he).2
    have hsound := hfollows.sound e.2 hcommitted
    simp only [Function.comp_apply, hsound.isOk_outcome]

/-- **The accounts of a scheduler balance** in every run from an empty cache. -/
theorem accounts_balance (interval now : Nat) (events : EventQueue) (metrics : Metrics) (steps : List SchedulerStep) :
    Accounted metrics (fresh interval now {} events metrics) steps := by
  have horderly := orderly_fresh interval now {} events metrics
  have hfollows := follows_fresh interval now {} events metrics
  have hcounted : Counted metrics ((fresh interval now {} events metrics).run steps) := by
    refine Counted.run (fun trigger success => ?_) horderly steps
    simp [Metrics.raised, fresh, conclusions]
  constructor
  · intro hwaits huncut
    obtain ⟨hbooked, hclosed⟩ := (booked_fresh interval now events metrics).run hfollows rfl huncut
    rw [hwaits] at hclosed
    exact hbooked.balanced hcounted (hfollows.run steps) hclosed hwaits
  · intro hopen
    obtain ⟨trigger, hafter⟩ : ∃ trigger,
        cycleAfter ((fresh interval now {} events metrics).run steps).journal = some (some trigger) := by
      rcases hopen with hbusy | hcut
      · obtain ⟨trigger, htrigger⟩ := trigger?_of_busy hbusy
        exact ⟨trigger, (horderly.run steps).cycleAfter_of_trigger htrigger⟩
      · exact hcut.cycleAfter horderly
    rw [hcounted.cyclesCounted, ← length_triggers, triggers_eq hafter]
    simp

example : (fresh 60000 0 {} {} {}).CutShort
    [.start, .discovered (.ok {}), .conclude, .beginLoop, .request, .wake, .stop] :=
  ⟨[.start, .discovered (.ok {}), .conclude, .beginLoop, .request, .wake], [], rfl, nofun, rfl⟩

end Scheduler

end LogTagger
