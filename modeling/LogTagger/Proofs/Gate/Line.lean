import LogTagger.Proofs.Gate.Ledger

/-!
# The line at the gate

The invariant `Gated` ties the line to what the scheduler is doing: no one stands in it twice, only
the call at the front has had its turn, and the cycle is in the line from the moment in which it gets
its endpoints up to its commit; when it tells its outcome, it has left the line. What the call at the
front does when it goes on is said once (`Advance`), whether it has begun or has got a document.
**`Gated.next`**: every step keeps the line in order.
-/

namespace LogTagger

namespace CacheCall

theorem missing_reconciliation (c : CacheCall) (cache : DocumentCache) :
    (c.reconciliation cache).missing = (Reconciliation.missingFrom cache c.target).drop c.answers.length :=
  Reconciliation.missing_foldl_record cache c.target c.answers

/-- One more answer is recorded. -/
theorem reconciliation_answered (c : CacheCall) (cache : DocumentCache) (document : Except FetchError Json) :
    (c.answered document).reconciliation cache = (c.reconciliation cache).record document := by
  simp [reconciliation, answered]

end CacheCall

namespace SharedCache

variable {s s' : SharedCache}

/-! ### What becomes of the scheduler -/

/-- The states of a scheduler differ at most in the cache and in the metrics. -/
structure Visited (s s' : Scheduler) : Prop where
  phase : s'.phase = s.phase
  activity : s'.activity = s.activity
  journal : s'.journal = s.journal

theorem visited_visited (s : Scheduler) (metrics : Metrics) (r : Reconciliation) :
    Visited s ((s.withMetrics metrics).visited r) := by
  rw [Scheduler.visited]
  split <;> exact ⟨rfl, rfl, rfl⟩

theorem Visited.orderly {s s' : Scheduler} (h : Visited s s') (horderly : s.Orderly) : s'.Orderly where
  busy := by
    rw [h.activity, h.phase]
    exact horderly.busy
  apart := by
    rw [h.journal]
    exact horderly.apart
  current := by
    rw [h.activity, h.phase, h.journal]
    exact horderly.current

theorem afterOpening_cases (s : Scheduler) (call : CacheCall) :
    Scheduler.Move s (s.afterOpening call) ∨ Visited s (s.afterOpening call) := by
  rw [Scheduler.afterOpening]
  split
  · exact .inl (Scheduler.discovered_move _ _)
  · exact .inr (visited_visited s s.metrics _)

theorem afterAnswer_cases (s : Scheduler) (call : CacheCall) (document : Except FetchError Json) :
    Scheduler.Move s (s.afterAnswer call document) ∨ Visited s (s.afterAnswer call document) := by
  rw [Scheduler.afterAnswer]
  split
  · exact .inl (Scheduler.fetched_move _ _)
  · exact .inr (visited_visited s _ _)

theorem goOn_of_missing_eq_nil (s : SharedCache) {call : CacheCall} (rest : List CacheCall) (moved : Scheduler)
    (h : (call.reconciliation s.cache).missing = []) :
    s.goOn call rest moved =
      { scheduler := moved, line := rest
        commits := s.commits ++
          [⟨call, (call.reconciliation s.cache).outcome ((call.reconciliation s.cache).commit s.cache).2⟩] } := by
  rw [goOn, h]

theorem goOn_of_missing_ne_nil (s : SharedCache) {call : CacheCall} (rest : List CacheCall) (moved : Scheduler)
    (h : (call.reconciliation s.cache).missing ≠ []) :
    s.goOn call rest moved = { scheduler := moved, line := call :: rest, commits := s.commits } := by
  rw [goOn]
  split
  case h_1 hmissing => exact absurd hmissing h
  case h_2 => rfl

theorem scheduler_goOn (s : SharedCache) (call : CacheCall) (rest : List CacheCall) (moved : Scheduler) :
    (s.goOn call rest moved).scheduler = moved := by
  rw [goOn]
  split <;> rfl

theorem scheduler_enqueue (s : SharedCache) (user : CacheUser) (target : EndpointSet) :
    (s.enqueue user target).scheduler = s.scheduler := by
  rw [enqueue]
  split <;> rfl

/-- Only answers and the stop concern the line. -/
theorem own_eq_next (s : SharedCache) {step : SchedulerStep} (hdiscovered : ∀ answer, step ≠ .discovered answer)
    (hfetched : ∀ answer, step ≠ .fetched answer) (hstop : step ≠ .stop) :
    s.own step = { s with scheduler := s.scheduler.next step } := by
  cases step with
  | discovered answer => exact absurd rfl (hdiscovered answer)
  | fetched answer => exact absurd rfl (hfetched answer)
  | stop => exact absurd rfl hstop
  | _ => rfl

theorem own_move (s : SharedCache) (step : SchedulerStep) : Scheduler.Move s.scheduler (s.own step).scheduler := by
  have hnext : ∀ step, (∀ answer, step ≠ .discovered answer) → (∀ answer, step ≠ .fetched answer) → step ≠ .stop →
      Scheduler.Move s.scheduler (s.own step).scheduler := by
    intro step hdiscovered hfetched hstop
    rw [own_eq_next s hdiscovered hfetched hstop]
    exact Scheduler.next_move s.scheduler step
  cases step with
  | discovered answer =>
    cases answer with
    | ok target =>
      rw [own]
      split
      · rw [scheduler_enqueue]
        exact .refl _
      · exact .refl _
    | error cause =>
      rw [own]
      split
      · exact .refl _
      · exact Scheduler.discovered_move s.scheduler (.error cause)
  | fetched answer => exact .refl _
  | stop =>
    have hmove := Scheduler.next_move s.scheduler .stop
    rw [own]
    cases hstop : s.scheduler.stop with
    | ok stopped => rwa [Scheduler.next_stop_of_ok hstop] at hmove
    | error e => exact .refl _
  | _ => exact hnext _ (by simp) (by simp) (by simp)

/-- **A step is for the scheduler one of its own moves, or another user's visit to its cache.** -/
theorem next_scheduler (s : SharedCache) (step : SharedStep) :
    Scheduler.Move s.scheduler (s.next step).scheduler ∨ Visited s.scheduler (s.next step).scheduler := by
  cases step with
  | own step => exact .inl (own_move s step)
  | call id target =>
    left
    rw [next, scheduler_enqueue]
    exact .refl _
  | begin =>
    rw [next, begin]
    split
    · exact .inl (.refl _)
    · split
      · exact .inl (.refl _)
      · rw [scheduler_goOn]
        exact afterOpening_cases _ _
  | answer document =>
    rw [next, answer]
    split
    · exact .inl (.refl _)
    · split
      · rw [scheduler_goOn]
        exact afterAnswer_cases _ _ _
      · exact .inl (.refl _)
  | abandon id => exact .inl (.refl _)

theorem orderly_next (h : s.scheduler.Orderly) (step : SharedStep) : (s.next step).scheduler.Orderly := by
  rcases next_scheduler s step with hmove | hvisited
  · exact h.move hmove
  · exact hvisited.orderly h

/-! ### The line -/

/-- What the line has to do with the scheduler and with the requests that are under way. -/
structure Gated (s : SharedCache) : Prop where
  /-- The scheduler keeps to its order. -/
  orderly : s.scheduler.Orderly
  /-- No one stands in the line twice. -/
  once : (s.line.map (·.user)).Nodup
  /-- Only the call at the front has had its turn. -/
  front : ∀ call ∈ s.line.tail, call.begun = false
  /-- A call that has not had its turn has no answers. -/
  unanswered : ∀ call ∈ s.line, call.begun = false → call.answers = []
  /-- A call that has had its turn waits for a document. -/
  waits : ∀ call ∈ s.line, call.begun = true → (call.reconciliation s.cache).missing ≠ []
  /-- A cycle in the line that has not had its turn has got its endpoints and done no more. -/
  queued : ∀ call ∈ s.line, call.user = .scheduler → call.begun = false →
    ∃ trigger, s.scheduler.activity = .discovering trigger
  /-- A cycle that has had its turn is the one that fetches. -/
  inside : ∀ call ∈ s.line, call.user = .scheduler → call.begun = true →
    ∃ trigger, s.scheduler.activity = .fetching trigger (call.reconciliation s.cache)
  /-- A cycle that fetches is in the line. -/
  fetching : ∀ trigger r, s.scheduler.activity = .fetching trigger r → ∃ call ∈ s.line, call.user = .scheduler

theorem gated_fresh (interval now : Nat) (cache : DocumentCache) (events : EventQueue) (metrics : Metrics) :
    Gated { scheduler := .fresh interval now cache events metrics } where
  orderly := Scheduler.orderly_fresh interval now cache events metrics
  once := List.nodup_nil
  front := by simp
  unanswered := by simp
  waits := by simp
  queued := by simp
  inside := by simp
  fetching := by simp [Scheduler.fresh]

theorem holds_iff {user : CacheUser} : s.holds user = true ↔ ∃ call ∈ s.line, call.user = user := by
  simp [holds]

/-- While the cycle stands in the line it waits for an answer. -/
theorem Gated.awaiting_of_mem (h : Gated s) {call : CacheCall} (hcall : call ∈ s.line) (huser : call.user = .scheduler) :
    ∃ trigger, s.scheduler.activity.awaiting? = some trigger := by
  cases hbegun : call.begun with
  | true =>
    obtain ⟨trigger, hactivity⟩ := h.inside call hcall huser hbegun
    exact ⟨trigger, by rw [hactivity, Activity.awaiting?]⟩
  | false =>
    obtain ⟨trigger, hactivity⟩ := h.queued call hcall huser hbegun
    exact ⟨trigger, by rw [hactivity, Activity.awaiting?]⟩

/-- The line is as it was, and the scheduler does nothing else than before. -/
theorem Gated.of_scheduler (h : Gated s) {moved : Scheduler} (horderly : moved.Orderly)
    (hcache : moved.cache = s.cache) (hactivity : moved.activity = s.scheduler.activity) :
    Gated { s with scheduler := moved } where
  orderly := horderly
  once := h.once
  front := h.front
  unanswered := h.unanswered
  waits := by
    change ∀ call ∈ s.line, _ → (call.reconciliation moved.cache).missing ≠ []
    rw [hcache]
    exact h.waits
  queued := by
    change ∀ call ∈ s.line, _ → _ → ∃ trigger, moved.activity = _
    rw [hactivity]
    exact h.queued
  inside := by
    change ∀ call ∈ s.line, _ → _ → ∃ trigger, moved.activity = .fetching trigger (call.reconciliation moved.cache)
    rw [hactivity, hcache]
    exact h.inside
  fetching := by
    change ∀ trigger r, moved.activity = _ → _
    rw [hactivity]
    exact h.fetching

theorem Gated.not_mem_of_awaiting_eq_none (h : Gated s) (hnone : s.scheduler.activity.awaiting? = none)
    {call : CacheCall} (hcall : call ∈ s.line) : call.user ≠ .scheduler := by
  intro huser
  obtain ⟨trigger, hawaiting⟩ := h.awaiting_of_mem hcall huser
  cases hnone.symm.trans hawaiting

/-- The cycle is not in the line, or not any more. -/
theorem Gated.without_cycle (h : Gated s) {moved : Scheduler} {line : List CacheCall} (horderly : moved.Orderly)
    (hcache : moved.cache = s.cache) (hfetching : ∀ trigger r, moved.activity ≠ .fetching trigger r)
    (hline : line.Sublist s.line) (hno : ∀ call ∈ line, call.user ≠ .scheduler) :
    Gated { scheduler := moved, line, commits := s.commits } where
  orderly := horderly
  once := h.once.sublist (hline.map _)
  front call hcall := h.front call (hline.tail.subset hcall)
  unanswered call hcall := h.unanswered call (hline.subset hcall)
  waits call hcall := by
    change _ → (call.reconciliation moved.cache).missing ≠ []
    rw [hcache]
    exact h.waits call (hline.subset hcall)
  queued call hcall huser := absurd huser (hno call hcall)
  inside call hcall huser := absurd huser (hno call hcall)
  fetching trigger r hactivity := absurd hactivity (hfetching trigger r)

/-- No one in the line has had its turn. -/
theorem gated_of_unbegun (horderly : s.scheduler.Orderly) (honce : (s.line.map (·.user)).Nodup)
    (hbegun : ∀ call ∈ s.line, call.begun = false) (hanswers : ∀ call ∈ s.line, call.answers = [])
    (hqueued : ∀ call ∈ s.line, call.user = .scheduler → ∃ trigger, s.scheduler.activity = .discovering trigger)
    (hfetching : ∀ trigger r, s.scheduler.activity ≠ .fetching trigger r) : Gated s where
  orderly := horderly
  once := honce
  front call hcall := hbegun call (List.mem_of_mem_tail hcall)
  unanswered call hcall _ := hanswers call hcall
  waits call hcall hyes := by
    rw [hbegun call hcall] at hyes
    cases hyes
  queued call hcall huser _ := hqueued call hcall huser
  inside call hcall _ hyes := by
    rw [hbegun call hcall] at hyes
    cases hyes
  fetching trigger r hactivity := absurd hactivity (hfetching trigger r)

/-- The call at the front has had its turn. -/
theorem gated_of_front {call : CacheCall} {rest : List CacheCall} (hline : s.line = call :: rest)
    (horderly : s.scheduler.Orderly) (honce : (s.line.map (·.user)).Nodup) (hbegun : call.begun = true)
    (hwaits : (call.reconciliation s.cache).missing ≠ [])
    (hrest : ∀ c ∈ rest, c.begun = false ∧ c.answers = [])
    (hinside : call.user = .scheduler →
      ∃ trigger, s.scheduler.activity = .fetching trigger (call.reconciliation s.cache))
    (hqueued : ∀ c ∈ rest, c.user = .scheduler → ∃ trigger, s.scheduler.activity = .discovering trigger)
    (hfetching : ∀ trigger r, s.scheduler.activity = .fetching trigger r → call.user = .scheduler) : Gated s where
  orderly := horderly
  once := honce
  front := by
    rw [hline, List.tail_cons]
    exact fun c hc => (hrest c hc).1
  unanswered := by
    rw [hline, List.forall_mem_cons, hbegun]
    exact ⟨fun hno => absurd hno (by simp), fun c hc _ => (hrest c hc).2⟩
  waits := by
    rw [hline, List.forall_mem_cons]
    refine ⟨fun _ => hwaits, fun c hc hyes => ?_⟩
    rw [(hrest c hc).1] at hyes
    cases hyes
  queued := by
    rw [hline, List.forall_mem_cons, hbegun]
    exact ⟨fun _ hno => absurd hno (by simp), fun c hc huser _ => hqueued c hc huser⟩
  inside := by
    rw [hline, List.forall_mem_cons]
    refine ⟨fun huser _ => hinside huser, fun c hc _ hyes => ?_⟩
    rw [(hrest c hc).1] at hyes
    cases hyes
  fetching trigger r hactivity := ⟨call, by simp [hline], hfetching trigger r hactivity⟩

/-! ### The call at the front -/

/-- A call after its turn has come, with what it has got in addition. -/
structure Gains (documents : List (Except FetchError Json)) (old call : CacheCall) : Prop where
  user : call.user = old.user
  target : call.target = old.target
  begun : call.begun = true
  answers : call.answers = old.answers ++ documents

/-- What the call at the front does when it goes on. -/
inductive Advance (documents : List (Except FetchError Json)) (s : SharedCache) : SharedCache → Prop
  /-- It is that of the cycle. -/
  | cycle (old call : CacheCall) (rest : List CacheCall) (metrics : Metrics) (trigger : SyncTrigger)
      (line : s.line = old :: rest) (user : old.user = .scheduler) (gains : Gains documents old call)
      (answers : call.answers.length ≤ (Reconciliation.missingFrom s.cache call.target).length)
      (ledger : (s.scheduler.withMetrics metrics).ledger = s.scheduler.ledger)
      (busy : s.scheduler.activity.awaiting? = some trigger) :
      Advance documents s
        (s.goOn call rest ((s.scheduler.withMetrics metrics).continueCycle trigger (call.reconciliation s.cache)))
  /-- It is that of another user. -/
  | visit (old call : CacheCall) (rest : List CacheCall) (metrics : Metrics)
      (line : s.line = old :: rest) (user : old.user ≠ .scheduler) (gains : Gains documents old call)
      (answers : call.answers.length ≤ (Reconciliation.missingFrom s.cache call.target).length)
      (ledger : (s.scheduler.withMetrics metrics).ledger = s.scheduler.ledger) :
      Advance documents s
        (s.goOn call rest ((s.scheduler.withMetrics metrics).visited (call.reconciliation s.cache)))

theorem Gated.begin_advance (h : Gated s) : s.begin = s ∨ Advance [] s s.begin := by
  rw [begin]
  split
  case h_1 => exact .inl rfl
  case h_2 old rest hline =>
    split
    case isTrue => exact .inl rfl
    case isFalse hbegun =>
      right
      have hmem : old ∈ s.line := by simp [hline]
      have hanswers : old.answers = [] := h.unanswered old hmem (by simpa using hbegun)
      have hreconciliation : old.opened.reconciliation s.cache = .begin s.cache old.target := by
        simp [CacheCall.reconciliation, CacheCall.opened, hanswers]
      cases huser : old.user with
      | scheduler =>
        obtain ⟨trigger, hactivity⟩ := h.queued old hmem huser (by simpa using hbegun)
        have hmoved : s.scheduler.afterOpening old.opened =
            s.scheduler.continueCycle trigger (old.opened.reconciliation s.cache) := by
          rw [hreconciliation]
          simp only [Scheduler.afterOpening, CacheCall.opened, huser, Scheduler.discovered, hactivity]
          rfl
        rw [hmoved]
        exact .cycle old old.opened rest s.scheduler.metrics trigger hline huser
          ⟨rfl, rfl, rfl, by simp [CacheCall.opened]⟩ (by simp [CacheCall.opened, hanswers]) rfl
          (by rw [hactivity, Activity.awaiting?])
      | other id =>
        have hmoved : s.scheduler.afterOpening old.opened =
            s.scheduler.visited (old.opened.reconciliation s.cache) := by
          simp only [Scheduler.afterOpening, CacheCall.opened, huser]
          rfl
        rw [hmoved]
        exact .visit old old.opened rest s.scheduler.metrics hline (by simp [huser])
          ⟨rfl, rfl, rfl, by simp [CacheCall.opened]⟩ (by simp [CacheCall.opened, hanswers]) rfl

theorem Gated.answer_advance (h : Gated s) (document : Except FetchError Json) :
    s.answer document = s ∨ Advance [document] s (s.answer document) := by
  rw [answer]
  split
  case h_1 => exact .inl rfl
  case h_2 old rest hline =>
    split
    case isFalse => exact .inl rfl
    case isTrue hbegun =>
      right
      have hmem : old ∈ s.line := by simp [hline]
      have hreconciliation := CacheCall.reconciliation_answered old s.cache document
      have hanswers : (old.answered document).answers.length ≤
          (Reconciliation.missingFrom s.cache (old.answered document).target).length := by
        have hwaits := h.waits old hmem hbegun
        rw [CacheCall.missing_reconciliation, ne_eq, List.drop_eq_nil_iff] at hwaits
        simp only [CacheCall.answered, List.length_append, List.length_singleton]
        omega
      have hledger := Scheduler.ledger_countFetch s.scheduler document
      cases huser : old.user with
      | scheduler =>
        obtain ⟨trigger, hactivity⟩ := h.inside old hmem huser hbegun
        have hmoved : s.scheduler.afterAnswer (old.answered document) document =
            (s.scheduler.withMetrics (s.scheduler.metrics.countFetch document)).continueCycle trigger
              ((old.answered document).reconciliation s.cache) := by
          rw [hreconciliation]
          simp only [Scheduler.afterAnswer, CacheCall.answered, huser, Scheduler.fetched, hactivity]
          rfl
        rw [hmoved]
        exact .cycle old (old.answered document) rest _ trigger hline huser ⟨rfl, rfl, hbegun, rfl⟩ hanswers hledger
          (by rw [hactivity, Activity.awaiting?])
      | other id =>
        have hmoved : s.scheduler.afterAnswer (old.answered document) document =
            (s.scheduler.withMetrics (s.scheduler.metrics.countFetch document)).visited
              ((old.answered document).reconciliation s.cache) := by
          simp only [Scheduler.afterAnswer, CacheCall.answered, huser]
          rfl
        rw [hmoved]
        exact .visit old (old.answered document) rest _ hline (by simp [huser]) ⟨rfl, rfl, hbegun, rfl⟩ hanswers hledger

/-- Behind the front no one has had its turn. -/
theorem Gated.rest_unbegun (h : Gated s) {old : CacheCall} {rest : List CacheCall} (hline : s.line = old :: rest)
    {call : CacheCall} (hcall : call ∈ rest) : call.begun = false ∧ call.answers = [] ∧ call.user ≠ old.user := by
  have hbegun : call.begun = false := h.front call (by simpa [hline] using hcall)
  have honce := h.once
  rw [hline, List.map_cons, List.nodup_cons] at honce
  refine ⟨hbegun, h.unanswered call (by simp [hline, hcall]) hbegun, fun huser => honce.1 ?_⟩
  rw [← huser]
  exact List.mem_map_of_mem hcall

/-- The line is in order after the call at the front has gone on. -/
theorem Gated.goOn (h : Gated s) {old call : CacheCall} {rest : List CacheCall} {moved : Scheduler}
    (hline : s.line = old :: rest) (hsame : call.user = old.user) (hbegun : call.begun = true)
    (horderly : moved.Orderly)
    (hcycle : call.user = .scheduler → ∃ trigger outcome, moved.activity =
      if (call.reconciliation s.cache).missing = [] then .concluding trigger outcome
      else .fetching trigger (call.reconciliation s.cache))
    (hvisit : call.user ≠ .scheduler → moved.activity = s.scheduler.activity)
    (hcache : (call.reconciliation s.cache).missing ≠ [] → moved.cache = s.cache) : Gated (s.goOn call rest moved) := by
  have hrest : ∀ c ∈ rest, c.begun = false ∧ c.answers = [] :=
    fun c hc => ⟨(h.rest_unbegun hline hc).1, (h.rest_unbegun hline hc).2.1⟩
  have honce := h.once
  rw [hline, List.map_cons] at honce
  -- A cycle further back in the line has got its endpoints, and the call at the front is no concern of it.
  have hqueued : ∀ c ∈ rest, c.user = .scheduler → ∃ trigger, moved.activity = .discovering trigger := by
    intro c hc huser
    have hother : call.user ≠ .scheduler := by
      rw [hsame, ← huser]
      exact (h.rest_unbegun hline hc).2.2.symm
    rw [hvisit hother]
    exact h.queued c (by simp [hline, hc]) huser (hrest c hc).1
  -- Nor does another user's call go on while the cycle fetches.
  have hfetching : call.user ≠ .scheduler → ∀ trigger r, moved.activity ≠ .fetching trigger r := by
    intro hother trigger r hactivity
    obtain ⟨c, hc, huser⟩ := h.fetching trigger r ((hvisit hother).symm.trans hactivity)
    rw [hline] at hc
    rcases List.mem_cons.mp hc with rfl | hc
    · exact hother (hsame.trans huser)
    · obtain ⟨trigger', hdiscovering⟩ := hqueued c hc huser
      cases hdiscovering.symm.trans hactivity
  by_cases hmissing : (call.reconciliation s.cache).missing = []
  · rw [goOn_of_missing_eq_nil s rest moved hmissing]
    refine gated_of_unbegun horderly honce.of_cons (fun c hc => (hrest c hc).1) (fun c hc => (hrest c hc).2) hqueued ?_
    by_cases huser : call.user = .scheduler
    · obtain ⟨trigger, outcome, hconcluding⟩ := hcycle huser
      rw [if_pos hmissing] at hconcluding
      intro t r hactivity
      cases hconcluding.symm.trans hactivity
    · exact hfetching huser
  · rw [goOn_of_missing_ne_nil s rest moved hmissing]
    refine gated_of_front rfl horderly ?_ hbegun ?_ hrest (fun huser => ?_) hqueued (fun t r hactivity => ?_)
    · rwa [List.map_cons, hsame]
    · change (call.reconciliation moved.cache).missing ≠ []
      rwa [hcache hmissing]
    · obtain ⟨trigger, outcome, hactivity⟩ := hcycle huser
      rw [if_neg hmissing] at hactivity
      refine ⟨trigger, ?_⟩
      change moved.activity = .fetching trigger (call.reconciliation moved.cache)
      rw [hactivity, hcache hmissing]
    · exact Classical.byContradiction fun hother => hfetching hother t r hactivity

theorem Gated.advance (h : Gated s) {documents : List (Except FetchError Json)} (hadvance : Advance documents s s')
    (horderly : s'.scheduler.Orderly) : Gated s' := by
  cases hadvance with
  | cycle old call rest metrics trigger hline huser hgains hanswers hledger hbusy =>
    rw [scheduler_goOn] at horderly
    have hactivity := (s.scheduler.withMetrics metrics).activity_continueCycle trigger (call.reconciliation s.cache)
    refine h.goOn hline hgains.user hgains.begun horderly (fun _ => ⟨trigger, _, hactivity⟩)
      (fun hother => absurd (hgains.user.trans huser) hother) (fun hmissing => ?_)
    exact Scheduler.cache_continueCycle_of_missing_ne_nil _ _ hmissing
  | visit old call rest metrics hline huser hgains hanswers hledger =>
    rw [scheduler_goOn] at horderly
    refine h.goOn hline hgains.user hgains.begun horderly (fun hcycle => absurd (hgains.user.symm.trans hcycle) huser)
      (fun _ => ?_) (fun hmissing => ?_)
    · exact Scheduler.activity_visited _ _
    · exact Scheduler.cache_visited_of_missing_ne_nil _ hmissing

/-! ### Every step keeps the line in order -/

theorem Gated.enqueue (h : Gated s) {user : CacheUser} (target : EndpointSet)
    (huser : user = .scheduler → ∃ trigger, s.scheduler.activity = .discovering trigger) :
    Gated (s.enqueue user target) := by
  rw [SharedCache.enqueue]
  split
  case isTrue => exact h
  case isFalse hholds =>
    have hno : ∀ call ∈ s.line, call.user ≠ user := by
      intro call hcall heq
      exact hholds (holds_iff.mpr ⟨call, hcall, heq⟩)
    refine ⟨h.orderly, ?_, fun call hcall => ?_, ?_, ?_, ?_, ?_, fun t r hactivity => ?_⟩
    · rw [List.map_append, List.nodup_append]
      refine ⟨h.once, List.nodup_cons.mpr ⟨List.not_mem_nil, List.nodup_nil⟩, ?_⟩
      intro u hu v hv
      obtain ⟨call, hcall, rfl⟩ := List.mem_map.mp hu
      rw [List.map_singleton, List.mem_singleton] at hv
      rw [hv]
      exact hno call hcall
    · rw [List.tail_append] at hcall
      split at hcall
      · cases hcall
      · rcases List.mem_append.mp hcall with hcall | hcall
        · exact h.front call hcall
        · rw [List.mem_singleton.mp hcall]
    · rw [List.forall_mem_append, List.forall_mem_singleton]
      exact ⟨h.unanswered, fun _ => rfl⟩
    · rw [List.forall_mem_append, List.forall_mem_singleton]
      exact ⟨h.waits, fun hno => absurd hno (by simp)⟩
    · rw [List.forall_mem_append, List.forall_mem_singleton]
      exact ⟨h.queued, fun hcycle _ => huser hcycle⟩
    · rw [List.forall_mem_append, List.forall_mem_singleton]
      exact ⟨h.inside, fun _ hno => absurd hno (by simp)⟩
    · obtain ⟨call, hcall, hcycle⟩ := h.fetching t r hactivity
      exact ⟨call, List.mem_append_left _ hcall, hcycle⟩

theorem Gated.abandon (h : Gated s) (id : Nat) : Gated (s.leave (.other id)) where
  orderly := h.orderly
  once := h.once.sublist (List.filter_sublist.map _)
  front call hcall := h.front call ((List.filter_sublist.tail).subset hcall)
  unanswered call hcall := h.unanswered call (List.mem_filter.mp hcall).1
  waits call hcall := h.waits call (List.mem_filter.mp hcall).1
  queued call hcall := h.queued call (List.mem_filter.mp hcall).1
  inside call hcall := h.inside call (List.mem_filter.mp hcall).1
  fetching t r hactivity := by
    obtain ⟨call, hcall, hcycle⟩ := h.fetching t r hactivity
    exact ⟨call, List.mem_filter.mpr ⟨hcall, by simp [hcycle]⟩, hcycle⟩

theorem Gated.own_quiet (h : Gated s) {step : SchedulerStep} (hdiscovered : ∀ answer, step ≠ .discovered answer)
    (hfetched : ∀ answer, step ≠ .fetched answer) (hstop : step ≠ .stop) : Gated (s.own step) := by
  have horderly := h.orderly.move (own_move s step)
  rw [own_eq_next s hdiscovered hfetched hstop] at horderly ⊢
  cases Scheduler.next_quiet s.scheduler hdiscovered hfetched hstop with
  | concludes hsame =>
    rw [hsame] at horderly ⊢
    rcases s.scheduler.conclude_cases with ⟨trigger, outcome, hactivity, hends⟩ | ⟨-, hidle⟩
    · -- The cycle that tells its outcome has left the line with its commit.
      have hwaits := (s.scheduler.endCycle_leaves trigger outcome).1
      rw [← hends] at hwaits
      exact h.without_cycle horderly s.scheduler.conclude_cache (by simp [hwaits]) (.refl _)
        (fun call hcall => h.not_mem_of_awaiting_eq_none (by rw [hactivity, Activity.awaiting?]) hcall)
    · rw [hidle]
      exact h
  | rests hledger hactivity hjournal => exact h.of_scheduler horderly (congrArg Ledger.cache hledger) hactivity
  | begins trigger hbefore hledger hactivity hjournal =>
    have hwaits : s.scheduler.activity = .waiting := by
      rcases hbefore with hidle | hwaits
      · exact h.orderly.waits (by simp [hidle]) (by simp [hidle])
      · exact hwaits
    refine h.without_cycle horderly (congrArg Ledger.cache hledger) (fun t r hfetching => ?_) (.refl _)
      (fun call hcall => h.not_mem_of_awaiting_eq_none (by rw [hwaits, Activity.awaiting?]) hcall)
    cases hactivity.symm.trans hfetching

theorem Gated.own (h : Gated s) (step : SchedulerStep) : Gated (s.own step) := by
  have horderly := h.orderly.move (own_move s step)
  cases step with
  | discovered answer =>
    cases answer with
    | ok target =>
      rw [SharedCache.own]
      split
      case h_1 trigger hactivity => exact h.enqueue target (fun _ => ⟨trigger, hactivity⟩)
      case h_2 => exact h
    | error cause =>
      rw [SharedCache.own] at horderly ⊢
      split
      case isTrue => exact h
      case isFalse hholds =>
        rw [if_neg hholds] at horderly
        rcases Scheduler.discovered_error_cases s.scheduler cause with hsame | ⟨trigger, -, hends⟩
        · rw [hsame]
          exact h
        · rw [hends] at horderly ⊢
          exact h.without_cycle horderly rfl (by simp) (.refl _)
            (fun call hcall hcycle => hholds (holds_iff.mpr ⟨call, hcall, hcycle⟩))
  | fetched document => exact h
  | stop =>
    rw [SharedCache.own] at horderly ⊢
    split
    case h_1 stopped hstop =>
      rw [hstop] at horderly
      obtain ⟨-, rfl⟩ := Scheduler.stop_eq_ok_iff.mp hstop
      exact h.without_cycle horderly s.scheduler.conclude_cache (by simp) List.filter_sublist
        (fun call hcall => by simpa using (List.mem_filter.mp hcall).2)
    case h_2 => exact h
  | _ => exact h.own_quiet (by simp) (by simp) (by simp)

/-- **Every step keeps the line in order.** -/
theorem Gated.next (h : Gated s) (step : SharedStep) : Gated (s.next step) := by
  have horderly := orderly_next h.orderly step
  cases step with
  | own step => exact h.own step
  | call id target => exact h.enqueue target (by simp)
  | begin =>
    rcases h.begin_advance with hsame | hadvance
    · rw [SharedCache.next, hsame]
      exact h
    · exact h.advance hadvance horderly
  | answer document =>
    rcases h.answer_advance document with hsame | hadvance
    · rw [SharedCache.next, hsame]
      exact h
    · exact h.advance hadvance horderly
  | abandon id => exact h.abandon id

theorem Gated.run (h : Gated s) (steps : List SharedStep) : Gated (s.run steps) :=
  run_induction (fun _ step h => h.next step) h steps

end SharedCache

end LogTagger
