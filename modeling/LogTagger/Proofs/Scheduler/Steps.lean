import LogTagger.Scheduler.Basic

/-!
# The steps of a scheduler

A run is any sequence of steps: calls from outside, the passing of time, changes of the stream of
container events, what the loop does by itself, and answers of any content. A step for which the
scheduler is not ready leaves it as it is, so every sequence is a run.

A call of `stop` stands in a run where it returns: what the loop still does between the call and its
return comes before it, or with it. A cycle that has its endpoints and waits for its turn at the cache
is still one that waits for the endpoints: `discovered` is the step in which it goes on. Between the
step in which a cycle commits and `conclude`, in which it tells its outcome, anyone else may act.

`next_move` says all that a step can do to the stage, to the cycle under way, to the cache and to the
journal. What is to be proved of every step is proved by its cases.
-/

namespace LogTagger

/-- A step of a scheduler. -/
inductive SchedulerStep where
  /-- A call of `start`. -/
  | start
  /-- The return of a call of `stop`. -/
  | stop
  /-- A request of a cycle. -/
  | request
  /-- A look at the health. -/
  | look
  /-- The passing of time. -/
  | pass (time : Nat)
  /-- A tick of the timer, if it is due. -/
  | tick
  /-- An item on the stream of container events. -/
  | offer (item : EventItem)
  /-- The end of the stream of container events. -/
  | endEvents
  /-- The beginning of the loop. -/
  | beginLoop
  /-- The loop takes up what is ready, or waits. -/
  | wake
  /-- The answer to a search for endpoints. -/
  | discovered (answer : Except SourceError EndpointSet)
  /-- The answer to a request of a document. -/
  | fetched (answer : Except FetchError Json)
  /-- The cycle that has come to its outcome tells it. -/
  | conclude

namespace Activity

/-- The trigger of the cycle under way. -/
def trigger? : Activity → Option SyncTrigger
  | .waiting => none
  | .discovering trigger => some trigger
  | .fetching trigger _ => some trigger
  | .concluding trigger _ => some trigger

/-- The trigger of the cycle that waits for an answer. -/
def awaiting? : Activity → Option SyncTrigger
  | .waiting => none
  | .discovering trigger => some trigger
  | .fetching trigger _ => some trigger
  | .concluding _ _ => none

/-- A cycle that waits for an answer is under way. -/
theorem trigger?_of_awaiting? {a : Activity} {trigger : SyncTrigger} (h : a.awaiting? = some trigger) :
    a.trigger? = some trigger := by
  cases a <;> simp_all [awaiting?, trigger?]

/-- A cycle under way waits for an answer or has come to its outcome. -/
theorem eq_waiting_of_awaiting? {a : Activity} (h : a.awaiting? = none)
    (hne : ∀ trigger outcome, a ≠ .concluding trigger outcome) : a = .waiting := by
  cases a with
  | waiting => rfl
  | discovering trigger => cases h
  | fetching trigger r => cases h
  | concluding trigger outcome => exact absurd rfl (hne trigger outcome)

end Activity

namespace Scheduler

/-- The state after a step. A call that is rejected leaves it as it was. -/
def next (s : Scheduler) : SchedulerStep → Scheduler
  | .start => s.start.toOption.getD s
  | .stop => s.stop.toOption.getD s
  | .request => s.request
  | .look => s
  | .pass time => s.pass time
  | .tick => s.fireTimer
  | .offer item => s.offer item
  | .endEvents => s.endEvents
  | .beginLoop => s.beginLoop
  | .wake => s.wake.getD s.listen
  | .discovered answer => s.discovered answer
  | .fetched answer => s.fetched answer
  | .conclude => s.conclude

/-- The state after steps. -/
def run (s : Scheduler) (steps : List SchedulerStep) : Scheduler := steps.foldl next s

@[simp] theorem run_nil (s : Scheduler) : s.run [] = s := rfl

@[simp] theorem run_cons (s : Scheduler) (step : SchedulerStep) (rest : List SchedulerStep) :
    s.run (step :: rest) = (s.next step).run rest := rfl

theorem run_append (s : Scheduler) (l r : List SchedulerStep) : s.run (l ++ r) = (s.run l).run r := by
  simp [run]

/-- What a state has and every step keeps, every state of a run has. -/
theorem run_induction {P : Scheduler → Prop} (hstep : ∀ s step, P s → P (s.next step)) {s : Scheduler} (h : P s)
    (steps : List SchedulerStep) : P (s.run steps) := by
  induction steps generalizing s with
  | nil => exact h
  | cons step rest ih => exact ih (hstep s step h)

/-! ### What a step can do -/

/-- The states differ at most in the time and in what the loop has still to take up. -/
structure Agrees (s s' : Scheduler) : Prop where
  phase : s'.phase = s.phase
  activity : s'.activity = s.activity
  lastError : s'.lastError = s.lastError
  cache : s'.cache = s.cache
  metrics : s'.metrics = s.metrics
  journal : s'.journal = s.journal

/-- All that a step can do. -/
inductive Move (s s' : Scheduler) : Prop
  /-- It changes nothing but the time and what the loop has still to take up. -/
  | idles (agrees : Agrees s s')
  /-- It starts the scheduler, and with it the first cycle. -/
  | starts (before : s.phase = .idle) (phase : s'.phase = .starting) (activity : s'.activity = .discovering .startup)
      (cache : s'.cache = s.cache) (journal : s'.journal = s.journal ++ [.discovery .startup s.now])
  /-- It begins the loop, which may break at once. -/
  | begins (before : s.phase = .ready) (phase : s'.phase = .running ∨ s'.phase = .broken)
      (activity : s'.activity = s.activity) (cache : s'.cache = s.cache) (journal : s'.journal = s.journal)
  /-- The waiting loop begins a cycle. -/
  | discovers (trigger : SyncTrigger) (before : s.phase = .running) (waits : s.activity = .waiting)
      (phase : s'.phase = .running) (activity : s'.activity = .discovering trigger)
      (cache : s'.cache = s.cache) (journal : s'.journal = s.journal ++ [.discovery trigger s.now])
  /-- The cycle under way asks for a document. -/
  | fetches (trigger : SyncTrigger) (r : Reconciliation) (id url : String)
      (before : s.activity.awaiting? = some trigger)
      (phase : s'.phase = s.phase) (activity : s'.activity = .fetching trigger r)
      (cache : s'.cache = s.cache) (journal : s'.journal = s.journal ++ [.fetch id url])
  /-- The cycle under way comes to its outcome, and may leave another cache. -/
  | reaches (trigger : SyncTrigger) (outcome : Except SourceError ReconcileStats)
      (before : s.activity.awaiting? = some trigger)
      (phase : s'.phase = s.phase) (activity : s'.activity = .concluding trigger outcome)
      (lastError : s'.lastError = s.lastError) (journal : s'.journal = s.journal)
  /-- The cycle under way tells its outcome and comes to its end, which for the first one is that of the
  start. -/
  | finishes (trigger : SyncTrigger) (outcome : Except SourceError ReconcileStats)
      (before : s.activity = .concluding trigger outcome)
      (phase : s'.phase = if s.phase = .starting then .ready else s.phase) (activity : s'.activity = .waiting)
      (cache : s'.cache = s.cache) (journal : s'.journal = s.journal ++ [.finished trigger outcome])
  /-- It stops the scheduler, when the cycle under way has told the outcome to which it has come; one that
  has come to none is cut short. -/
  | stops (before : s.phase.isStarted = true) (phase : s'.phase = .stopped) (activity : s'.activity = .waiting)
      (cache : s'.cache = s.cache) (journal : s'.journal = s.conclude.journal)

theorem Move.refl (s : Scheduler) : Move s s := .idles ⟨rfl, rfl, rfl, rfl, rfl, rfl⟩

/-- What the end of a cycle leaves. -/
theorem endCycle_leaves (s : Scheduler) (trigger : SyncTrigger) (outcome : Except SourceError ReconcileStats) :
    (s.endCycle trigger outcome).activity = .waiting ∧ (s.endCycle trigger outcome).cache = s.cache ∧
      (s.endCycle trigger outcome).lastError = failureText outcome ∧
      (s.endCycle trigger outcome).journal = s.journal ++ [.finished trigger outcome] ∧
      (s.endCycle trigger outcome).phase = if s.phase = .starting then .ready else s.phase := by
  rw [endCycle]
  split <;> exact ⟨rfl, rfl, rfl, rfl, rfl⟩

theorem metrics_endCycle (s : Scheduler) (trigger : SyncTrigger) (outcome : Except SourceError ReconcileStats) :
    (s.endCycle trigger outcome).metrics = s.metrics.add (.syncCycles trigger outcome.isOk) 1 := by
  rw [endCycle]
  split <;> rfl

/-- The states agree on the time and on what the loop has still to take up. -/
structure SameLoop (s s' : Scheduler) : Prop where
  interval : s'.interval = s.interval
  now : s'.now = s.now
  nextTick : s'.nextTick = s.nextTick
  tickDue : s'.tickDue = s.tickDue
  requests : s'.requests = s.requests
  events : s'.events = s.events

namespace SameLoop

variable {s s' s'' : Scheduler}

theorem refl (s : Scheduler) : SameLoop s s := ⟨rfl, rfl, rfl, rfl, rfl, rfl⟩

theorem trans (h : SameLoop s s') (h' : SameLoop s' s'') : SameLoop s s'' where
  interval := h'.interval.trans h.interval
  now := h'.now.trans h.now
  nextTick := h'.nextTick.trans h.nextTick
  tickDue := h'.tickDue.trans h.tickDue
  requests := h'.requests.trans h.requests
  events := h'.events.trans h.events

end SameLoop

theorem continueCycle_sameLoop (s : Scheduler) (metrics : Metrics) (trigger : SyncTrigger) (r : Reconciliation) :
    SameLoop s ({ s with metrics }.continueCycle trigger r) := by
  rw [continueCycle]
  split <;> exact ⟨rfl, rfl, rfl, rfl, rfl, rfl⟩

theorem discovered_sameLoop (s : Scheduler) (answer : Except SourceError EndpointSet) :
    SameLoop s (s.discovered answer) := by
  rw [discovered]
  split
  case h_2 => exact .refl s
  case h_1 trigger hactivity =>
    cases answer with
    | ok target => exact s.continueCycle_sameLoop s.metrics trigger _
    | error cause => exact ⟨rfl, rfl, rfl, rfl, rfl, rfl⟩

theorem fetched_sameLoop (s : Scheduler) (answer : Except FetchError Json) : SameLoop s (s.fetched answer) := by
  rw [fetched]
  split
  case h_2 => exact .refl s
  case h_1 trigger r hactivity => exact s.continueCycle_sameLoop _ trigger _

theorem endCycle_sameLoop (s : Scheduler) (trigger : SyncTrigger) (outcome : Except SourceError ReconcileStats) :
    SameLoop s (s.endCycle trigger outcome) := by
  rw [endCycle]
  split <;> exact ⟨rfl, rfl, rfl, rfl, rfl, rfl⟩

theorem conclude_of_concluding {s : Scheduler} {trigger : SyncTrigger} {outcome : Except SourceError ReconcileStats}
    (h : s.activity = .concluding trigger outcome) : s.conclude = s.endCycle trigger outcome := by
  rw [conclude, h]

/-- A cycle that has come to no outcome has none to tell. -/
theorem conclude_of_ne {s : Scheduler} (h : ∀ trigger outcome, s.activity ≠ .concluding trigger outcome) :
    s.conclude = s := by
  rw [conclude]
  split
  case h_1 trigger outcome hactivity => exact absurd hactivity (h trigger outcome)
  case h_2 => rfl

/-- A cycle tells the outcome to which it has come, or has none to tell. -/
theorem conclude_cases (s : Scheduler) :
    (∃ trigger outcome, s.activity = .concluding trigger outcome ∧ s.conclude = s.endCycle trigger outcome) ∨
      (∀ trigger outcome, s.activity ≠ .concluding trigger outcome) ∧ s.conclude = s := by
  cases hactivity : s.activity with
  | concluding trigger outcome => exact .inl ⟨trigger, outcome, rfl, conclude_of_concluding hactivity⟩
  | waiting => exact .inr ⟨by simp, conclude_of_ne (by simp [hactivity])⟩
  | discovering trigger => exact .inr ⟨by simp, conclude_of_ne (by simp [hactivity])⟩
  | fetching trigger r => exact .inr ⟨by simp, conclude_of_ne (by simp [hactivity])⟩

/-- To tell an outcome leaves the cache. -/
@[simp] theorem conclude_cache (s : Scheduler) : s.conclude.cache = s.cache := by
  rcases s.conclude_cases with ⟨trigger, outcome, -, hends⟩ | ⟨-, hsame⟩
  · rw [hends]
    exact (s.endCycle_leaves trigger outcome).2.1
  · rw [hsame]

/-- The loop has no part in the telling. -/
theorem conclude_sameLoop (s : Scheduler) : SameLoop s s.conclude := by
  rcases s.conclude_cases with ⟨trigger, outcome, -, hends⟩ | ⟨-, hsame⟩
  · rw [hends]
    exact s.endCycle_sameLoop trigger outcome
  · rw [hsame]
    exact .refl s

theorem conclude_move (s : Scheduler) : Move s s.conclude := by
  rcases s.conclude_cases with ⟨trigger, outcome, hactivity, hends⟩ | ⟨-, hsame⟩
  · obtain ⟨hwaits, hcache, -, hjournal, hphase⟩ := s.endCycle_leaves trigger outcome
    rw [hends]
    exact .finishes trigger outcome hactivity hphase hwaits hcache hjournal
  · rw [hsame]
    exact .refl s

theorem continueCycle_move {s : Scheduler} {trigger : SyncTrigger} (h : s.activity.awaiting? = some trigger)
    (metrics : Metrics) (r : Reconciliation) : Move s ({ s with metrics }.continueCycle trigger r) := by
  rw [continueCycle]
  split
  · exact .reaches trigger _ h rfl rfl rfl rfl
  · exact .fetches trigger r _ _ h rfl rfl rfl rfl

theorem discovered_move (s : Scheduler) (answer : Except SourceError EndpointSet) : Move s (s.discovered answer) := by
  rw [discovered]
  split
  case h_2 => exact .refl s
  case h_1 trigger hactivity =>
    have h : s.activity.awaiting? = some trigger := by rw [hactivity, Activity.awaiting?]
    cases answer with
    | ok target => exact continueCycle_move h s.metrics _
    | error cause => exact .reaches trigger (.error cause) h rfl rfl rfl rfl

theorem fetched_move (s : Scheduler) (answer : Except FetchError Json) : Move s (s.fetched answer) := by
  rw [fetched]
  split
  case h_2 => exact .refl s
  case h_1 trigger r hactivity =>
    have h : s.activity.awaiting? = some trigger := by rw [hactivity, Activity.awaiting?]
    exact continueCycle_move h _ _

theorem isListening_iff {s : Scheduler} : s.isListening = true ↔ s.phase = .running ∧ s.activity = .waiting := by
  rw [isListening]
  split
  case h_1 hphase hactivity => simp [hphase, hactivity]
  case h_2 hno =>
    constructor
    · intro h
      cases h
    · rintro ⟨hphase, hactivity⟩
      exact absurd hactivity (hno hphase)

/-- To wait for a request changes nothing else. -/
theorem listen_agrees (s : Scheduler) : Agrees s s.listen := by
  rw [listen]
  split <;> exact ⟨rfl, rfl, rfl, rfl, rfl, rfl⟩

/-- What the waiting loop takes up: the timer, else a request, else an item of the stream of container events. -/
theorem wake_cases {s s' : Scheduler} (h : s.wake = some s') :
    s.phase = .running ∧ s.activity = .waiting ∧
      ((s.tickDue = true ∧ s' = s.takeTick) ∨
      (s.tickDue = false ∧ ∃ requests, s.requests.take? = some requests ∧
        s' = { s with requests }.beginCycle .manual) ∨
      (s.tickDue = false ∧ s.requests.take? = none ∧ ∃ item rest, s.events.items = item :: rest ∧
        s' = s.takeEvent item rest)) := by
  rw [wake] at h
  by_cases hlistening : s.isListening = true
  case neg => simp [hlistening] at h
  obtain ⟨hphase, hwaits⟩ := isListening_iff.mp hlistening
  simp only [hlistening, Bool.not_true, Bool.false_eq_true, if_false] at h
  refine ⟨hphase, hwaits, ?_⟩
  split at h
  case isTrue htick => exact .inl ⟨htick, (Option.some.inj h).symm⟩
  case isFalse htick =>
    rw [Bool.not_eq_true] at htick
    split at h
    case h_1 items requests htake => exact .inr (.inl ⟨htick, requests, htake, (Option.some.inj h).symm⟩)
    case h_2 item rest htake hitems =>
      exact .inr (.inr ⟨htick, htake, item, rest, hitems, (Option.some.inj h).symm⟩)
    case h_3 => cases h

theorem wake_move {s s' : Scheduler} (h : s.wake = some s') : Move s s' := by
  obtain ⟨hphase, hwaits, ⟨-, rfl⟩ | ⟨-, requests, -, rfl⟩ | ⟨-, -, item, rest, -, rfl⟩⟩ := wake_cases h
  · exact .discovers .interval hphase hwaits hphase rfl rfl rfl
  · exact .discovers .manual hphase hwaits hphase rfl rfl rfl
  · rw [takeEvent]
    split
    · exact .discovers .event hphase hwaits hphase rfl rfl rfl
    · exact .idles ⟨rfl, rfl, rfl, rfl, rfl, rfl⟩

theorem start_eq_ok_iff {s s' : Scheduler} :
    s.start = .ok s' ↔ s.phase = .idle ∧ s' = { s with phase := .starting }.beginCycle .startup := by
  cases h : s.phase <;> simp [start, h, eq_comm]

theorem stop_eq_ok_iff {s s' : Scheduler} :
    s.stop = .ok s' ↔ s.phase.isStarted = true ∧ s' = { s.conclude with phase := .stopped, activity := .waiting } := by
  by_cases h : s.phase.isStarted = true <;> simp [stop, h, eq_comm]

theorem next_start_of_ok {s s' : Scheduler} (h : s.start = .ok s') : s.next .start = s' := by
  rw [next, h]
  rfl

theorem next_stop_of_ok {s s' : Scheduler} (h : s.stop = .ok s') : s.next .stop = s' := by
  rw [next, h]
  rfl

theorem next_start_of_error {s : Scheduler} {e : LifecycleError} (h : s.start = .error e) : s.next .start = s := by
  rw [next, h]
  rfl

theorem next_stop_of_error {s : Scheduler} {e : LifecycleError} (h : s.stop = .error e) : s.next .stop = s := by
  rw [next, h]
  rfl

/-- **All that a step can do** is one of the moves. -/
theorem next_move (s : Scheduler) (step : SchedulerStep) : Move s (s.next step) := by
  cases step with
  | start =>
    cases h : s.start with
    | error e =>
      rw [next_start_of_error h]
      exact .refl s
    | ok s' =>
      obtain ⟨hidle, rfl⟩ := start_eq_ok_iff.mp h
      rw [next_start_of_ok h]
      exact .starts hidle rfl rfl rfl rfl
  | stop =>
    cases h : s.stop with
    | error e =>
      rw [next_stop_of_error h]
      exact .refl s
    | ok s' =>
      obtain ⟨hstarted, rfl⟩ := stop_eq_ok_iff.mp h
      rw [next_stop_of_ok h]
      exact .stops hstarted rfl rfl s.conclude_cache rfl
  | request => exact .idles ⟨rfl, rfl, rfl, rfl, rfl, rfl⟩
  | look => exact .refl s
  | pass time => exact .idles ⟨rfl, rfl, rfl, rfl, rfl, rfl⟩
  | tick =>
    rw [next, fireTimer]
    split <;> exact .idles ⟨rfl, rfl, rfl, rfl, rfl, rfl⟩
  | offer item =>
    rw [next, offer]
    split <;> exact .idles ⟨rfl, rfl, rfl, rfl, rfl, rfl⟩
  | endEvents => exact .idles ⟨rfl, rfl, rfl, rfl, rfl, rfl⟩
  | beginLoop =>
    rw [next, beginLoop]
    split
    case isFalse => exact .refl s
    case isTrue hready =>
      split
      · exact .begins hready (.inr rfl) rfl rfl rfl
      · exact .begins hready (.inl rfl) rfl rfl rfl
  | wake =>
    cases h : s.wake with
    | none =>
      rw [next, h]
      exact .idles s.listen_agrees
    | some s' =>
      rw [next, h]
      exact wake_move h
  | discovered answer => exact discovered_move s answer
  | fetched answer => exact fetched_move s answer
  | conclude => exact conclude_move s

end Scheduler

end LogTagger
