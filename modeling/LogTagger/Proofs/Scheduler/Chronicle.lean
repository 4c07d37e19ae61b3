import LogTagger.Proofs.Cache.SyncRun
import LogTagger.Proofs.Scheduler.Lifecycle

/-!
# The chronicle of a scheduler

Whoever watches a scheduler sees three things: the answers that the steps bring, the entries that are
added to the journal, and the cache. From these a chronicle is kept of the cycles that have come to
their end (`Scheduler.chronicle`), without regard to how the scheduler works.

A cycle commits before it tells its outcome. In between it has not come to its end, but the cache is the
one that it leaves: such a cycle is still untold (`Chronicle.untold?`).

**`Follows.run`**: in every run, whatever is between the steps of a cycle and wherever a stop cuts one
short, the cycles of the chronicle and the untold one are sound, each begins with the cache that the one
before it left, and what the scheduler remembers is the failure of the last one that has come to its end.
`next_cycleMove` says what a step can do to a cycle; an answer that a cycle waits for takes it further
(`Answers`).
-/

namespace LogTagger

/-! ### Watching -/

/-- The cycle under way, as far as it has been seen. -/
structure OpenCycle where
  /-- The cache at its beginning. -/
  before : DocumentCache
  /-- What the search for endpoints gave. -/
  discovery : Option (Except SourceError EndpointSet) := none
  /-- The addresses from which documents have been asked for. -/
  asked : List String := []
  /-- The answers. -/
  answers : List (Except FetchError Json) := []

/-- The cycle that has come to its end with an outcome and a cache, if it was answered. -/
def OpenCycle.close? (o : OpenCycle) (outcome : Except SourceError ReconcileStats) (after : DocumentCache) :
    Option SyncCycle :=
  o.discovery.map fun discovery =>
    { before := o.before, discovery, requests := o.asked.zip o.answers, outcome, after }

/-- What has been seen of a scheduler. -/
structure Chronicle where
  /-- The cycle that was begun last, unless it has come to its end. -/
  current : Option OpenCycle := none
  /-- The cycles that have come to their end, in order. -/
  cycles : List SyncCycle := []

namespace Chronicle

/-- Writes down the answer that a step brings to a scheduler that waits for it. -/
def hear (c : Chronicle) : Activity → SchedulerStep → Chronicle
  | .discovering _, .discovered answer =>
    { c with current := c.current.map fun o => { o with discovery := some answer } }
  | .fetching _ _, .fetched answer =>
    { c with current := c.current.map fun o => { o with answers := o.answers ++ [answer] } }
  | _, _ => c

/-- Writes down an entry of the journal, when the cache is as given after it. -/
def note (cache : DocumentCache) (c : Chronicle) : JournalEntry → Chronicle
  | .discovery _ _ => { c with current := some { before := cache } }
  | .fetch _ url => { c with current := c.current.map fun o => { o with asked := o.asked ++ [url] } }
  | .finished _ outcome =>
    { current := none, cycles := c.cycles ++ (c.current.bind fun o => o.close? outcome cache).toList }

/-- Writes down a step. -/
def watch (c : Chronicle) (s : Scheduler) (step : SchedulerStep) : Chronicle :=
  ((s.next step).journal.drop s.journal.length).foldl (note (s.next step).cache) (c.hear s.activity step)

/-- The cycle that has come to its outcome without having told it. -/
def untold? (c : Chronicle) (s : Scheduler) : Option SyncCycle :=
  match s.activity with
  | .concluding _ outcome => c.current.bind fun o => o.close? outcome s.cache
  | _ => none

/-- The cycles that have left their cache, in order: those that have come to their end, and the untold one. -/
def committed (c : Chronicle) (s : Scheduler) : List SyncCycle := c.cycles ++ (c.untold? s).toList

theorem untold?_of_ne {c : Chronicle} {s : Scheduler} (h : ∀ trigger outcome, s.activity ≠ .concluding trigger outcome) :
    c.untold? s = none := by
  rw [untold?]
  split
  case h_1 trigger outcome hactivity => exact absurd hactivity (h trigger outcome)
  case h_2 => rfl

theorem committed_of_ne {c : Chronicle} {s : Scheduler}
    (h : ∀ trigger outcome, s.activity ≠ .concluding trigger outcome) : c.committed s = c.cycles := by
  rw [committed, untold?_of_ne h, Option.toList_none, List.append_nil]

/-- The untold cycle has left its cache already: with the telling none is added. -/
theorem committed_note_finished {c : Chronicle} {s s' : Scheduler} {trigger : SyncTrigger}
    {outcome : Except SourceError ReconcileStats} (hconcluding : s.activity = .concluding trigger outcome)
    (hactivity : s'.activity = .waiting) (hcache : s'.cache = s.cache) :
    ((c.note s'.cache (.finished trigger outcome)).committed s') = c.committed s := by
  rw [committed_of_ne (by simp [hactivity]), committed, untold?, hconcluding, note, hcache]

end Chronicle

namespace Scheduler

variable {s s' : Scheduler} {step : SchedulerStep} {c : Chronicle}

/-- The chronicle after steps. -/
def chronicleFrom (s : Scheduler) (c : Chronicle) : List SchedulerStep → Chronicle
  | [] => c
  | step :: rest => (s.next step).chronicleFrom (c.watch s step) rest

/-- The chronicle of a run. -/
def chronicle (s : Scheduler) (steps : List SchedulerStep) : Chronicle := s.chronicleFrom {} steps

/-- The outcomes of the cycles that have come to their end, by the journal. -/
def outcomes (s : Scheduler) : List (Except SourceError ReconcileStats) :=
  s.journal.filterMap (fun e => match e with
    | .finished _ outcome => some outcome
    | _ => none)

theorem watch_of_journal {later : List JournalEntry} (h : (s.next step).journal = s.journal ++ later) :
    c.watch s step = later.foldl (Chronicle.note (s.next step).cache) (c.hear s.activity step) := by
  rw [Chronicle.watch, h, List.drop_left]

theorem outcomes_of_journal {later : List JournalEntry} (h : s'.journal = s.journal ++ later) :
    s'.outcomes = s.outcomes ++ later.filterMap (fun e => match e with
      | .finished _ outcome => some outcome
      | _ => none) := by
  rw [outcomes, h, List.filterMap_append, outcomes]

/-! ### What a step does to a cycle -/

/-- A step brings the answer for which a cycle waits, and the cycle has come to a reconciliation. -/
inductive Answers (s : Scheduler) : SchedulerStep → SyncTrigger → Reconciliation → Prop
  | discovered (trigger : SyncTrigger) (target : EndpointSet) (waits : s.activity = .discovering trigger) :
      Answers s (.discovered (.ok target)) trigger (.begin s.cache target)
  | fetched (trigger : SyncTrigger) (r : Reconciliation) (answer : Except FetchError Json)
      (waits : s.activity = .fetching trigger r) : Answers s (.fetched answer) trigger (r.record answer)

/-- A cycle that waits for an answer has come to no outcome. -/
theorem Answers.activity_ne_concluding {trigger : SyncTrigger} {r : Reconciliation} (h : Answers s step trigger r)
    (t : SyncTrigger) (outcome : Except SourceError ReconcileStats) : s.activity ≠ .concluding t outcome := by
  cases h with
  | discovered trigger target waits => simp [waits]
  | fetched trigger r answer waits => simp [waits]

theorem Answers.trigger? {trigger : SyncTrigger} {r : Reconciliation} (h : Answers s step trigger r) :
    s.activity.trigger? = some trigger := by
  cases h with
  | discovered trigger target waits => rw [waits, Activity.trigger?]
  | fetched trigger r answer waits => rw [waits, Activity.trigger?]

/-- The states agree on what a cycle leaves behind. -/
structure SameCache (s s' : Scheduler) : Prop where
  cache : s'.cache = s.cache
  lastError : s'.lastError = s.lastError

/-- All that a step can do to a cycle. -/
inductive CycleMove (s s' : Scheduler) (step : SchedulerStep) : Prop
  /-- It concerns no cycle. -/
  | rests (unheard : ∀ c : Chronicle, c.hear s.activity step = c)
      (started : s'.phase.isStarted = true → s.phase.isStarted = true) (activity : s'.activity = s.activity)
      (same : SameCache s s') (journal : s'.journal = s.journal) (metrics : s'.metrics = s.metrics)
  /-- It begins a cycle. -/
  | begins (trigger : SyncTrigger) (unheard : ∀ c : Chronicle, c.hear s.activity step = c)
      (started : s'.phase.isStarted = true → s.phase.isStarted = true) (before : s.activity = .waiting)
      (activity : s'.activity = .discovering trigger) (same : SameCache s s')
      (journal : s'.journal = s.journal ++ [.discovery trigger s.now]) (metrics : s'.metrics = s.metrics)
  /-- It lets a cycle get no endpoints, and come to its outcome with that. -/
  | fails (trigger : SyncTrigger) (cause : SourceError) (answer : step = .discovered (.error cause))
      (waits : s.activity = .discovering trigger) (phase : s'.phase = s.phase)
      (activity : s'.activity = .concluding trigger (.error cause)) (same : SameCache s s')
      (journal : s'.journal = s.journal) (metrics : s'.metrics = s.metrics)
  /-- It makes a cycle ask for the next document. -/
  | asks (trigger : SyncTrigger) (r : Reconciliation) (id url : String) (rest : List (String × String))
      (answers : Answers s step trigger r) (missing : r.missing = (id, url) :: rest) (phase : s'.phase = s.phase)
      (activity : s'.activity = .fetching trigger r) (same : SameCache s s')
      (journal : s'.journal = s.journal ++ [.fetch id url])
  /-- It makes a cycle commit, and come to its outcome with that. -/
  | commits (trigger : SyncTrigger) (r : Reconciliation) (answers : Answers s step trigger r) (missing : r.missing = [])
      (phase : s'.phase = s.phase) (activity : s'.activity = .concluding trigger (r.outcome (r.commit s.cache).2))
      (cache : s'.cache = (r.commit s.cache).1) (lastError : s'.lastError = s.lastError)
      (journal : s'.journal = s.journal)
  /-- It lets a cycle tell its outcome, and ends it. -/
  | concludes (trigger : SyncTrigger) (outcome : Except SourceError ReconcileStats)
      (unheard : ∀ c : Chronicle, c.hear s.activity step = c) (before : s.activity = .concluding trigger outcome)
      (activity : s'.activity = .waiting) (cache : s'.cache = s.cache) (lastError : s'.lastError = failureText outcome)
      (journal : s'.journal = s.journal ++ [.finished trigger outcome])
      (metrics : s'.metrics = s.metrics.add (.syncCycles trigger outcome.isOk) 1)
  /-- It stops the scheduler, whose cycle has no outcome to tell. -/
  | stops (unheard : ∀ c : Chronicle, c.hear s.activity step = c)
      (before : ∀ trigger outcome, s.activity ≠ .concluding trigger outcome) (phase : s'.phase = .stopped)
      (activity : s'.activity = .waiting) (same : SameCache s s') (journal : s'.journal = s.journal)
      (metrics : s'.metrics = s.metrics)

theorem continueCycle_cycleMove {trigger : SyncTrigger} {r : Reconciliation} (h : Answers s step trigger r)
    (metrics : Metrics) : CycleMove s ({ s with metrics }.continueCycle trigger r) step := by
  rw [continueCycle]
  split
  case h_1 hmissing => exact .commits trigger r h hmissing rfl rfl rfl rfl rfl
  case h_2 id url rest hmissing => exact .asks trigger r id url rest h hmissing rfl rfl ⟨rfl, rfl⟩ rfl

/-- **All that a step can do to a cycle.** -/
theorem Orderly.next_cycleMove (horderly : s.Orderly) (step : SchedulerStep) : CycleMove s (s.next step) step := by
  have hquiet : ∀ {s' : Scheduler} {step : SchedulerStep}, (∀ c : Chronicle, c.hear s.activity step = c) →
      Agrees s s' → CycleMove s s' step := fun hunheard h =>
    .rests hunheard (by rw [h.phase]; exact id) h.activity ⟨h.cache, h.lastError⟩ h.journal h.metrics
  cases step with
  | start =>
    cases h : s.start with
    | error e =>
      rw [next_start_of_error h]
      exact hquiet (by simp [Chronicle.hear]) ⟨rfl, rfl, rfl, rfl, rfl, rfl⟩
    | ok s' =>
      obtain ⟨hidle, rfl⟩ := start_eq_ok_iff.mp h
      have hwaits := horderly.waits (by simp [hidle]) (by simp [hidle])
      rw [next_start_of_ok h]
      refine .begins .startup (by simp [Chronicle.hear]) (fun hstarted => ?_) hwaits rfl ⟨rfl, rfl⟩ rfl rfl
      cases hstarted
  | stop =>
    cases h : s.stop with
    | error e =>
      rw [next_stop_of_error h]
      exact hquiet (by simp [Chronicle.hear]) ⟨rfl, rfl, rfl, rfl, rfl, rfl⟩
    | ok s' =>
      obtain ⟨-, rfl⟩ := stop_eq_ok_iff.mp h
      rw [next_stop_of_ok h]
      rcases s.conclude_cases with ⟨trigger, outcome, hactivity, hends⟩ | ⟨hne, hsame⟩
      · obtain ⟨-, hcache, hlastError, hjournal, -⟩ := s.endCycle_leaves trigger outcome
        rw [hends]
        exact .concludes trigger outcome (by simp [Chronicle.hear]) hactivity rfl hcache hlastError hjournal
          (s.metrics_endCycle trigger outcome)
      · rw [hsame]
        exact .stops (by simp [Chronicle.hear]) hne rfl rfl ⟨rfl, rfl⟩ rfl rfl
  | request => exact hquiet (by simp [Chronicle.hear]) ⟨rfl, rfl, rfl, rfl, rfl, rfl⟩
  | look => exact hquiet (by simp [Chronicle.hear]) ⟨rfl, rfl, rfl, rfl, rfl, rfl⟩
  | pass time => exact hquiet (by simp [Chronicle.hear]) ⟨rfl, rfl, rfl, rfl, rfl, rfl⟩
  | tick =>
    rw [next, fireTimer]
    split <;> exact hquiet (by simp [Chronicle.hear]) ⟨rfl, rfl, rfl, rfl, rfl, rfl⟩
  | offer item =>
    rw [next, offer]
    split <;> exact hquiet (by simp [Chronicle.hear]) ⟨rfl, rfl, rfl, rfl, rfl, rfl⟩
  | endEvents => exact hquiet (by simp [Chronicle.hear]) ⟨rfl, rfl, rfl, rfl, rfl, rfl⟩
  | beginLoop =>
    rw [next, beginLoop]
    split
    case isFalse => exact hquiet (by simp [Chronicle.hear]) ⟨rfl, rfl, rfl, rfl, rfl, rfl⟩
    case isTrue hready =>
      split <;> exact .rests (by simp [Chronicle.hear]) (fun _ => by rw [hready]; rfl) rfl ⟨rfl, rfl⟩ rfl rfl
  | wake =>
    cases h : s.wake with
    | none =>
      rw [next, h]
      exact hquiet (by simp [Chronicle.hear]) s.listen_agrees
    | some s' =>
      rw [next, h, Option.getD_some]
      obtain ⟨-, hwaits, hcases⟩ := wake_cases h
      have hbegins : ∀ trigger (s' : Scheduler), s'.phase = s.phase → SameCache s s' → s'.journal = s.journal →
          s'.now = s.now → s'.metrics = s.metrics → CycleMove s (s'.beginCycle trigger) .wake := by
        intro trigger s' hphase hsame hjournal hnow hmetrics
        refine .begins trigger (by simp [Chronicle.hear]) (fun hstarted => ?_) hwaits rfl
          ⟨hsame.cache, hsame.lastError⟩ ?_ hmetrics
        · rw [← hphase]
          exact hstarted
        · simp [beginCycle, Scheduler.note, hjournal, hnow]
      obtain ⟨-, rfl⟩ | ⟨-, requests, -, rfl⟩ | ⟨-, -, item, rest, -, rfl⟩ := hcases
      · exact hbegins .interval _ rfl ⟨rfl, rfl⟩ rfl rfl rfl
      · exact hbegins .manual _ rfl ⟨rfl, rfl⟩ rfl rfl rfl
      · rw [takeEvent]
        split
        · exact hbegins .event _ rfl ⟨rfl, rfl⟩ rfl rfl rfl
        · exact hquiet (by simp [Chronicle.hear]) ⟨rfl, rfl, rfl, rfl, rfl, rfl⟩
  | discovered answer =>
    rw [next, discovered]
    split
    case h_2 hbusy =>
      refine hquiet (fun c => ?_) ⟨rfl, rfl, rfl, rfl, rfl, rfl⟩
      cases hactivity : s.activity with
      | discovering trigger => exact absurd hactivity (hbusy trigger)
      | waiting | fetching | concluding => rfl
    case h_1 trigger hactivity =>
      cases answer with
      | ok target => exact continueCycle_cycleMove (.discovered trigger target hactivity) s.metrics
      | error cause => exact .fails trigger cause rfl hactivity rfl rfl ⟨rfl, rfl⟩ rfl rfl
  | fetched answer =>
    rw [next, fetched]
    split
    case h_2 hbusy =>
      refine hquiet (fun c => ?_) ⟨rfl, rfl, rfl, rfl, rfl, rfl⟩
      cases hactivity : s.activity with
      | fetching trigger r => exact absurd hactivity (hbusy trigger r)
      | waiting | discovering | concluding => rfl
    case h_1 trigger r hactivity => exact continueCycle_cycleMove (.fetched trigger r answer hactivity) _
  | conclude =>
    rw [next]
    rcases s.conclude_cases with ⟨trigger, outcome, hactivity, hends⟩ | ⟨-, hsame⟩
    · obtain ⟨hwaits, hcache, hlastError, hjournal, -⟩ := s.endCycle_leaves trigger outcome
      rw [hends]
      exact .concludes trigger outcome (by simp [Chronicle.hear]) hactivity hwaits hcache hlastError hjournal
        (s.metrics_endCycle trigger outcome)
    · rw [hsame]
      exact hquiet (by simp [Chronicle.hear]) ⟨rfl, rfl, rfl, rfl, rfl, rfl⟩

/-! ### What the chronicle tells -/

end Scheduler

/-- A cycle with endpoints that has asked for a number of documents and has got some answers. -/
def OpenCycle.upTo (cache : DocumentCache) (target : EndpointSet) (asked : Nat)
    (answers : List (Except FetchError Json)) : OpenCycle :=
  { before := cache
    discovery := some (.ok target)
    asked := ((Reconciliation.missingFrom cache target).take asked).map Prod.snd
    answers }

/-- A cycle that has got all answers ends as a sound one. -/
theorem OpenCycle.exists_close?_upTo (cache : DocumentCache) (metrics : Metrics) (target : EndpointSet)
    {answers : List (Except FetchError Json)}
    (h : answers.length = (Reconciliation.missingFrom cache target).length) :
    ∃ k : SyncCycle, k.Sound ∧ k.before = cache ∧ k.outcome = (cache.reconciledBy metrics target answers).2 ∧
      k.after = (cache.reconciledBy metrics target answers).1.1 ∧
      (upTo cache target answers.length answers).close? k.outcome k.after = some k := by
  refine ⟨_, SyncCycle.sound_of_answers cache metrics target h, rfl, rfl, rfl, ?_⟩
  have hrequests : ((Reconciliation.missingFrom cache target).map Prod.snd).zip answers =
      (Reconciliation.callsOf (Reconciliation.missingFrom cache target) answers).map FetchCall.request := by
    rw [Reconciliation.callsOf, List.map_map, List.zip_map_left]
    rfl
  simp only [close?, upTo, Option.map_some, h, List.take_length, hrequests]

namespace Scheduler

variable {s s' : Scheduler} {step : SchedulerStep} {c : Chronicle} {first : DocumentCache}

/-- The cycle that has been seen is where the scheduler is. -/
def CurrentAt (cache : DocumentCache) (current : Option OpenCycle) : Activity → Prop
  | .waiting => True
  | .discovering _ => current = some { before := cache }
  | .fetching _ r => ∃ target answers, r = answers.foldl Reconciliation.record (.begin cache target) ∧
      answers.length < (Reconciliation.missingFrom cache target).length ∧
      current = some (.upTo cache target (answers.length + 1) answers)
  | .concluding _ outcome => ∃ o k, current = some o ∧ o.close? outcome cache = some k ∧ k.outcome = outcome

/-- With the answer written down, the cycle has come to a reconciliation by the answers that have been seen. -/
theorem Answers.heard {trigger : SyncTrigger} {r : Reconciliation} (h : Answers s step trigger r)
    (hcurrent : CurrentAt s.cache c.current s.activity) :
    ∃ target answers, r = answers.foldl Reconciliation.record (.begin s.cache target) ∧
      answers.length ≤ (Reconciliation.missingFrom s.cache target).length ∧
      c.hear s.activity step = { c with current := some (.upTo s.cache target answers.length answers) } := by
  cases h with
  | discovered trigger target waits =>
    rw [waits] at hcurrent ⊢
    have hcurrent : c.current = some { before := s.cache } := hcurrent
    refine ⟨target, [], rfl, Nat.zero_le _, ?_⟩
    simp [Chronicle.hear, hcurrent, OpenCycle.upTo]
  | fetched trigger r answer waits =>
    rw [waits] at hcurrent ⊢
    obtain ⟨target, answers, rfl, hlength, hcurrent⟩ := hcurrent
    refine ⟨target, answers ++ [answer], by rw [List.foldl_append]; rfl, ?_, ?_⟩
    · rw [List.length_append, List.length_singleton]
      exact hlength
    · simp [Chronicle.hear, hcurrent, OpenCycle.upTo]

/-- What holds of the chronicle of a scheduler in every state. -/
structure Follows (first : DocumentCache) (s : Scheduler) (c : Chronicle) : Prop where
  /-- The scheduler keeps to its order. -/
  orderly : s.Orderly
  /-- Every cycle does what a cycle does. -/
  sound : ∀ k ∈ c.committed s, k.Sound
  /-- The cycles lead from the first cache to the one that the scheduler has. -/
  linked : Linked first (c.committed s) s.cache
  /-- The journal tells of those that have come to their end. -/
  recorded : c.cycles.map (·.outcome) = s.outcomes
  /-- The scheduler remembers the failure of the last one of those. -/
  lastError : s.lastError = c.cycles.getLast?.bind fun k => failureText k.outcome
  /-- With the start a cycle has come to its end. -/
  started : s.phase.isStarted = true → c.cycles ≠ []
  /-- The cycle under way is followed. -/
  current : CurrentAt s.cache c.current s.activity

theorem follows_fresh (interval now : Nat) (cache : DocumentCache) (events : EventQueue) (metrics : Metrics) :
    Follows cache (fresh interval now cache events metrics) {} where
  orderly := orderly_fresh interval now cache events metrics
  sound := by simp [Chronicle.committed, Chronicle.untold?, fresh]
  linked := rfl
  recorded := rfl
  lastError := rfl
  started h := by cases h
  current := trivial

/-- The untold cycle is the one that is followed. -/
theorem Follows.exists_untold (h : Follows first s c) {trigger : SyncTrigger}
    {outcome : Except SourceError ReconcileStats} (hactivity : s.activity = .concluding trigger outcome) :
    ∃ k, c.untold? s = some k ∧ k.outcome = outcome := by
  have hcurrent := h.current
  rw [hactivity] at hcurrent
  obtain ⟨o, k, ho, hclose, houtcome⟩ := hcurrent
  exact ⟨k, by simp [Chronicle.untold?, hactivity, ho, hclose], houtcome⟩

/-- A step that ends no cycle, and with which none comes to its outcome, leaves the cycles of the chronicle. -/
theorem Follows.goes_on (h : Follows first s c) (horderly : s'.Orderly) {c' : Chronicle} (hcycles : c'.cycles = c.cycles)
    (huntold : c'.untold? s' = c.untold? s) (hsame : SameCache s s')
    (hstarted : s'.phase.isStarted = true → s.phase.isStarted = true) (houtcomes : s'.outcomes = s.outcomes)
    (hcurrent : CurrentAt s.cache c'.current s'.activity) : Follows first s' c' where
  orderly := horderly
  sound := by rw [Chronicle.committed, hcycles, huntold]; exact h.sound
  linked := by rw [Chronicle.committed, hcycles, huntold, hsame.cache]; exact h.linked
  recorded := by rw [hcycles, houtcomes]; exact h.recorded
  lastError := by rw [hcycles, hsame.lastError]; exact h.lastError
  started hstarted' := by rw [hcycles]; exact h.started (hstarted hstarted')
  current := by rw [hsame.cache]; exact hcurrent

/-- A sound cycle comes to its outcome from where the chronicle stands: it is untold. -/
theorem Follows.reached (h : Follows first s c) (horderly : s'.Orderly)
    (hne : ∀ trigger outcome, s.activity ≠ .concluding trigger outcome) {c' : Chronicle} (hcycles : c'.cycles = c.cycles)
    {o : OpenCycle} {k : SyncCycle} (hsound : k.Sound) (hbefore : k.before = s.cache) {trigger : SyncTrigger}
    (hactivity : s'.activity = .concluding trigger k.outcome) (hcache : s'.cache = k.after)
    (hopen : c'.current = some o) (hclose : o.close? k.outcome k.after = some k)
    (hphase : s'.phase = s.phase) (hlastError : s'.lastError = s.lastError) (hjournal : s'.journal = s.journal) :
    Follows first s' c' := by
  have huntold : c'.untold? s' = some k := by simp [Chronicle.untold?, hactivity, hopen, hcache, hclose]
  have hcommitted : c'.committed s' = c.committed s ++ [k] := by
    rw [Chronicle.committed, huntold, hcycles, Chronicle.committed_of_ne hne, Option.toList_some]
  refine ⟨horderly, fun k' hk' => ?_, ?_, ?_, ?_, fun hstarted => ?_, ?_⟩
  · rw [hcommitted] at hk'
    rcases List.mem_append.mp hk' with hk' | hk'
    · exact h.sound k' hk'
    · exact List.mem_singleton.mp hk' ▸ hsound
  · rw [hcommitted]
    exact linked_append.mpr ⟨s.cache, h.linked, hbefore, hcache.symm⟩
  · rw [hcycles, outcomes, hjournal]
    exact h.recorded
  · rw [hcycles, hlastError]
    exact h.lastError
  · rw [hcycles]
    exact h.started (hphase ▸ hstarted)
  · rw [hactivity, hcache]
    exact ⟨o, k, hopen, hclose, rfl⟩

/-- The untold cycle tells its outcome, and has come to its end. -/
theorem Follows.ended (h : Follows first s c) (horderly : s'.Orderly) {trigger : SyncTrigger}
    {outcome : Except SourceError ReconcileStats} (hconcluding : s.activity = .concluding trigger outcome)
    (hactivity : s'.activity = .waiting) (hcache : s'.cache = s.cache) (hlastError : s'.lastError = failureText outcome)
    (hjournal : s'.journal = s.journal ++ [.finished trigger outcome]) :
    Follows first s' ([.finished trigger outcome].foldl (Chronicle.note s'.cache) c) := by
  obtain ⟨k, huntold, houtcome⟩ := h.exists_untold hconcluding
  have hclose : (c.current.bind fun o => o.close? outcome s'.cache) = some k := by
    simpa [Chronicle.untold?, hconcluding, hcache] using huntold
  have hwritten : [.finished trigger outcome].foldl (Chronicle.note s'.cache) c =
      { current := none, cycles := c.cycles ++ [k] } := by
    simp [Chronicle.note, hclose]
  have hcommitted := c.committed_note_finished hconcluding hactivity hcache
  rw [List.foldl_cons, List.foldl_nil] at hwritten ⊢
  refine ⟨horderly, ?_, ?_, ?_, ?_, fun _ => ?_, ?_⟩
  · rw [hcommitted]
    exact h.sound
  · rw [hcommitted, hcache]
    exact h.linked
  · rw [hwritten, outcomes_of_journal hjournal, ← h.recorded]
    simp [houtcome]
  · simp [hwritten, hlastError, houtcome]
  · simp [hwritten]
  · rw [hactivity]
    trivial

/-- Whatever the step is, the chronicle follows. -/
theorem Follows.watch (h : Follows first s c) (step : SchedulerStep) :
    Follows first (s.next step) (c.watch s step) := by
  have horderly := h.orderly.move (next_move s step)
  cases h.orderly.next_cycleMove step with
  | rests unheard started activity same journal metrics =>
    rw [watch_of_journal (by rw [journal, List.append_nil]), unheard]
    refine h.goes_on horderly rfl ?_ same started (by rw [outcomes, journal, outcomes]) ?_
    · rw [List.foldl_nil, Chronicle.untold?, Chronicle.untold?, activity, same.cache]
    · rw [activity]
      exact h.current
  | begins trigger unheard started before activity same journal metrics =>
    rw [watch_of_journal journal, unheard]
    refine h.goes_on horderly rfl ?_ same started (by rw [outcomes_of_journal journal]; simp) ?_
    · rw [Chronicle.untold?_of_ne (by simp [activity]), Chronicle.untold?_of_ne (by simp [before])]
    · rw [activity]
      simp [CurrentAt, Chronicle.note, same.cache]
  | fails trigger cause answer waits phase activity same journal metrics =>
    have hcurrent : c.current = some { before := s.cache } := by
      have hat := h.current
      rw [waits] at hat
      exact hat
    have hwatch : c.watch s step =
        { c with current := some { before := s.cache, discovery := some (.error cause) } } := by
      rw [watch_of_journal (by rw [journal, List.append_nil]), answer, waits]
      simp [Chronicle.hear, hcurrent]
    rw [hwatch]
    exact h.reached horderly (by simp [waits]) rfl (SyncCycle.sound_of_error s.cache cause) rfl activity same.cache rfl
      (by simp [OpenCycle.close?]) phase same.lastError journal
  | asks trigger r id url rest answers missing phase activity same journal =>
    obtain ⟨target, seen, hr, hle, hhear⟩ := answers.heard h.current
    rw [hr, Reconciliation.missing_foldl_record] at missing
    have hlt : seen.length < (Reconciliation.missingFrom s.cache target).length := by
      by_contra hno
      rw [List.drop_eq_nil_of_le (Nat.not_lt.mp hno)] at missing
      cases missing
    rw [watch_of_journal journal, hhear]
    refine h.goes_on horderly rfl ?_ same (by rw [phase]; exact fun hstarted => hstarted)
      (by rw [outcomes_of_journal journal]; simp) ?_
    · rw [Chronicle.untold?_of_ne (by simp [activity]), Chronicle.untold?_of_ne answers.activity_ne_concluding]
    · rw [activity]
      refine ⟨target, seen, hr, hlt, ?_⟩
      have hnext : (Reconciliation.missingFrom s.cache target)[seen.length]? = some (id, url) := by
        rw [← List.head?_drop, missing, List.head?_cons]
      simp [Chronicle.note, OpenCycle.upTo, List.take_add_one, hnext]
  | commits trigger r answers missing phase activity cache lastError journal =>
    obtain ⟨target, seen, hr, hle, hhear⟩ := answers.heard h.current
    rw [hr, Reconciliation.missing_foldl_record, List.drop_eq_nil_iff] at missing
    obtain ⟨k, hsound, hbefore, houtcome, hafter, hclose⟩ :=
      OpenCycle.exists_close?_upTo s.cache s.metrics target (Nat.le_antisymm hle missing)
    have houtcome' : r.outcome (r.commit s.cache).2 = k.outcome := by rw [houtcome, hr]; rfl
    have hafter' : (r.commit s.cache).1 = k.after := by rw [hafter, hr]; rfl
    rw [houtcome'] at activity
    rw [hafter'] at cache
    rw [watch_of_journal (by rw [journal, List.append_nil]), hhear]
    exact h.reached horderly answers.activity_ne_concluding rfl hsound hbefore activity cache rfl hclose phase lastError
      journal
  | concludes trigger outcome unheard before activity cache lastError journal metrics =>
    rw [watch_of_journal journal, unheard]
    exact h.ended horderly before activity cache lastError journal
  | stops unheard before phase activity same journal metrics =>
    rw [watch_of_journal (by rw [journal, List.append_nil]), unheard]
    refine h.goes_on horderly rfl ?_ same (fun hstarted => ?_) (by rw [outcomes, journal, outcomes]) ?_
    · rw [Chronicle.untold?_of_ne (by simp [activity]), Chronicle.untold?_of_ne before]
    · rw [phase] at hstarted
      cases hstarted
    · rw [activity]
      trivial

/-- **The chronicle follows the scheduler** through every run. -/
theorem Follows.run (h : Follows first s c) (steps : List SchedulerStep) :
    Follows first (s.run steps) (s.chronicleFrom c steps) := by
  induction steps generalizing s c with
  | nil => exact h
  | cons step rest ih => exact ih (h.watch step)

end Scheduler

end LogTagger
