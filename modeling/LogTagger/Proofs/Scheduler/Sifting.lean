import LogTagger.Proofs.Scheduler.Requests
import Mathlib.Data.List.TakeWhile

/-!
# Schedulers without the events that call for no cycle

Of the stream of container events only creations call for a cycle. The loop takes up any other item as well, but goes
on at once to what is next. `runAtOnce` runs a scheduler whose loop loses no time over such items: nothing happens
between its taking up one of them and its going on. Such a run is a run like any other (`exists_run_of_runAtOnce`), in
which no item without a cycle is left where the loop would take it up (`nextMatters_nextAtOnce_wake`).

**`sifted_runAtOnce`**: with the items that call for no cycle deleted, from the beginning and as they come, the run is
the same in all but those items. A step keeps this (`sifted_nextAtOnce`), and the one that has to be looked at is the
waking of the loop: the items in front that call for no cycle are taken up one after the other, each of them ends the
wait for a request, and the loop begins it again after the last.
-/

namespace LogTagger

/-- Whether a step brings anything but an item that calls for no cycle. -/
def SchedulerStep.matters : SchedulerStep → Bool
  | .offer item => callsForSync item
  | _ => true

/-- The stream without the items that call for no cycle. -/
def EventQueue.sifted (q : EventQueue) : EventQueue := { q with items := q.items.filter callsForSync }

namespace Scheduler

variable {s : Scheduler} {item : EventItem}

/-- The scheduler without the items of its stream that call for no cycle. -/
def sifted (s : Scheduler) : Scheduler := { s with events := s.events.sifted }

@[simp] theorem journal_sifted (s : Scheduler) : s.sifted.journal = s.journal := rfl

@[simp] theorem cache_sifted (s : Scheduler) : s.sifted.cache = s.cache := rfl

@[simp] theorem health_sifted (s : Scheduler) : s.sifted.health = s.health := rfl

/-- The loop is about to take up an item of the stream, if there is one. -/
structure AtStream (s : Scheduler) : Prop where
  listens : s.isListening = true
  quiet : s.tickDue = false
  unasked : s.requests.take? = none

/-- The number of items that the loop takes up one after the other before it comes to anything else. -/
def ignoredAhead (s : Scheduler) : Nat :=
  if s.isListening && !s.tickDue && s.requests.take?.isNone then
    (s.events.items.takeWhile (fun item => !callsForSync item)).length
  else 0

/-- The state after a step, when the loop loses no time over items that call for no cycle. -/
def nextAtOnce (s : Scheduler) : SchedulerStep → Scheduler
  | .wake => s.run (List.replicate (s.ignoredAhead + 1) .wake)
  | step => s.next step

theorem nextAtOnce_of_ne_wake {step : SchedulerStep} (h : step ≠ .wake) : s.nextAtOnce step = s.next step := by
  cases step with
  | wake => exact absurd rfl h
  | _ => rfl

/-- The state after steps, when the loop loses no time over items that call for no cycle. -/
def runAtOnce (s : Scheduler) (steps : List SchedulerStep) : Scheduler := steps.foldl nextAtOnce s

@[simp] theorem runAtOnce_nil (s : Scheduler) : s.runAtOnce [] = s := rfl

@[simp] theorem runAtOnce_cons (s : Scheduler) (step : SchedulerStep) (rest : List SchedulerStep) :
    s.runAtOnce (step :: rest) = (s.nextAtOnce step).runAtOnce rest := rfl

theorem runAtOnce_append (s : Scheduler) (l r : List SchedulerStep) :
    s.runAtOnce (l ++ r) = (s.runAtOnce l).runAtOnce r := by
  simp [runAtOnce]

/-- A run in which the loop loses no time over such items is a run. -/
theorem exists_run_of_runAtOnce (s : Scheduler) (steps : List SchedulerStep) :
    ∃ steps', s.runAtOnce steps = s.run steps' := by
  induction steps generalizing s with
  | nil => exact ⟨[], rfl⟩
  | cons step rest ih =>
    obtain ⟨later, hlater⟩ := ih (s.nextAtOnce step)
    rcases Classical.em (step = .wake) with rfl | hother
    · refine ⟨List.replicate (s.ignoredAhead + 1) .wake ++ later, ?_⟩
      rw [runAtOnce_cons, hlater, run_append]
      rfl
    · refine ⟨step :: later, ?_⟩
      rw [runAtOnce_cons, hlater, nextAtOnce_of_ne_wake hother]
      rfl

/-! ### Cycles do not look at the stream -/

theorem sifted_endCycle (s : Scheduler) (trigger : SyncTrigger) (outcome : Except SourceError ReconcileStats) :
    (s.endCycle trigger outcome).sifted = s.sifted.endCycle trigger outcome := by
  rw [endCycle, endCycle]
  split
  case isTrue h => exact (if_pos h).symm
  case isFalse h => exact (if_neg h).symm

theorem sifted_conclude (s : Scheduler) : s.conclude.sifted = s.sifted.conclude := by
  have hactivity : s.sifted.activity = s.activity := rfl
  rw [conclude, conclude, hactivity]
  split
  · exact sifted_endCycle _ _ _
  · rfl

theorem sifted_continueCycle (s : Scheduler) (trigger : SyncTrigger) (r : Reconciliation) :
    (s.continueCycle trigger r).sifted = s.sifted.continueCycle trigger r := by
  rw [continueCycle, continueCycle]
  split <;> rfl

theorem sifted_discovered (s : Scheduler) (answer : Except SourceError EndpointSet) :
    (s.discovered answer).sifted = s.sifted.discovered answer := by
  have hactivity : s.sifted.activity = s.activity := rfl
  rw [discovered, discovered, hactivity]
  cases s.activity with
  | discovering trigger =>
    cases answer with
    | ok target => exact sifted_continueCycle _ _ _
    | error cause => rfl
  | waiting | fetching | concluding => rfl

theorem sifted_fetched (s : Scheduler) (answer : Except FetchError Json) :
    (s.fetched answer).sifted = s.sifted.fetched answer := by
  have hactivity : s.sifted.activity = s.activity := rfl
  rw [fetched, fetched, hactivity]
  cases s.activity with
  | fetching trigger r => exact sifted_continueCycle _ _ _
  | waiting | discovering | concluding => rfl

theorem sifted_beginLoop (s : Scheduler) : s.beginLoop.sifted = s.sifted.beginLoop := by
  have hphase : s.sifted.phase = s.phase := rfl
  have hinterval : s.sifted.interval = s.interval := rfl
  rw [beginLoop, beginLoop, hphase, hinterval]
  split
  · split <;> rfl
  · rfl

theorem sifted_fireTimer (s : Scheduler) : s.fireTimer.sifted = s.sifted.fireTimer := by
  rw [fireTimer, fireTimer]
  split
  case isTrue h => exact (if_pos h).symm
  case isFalse h => exact (if_neg h).symm

theorem sifted_next_start (s : Scheduler) : (s.next .start).sifted = s.sifted.next .start := by
  have hphase : s.sifted.phase = s.phase := rfl
  rw [next, next, start, start, hphase]
  cases s.phase <;> rfl

theorem sifted_next_stop (s : Scheduler) : (s.next .stop).sifted = s.sifted.next .stop := by
  have hphase : s.sifted.phase = s.phase := rfl
  rw [next, next, stop, stop, hphase, ← sifted_conclude]
  split <;> rfl

/-! ### Items -/

theorem sifted_offer (s : Scheduler) (h : callsForSync item = true) : (s.offer item).sifted = s.sifted.offer item := by
  rw [offer, offer]
  split
  case isTrue hopen =>
    have hopen' : s.sifted.events.isOpen = true := hopen
    rw [if_pos hopen']
    simp [sifted, EventQueue.sifted, h]
  case isFalse hended => exact (if_neg hended).symm

/-- An item that calls for no cycle is gone when it comes. -/
theorem sifted_offer_of_ignored (s : Scheduler) (h : callsForSync item = false) : (s.offer item).sifted = s.sifted := by
  rw [offer]
  split
  · simp [sifted, EventQueue.sifted, h]
  · rfl

/-- What comes after the items in front that call for no cycle begins with one that does. -/
theorem head_dropWhile_ignored (items : List EventItem) :
    ∀ item ∈ (items.dropWhile (fun item => !callsForSync item)).head?, callsForSync item = true := by
  intro item hitem
  have hnot := List.head?_dropWhile_not (fun item => !callsForSync item) items
  rw [Option.mem_def.mp hitem] at hnot
  simpa using hnot

/-- It holds every item that calls for a cycle. -/
theorem filter_dropWhile_ignored (items : List EventItem) :
    (items.dropWhile (fun item => !callsForSync item)).filter callsForSync = items.filter callsForSync := by
  have hnone : (items.takeWhile (fun item => !callsForSync item)).filter callsForSync = [] := by
    rw [List.filter_eq_nil_iff]
    intro item hitem
    simpa using List.mem_takeWhile_imp hitem
  conv_rhs => rw [← List.takeWhile_append_dropWhile (p := fun item => !callsForSync item) (l := items)]
  rw [List.filter_append, hnone, List.nil_append]

/-! ### The waking of the loop -/

/-- The loop has taken up items, so that so many are left, and has not gone on. -/
def skipTo (s : Scheduler) (rest : List EventItem) : Scheduler :=
  { s with events := { s.events with items := rest }, requests := {} }

theorem postpone_of_take?_eq_none {p : PendingRequests} (h : p.take? = none) : p.postpone = {} := by
  obtain ⟨hwoken, hkept⟩ := PendingRequests.take?_eq_none_iff.mp h
  simp [PendingRequests.postpone, hwoken, hkept]

theorem wake_of_not_listening (h : s.isListening = false) : s.wake = none := by
  rw [wake, h, Bool.not_false, if_pos rfl]

theorem wake_of_tick (h : s.isListening = true) (hdue : s.tickDue = true) : s.wake = some s.takeTick := by
  simp only [wake, h, hdue, Bool.not_true, Bool.false_eq_true, if_false, if_true]

theorem wake_of_request (h : s.isListening = true) (hdue : s.tickDue = false) {requests : PendingRequests}
    (htake : s.requests.take? = some requests) : s.wake = some ({ s with requests }.beginCycle .manual) := by
  simp only [wake, h, hdue, htake, Bool.not_true, Bool.false_eq_true, if_false]

namespace AtStream

variable {rest : List EventItem}

theorem skipTo (h : s.AtStream) (rest : List EventItem) : (s.skipTo rest).AtStream := ⟨h.listens, h.quiet, rfl⟩

theorem sifted (h : s.AtStream) : s.sifted.AtStream := ⟨h.listens, h.quiet, h.unasked⟩

theorem wake_of_nil (h : s.AtStream) (hitems : s.events.items = []) : s.wake = none := by
  simp [wake, h.listens, h.quiet, h.unasked, hitems]

theorem wake_of_cons (h : s.AtStream) (hitems : s.events.items = item :: rest) :
    s.wake = some (if callsForSync item then (s.skipTo rest).beginCycle .event else s.skipTo rest) := by
  have htake : s.wake = some (s.takeEvent item rest) := by
    simp [wake, h.listens, h.quiet, h.unasked, hitems]
  rw [htake, takeEvent, postpone_of_take?_eq_none h.unasked]
  rfl

/-- With nothing left on the stream the loop waits for a request. -/
theorem listen_of_nil (h : s.AtStream) (hitems : s.events.items = []) :
    s.listen = { s with requests := { awaited := true } } := by
  obtain ⟨hwoken, hkept⟩ := PendingRequests.take?_eq_none_iff.mp h.unasked
  have hrequests : { s.requests with awaited := true } = ({ awaited := true } : PendingRequests) := by
    simp only [hwoken, hkept]
  rw [listen, h.listens, h.wake_of_nil hitems, Option.isNone_none, Bool.true_and, if_pos rfl, hrequests]

/-- Whether the loop has just taken up an item or waits for a request makes no difference to what it takes up next. -/
theorem wake_skipTo (h : s.AtStream) (hitems : s.events.items = rest) : (s.skipTo rest).wake = s.wake := by
  cases rest with
  | nil => rw [h.wake_of_nil hitems, (h.skipTo []).wake_of_nil rfl]
  | cons item rest =>
    rw [h.wake_of_cons hitems, (h.skipTo (item :: rest)).wake_of_cons rfl]
    rfl

/-- Nor does it if there is nothing to take up. -/
theorem listen_skipTo_nil (h : s.AtStream) (hitems : s.events.items = []) : (s.skipTo []).listen = s.listen := by
  rw [h.listen_of_nil hitems, (h.skipTo []).listen_of_nil rfl, ← hitems]
  rfl

theorem next_wake_skipTo (h : s.AtStream) (hitems : s.events.items = rest) :
    (s.skipTo rest).next .wake = s.next .wake := by
  rw [next, next, h.wake_skipTo hitems]
  cases rest with
  | nil => rw [h.wake_of_nil hitems, Option.getD_none, Option.getD_none, h.listen_skipTo_nil hitems]
  | cons item rest => rw [h.wake_of_cons hitems, Option.getD_some, Option.getD_some]

/-- Items that call for no cycle are taken up one after the other. -/
theorem run_wake (h : s.AtStream) {ignored : List EventItem} (hignored : ∀ item ∈ ignored, callsForSync item = false)
    (hitems : s.events.items = ignored ++ rest) :
    s.run (List.replicate (ignored.length + 1) .wake) = (s.skipTo rest).next .wake := by
  induction ignored generalizing s with
  | nil => exact (h.next_wake_skipTo hitems).symm
  | cons item others ih =>
    rw [List.forall_mem_cons] at hignored
    have hfirst : s.next .wake = s.skipTo (others ++ rest) := by
      rw [next, h.wake_of_cons hitems, Option.getD_some, hignored.1]
      rfl
    rw [List.length_cons, List.replicate_succ, run_cons, hfirst, ih (h.skipTo _) hignored.2 rfl]
    rfl

theorem ignoredAhead (h : s.AtStream) :
    s.ignoredAhead = (s.events.items.takeWhile (fun item => !callsForSync item)).length := by
  simp [Scheduler.ignoredAhead, h.listens, h.quiet, h.unasked]

/-- Where the loop is about to take up items, it goes on at once to the first that calls for a cycle. -/
theorem nextAtOnce_wake (h : s.AtStream) :
    s.nextAtOnce .wake = (s.skipTo (s.events.items.dropWhile (fun item => !callsForSync item))).next .wake := by
  rw [nextAtOnce, h.ignoredAhead]
  refine h.run_wake (fun item hitem => ?_) List.takeWhile_append_dropWhile.symm
  simpa using List.mem_takeWhile_imp hitem

end AtStream

theorem ignoredAhead_of_not_atStream (h : ¬ s.AtStream) : s.ignoredAhead = 0 := by
  rw [ignoredAhead, if_neg]
  intro hall
  simp only [Bool.and_eq_true, Bool.not_eq_true', Option.isNone_iff_eq_none] at hall
  exact h ⟨hall.1.1, hall.1.2, hall.2⟩

/-- If the loop is about to take up an item, that item calls for a cycle. -/
def NextMatters (s : Scheduler) : Prop := s.AtStream → ∀ item ∈ s.events.items.head?, callsForSync item = true

theorem exists_ignored_of_not_nextMatters (h : ¬ s.NextMatters) :
    s.AtStream ∧ ∃ item rest, s.events.items = item :: rest ∧ callsForSync item = false := by
  rw [NextMatters, Classical.not_imp] at h
  refine ⟨h.1, ?_⟩
  cases hitems : s.events.items with
  | nil => simp [hitems] at h
  | cons item rest => exact ⟨item, rest, rfl, by simpa [hitems] using h.2⟩

/-- Then the loop takes up the same without the other items. -/
theorem sifted_wake (h : s.NextMatters) : s.sifted.wake = s.wake.map sifted := by
  by_cases hstream : s.AtStream
  case pos =>
    cases hitems : s.events.items with
    | nil =>
      have hsifted : s.sifted.events.items = [] := by simp [sifted, EventQueue.sifted, hitems]
      rw [hstream.wake_of_nil hitems, hstream.sifted.wake_of_nil hsifted, Option.map_none]
    | cons item rest =>
      have hcalls : callsForSync item = true := h hstream item (by rw [hitems]; rfl)
      have hsifted : s.sifted.events.items = item :: rest.filter callsForSync := by
        simp [sifted, EventQueue.sifted, hitems, hcalls]
      rw [hstream.wake_of_cons hitems, hstream.sifted.wake_of_cons hsifted, if_pos hcalls, if_pos hcalls]
      rfl
  case neg =>
    -- What comes before the stream is there with and without the items.
    cases hlisten : s.isListening with
    | false =>
      have hlisten' : s.sifted.isListening = false := hlisten
      rw [wake_of_not_listening hlisten, wake_of_not_listening hlisten', Option.map_none]
    | true =>
      have hlisten' : s.sifted.isListening = true := hlisten
      cases hdue : s.tickDue with
      | true =>
        have hdue' : s.sifted.tickDue = true := hdue
        rw [wake_of_tick hlisten hdue, wake_of_tick hlisten' hdue']
        rfl
      | false =>
        have hdue' : s.sifted.tickDue = false := hdue
        cases htake : s.requests.take? with
        | none => exact absurd ⟨hlisten, hdue, htake⟩ hstream
        | some requests =>
          rw [wake_of_request hlisten hdue htake, wake_of_request hlisten' hdue' htake]
          rfl

/-- And it waits for a request in the same way. -/
theorem sifted_listen (h : s.NextMatters) : s.listen.sifted = s.sifted.listen := by
  have hlistening : s.sifted.isListening = s.isListening := rfl
  rw [listen, listen, sifted_wake h, Option.isNone_map, hlistening]
  split <;> rfl

theorem sifted_next_wake (h : s.NextMatters) : (s.next .wake).sifted = s.sifted.next .wake := by
  rw [next, next, sifted_wake h]
  cases s.wake with
  | none => exact sifted_listen h
  | some s' => rfl

theorem sifted_nextAtOnce_wake (s : Scheduler) : (s.nextAtOnce .wake).sifted = s.sifted.next .wake := by
  by_cases h : s.AtStream
  case neg =>
    rw [nextAtOnce, ignoredAhead_of_not_atStream h]
    exact sifted_next_wake fun hstream => absurd hstream h
  case pos =>
    have hsifted := filter_dropWhile_ignored s.events.items
    rw [h.nextAtOnce_wake, sifted_next_wake fun _ => head_dropWhile_ignored s.events.items,
      ← h.sifted.next_wake_skipTo hsifted.symm]
    rfl

/-- A loop that has begun a cycle takes up no item. -/
theorem not_atStream_beginCycle (s : Scheduler) (trigger : SyncTrigger) : ¬ (s.beginCycle trigger).AtStream := by
  intro h
  obtain ⟨-, hwaits⟩ := isListening_iff.mp h.listens
  cases hwaits

theorem AtStream.of_listen (h : s.listen.AtStream) : s.AtStream ∧ s.listen.events = s.events := by
  rw [listen] at h ⊢
  split at h
  case isFalse hbusy => exact ⟨h, by rw [if_neg hbusy]⟩
  case isTrue hlistens =>
    have hunasked := PendingRequests.take?_eq_none_iff.mp h.unasked
    exact ⟨⟨h.listens, h.quiet, PendingRequests.take?_eq_none_iff.mpr hunasked⟩, by rw [if_pos hlistens]⟩

theorem nextMatters_next_wake (h : s.NextMatters) : (s.next .wake).NextMatters := by
  intro hstream
  cases hwake : s.wake with
  | none =>
    rw [next, hwake, Option.getD_none] at hstream ⊢
    obtain ⟨hbefore, hevents⟩ := hstream.of_listen
    rw [hevents]
    exact h hbefore
  | some s' =>
    rw [next, hwake, Option.getD_some] at hstream
    obtain ⟨hphase, hwaits, ⟨-, rfl⟩ | ⟨-, requests, -, rfl⟩ | ⟨hdue, htake, item, rest, hitems, rfl⟩⟩ :=
      wake_cases hwake
    · exact absurd hstream (not_atStream_beginCycle _ _)
    · exact absurd hstream (not_atStream_beginCycle _ _)
    · have hcalls := h ⟨isListening_iff.mpr ⟨hphase, hwaits⟩, hdue, htake⟩ item (by rw [hitems]; rfl)
      rw [takeEvent, if_pos hcalls] at hstream
      exact absurd hstream (not_atStream_beginCycle _ _)

/-- **Once the loop has woken, no item that calls for no cycle is left where it would take it up.** -/
theorem nextMatters_nextAtOnce_wake (s : Scheduler) : (s.nextAtOnce .wake).NextMatters := by
  by_cases h : s.AtStream
  case neg =>
    rw [nextAtOnce, ignoredAhead_of_not_atStream h]
    exact nextMatters_next_wake fun hstream => absurd hstream h
  case pos =>
    rw [h.nextAtOnce_wake]
    exact nextMatters_next_wake fun _ => head_dropWhile_ignored s.events.items

/-! ### Steps and runs -/

/-- **A step is the same without the items that call for no cycle**, unless it brings one. -/
theorem sifted_nextAtOnce (s : Scheduler) (step : SchedulerStep) :
    (s.nextAtOnce step).sifted = if step.matters then s.sifted.next step else s.sifted := by
  cases step with
  | start => exact sifted_next_start s
  | stop => exact sifted_next_stop s
  | request => rfl
  | look => rfl
  | pass time => rfl
  | tick => exact sifted_fireTimer s
  | offer item =>
    rw [SchedulerStep.matters]
    split
    case isTrue hcalls => exact sifted_offer s hcalls
    case isFalse hignored => exact sifted_offer_of_ignored s (Bool.not_eq_true _ ▸ hignored)
  | endEvents => rfl
  | beginLoop => exact sifted_beginLoop s
  | wake => exact sifted_nextAtOnce_wake s
  | discovered answer => exact sifted_discovered s answer
  | fetched answer => exact sifted_fetched s answer
  | conclude => exact sifted_conclude s

/-- **A run is the same without the items that call for no cycle.** -/
theorem sifted_runAtOnce (s : Scheduler) (steps : List SchedulerStep) :
    (s.runAtOnce steps).sifted = s.sifted.run (steps.filter SchedulerStep.matters) := by
  induction steps generalizing s with
  | nil => rfl
  | cons step rest ih =>
    rw [runAtOnce_cons, ih, sifted_nextAtOnce, List.filter_cons]
    split <;> rfl

/-- Where requests come while the loop takes up an item that calls for no cycle, the two count as one; without the item
the first of them would have woken the loop. -/
example :
    let started := (fresh 60000 0 {} { isOpen := true } {}).run [.start, .discovered (.ok {}), .conclude, .beginLoop, .wake]
    let steps :=
      [.offer (.ok ⟨⟨"abc"⟩, .started⟩), .wake, .request, .request, .wake, .discovered (.ok {}), .conclude, .wake]
    (started.run steps).triggers = [.startup, .manual] ∧
      (started.sifted.run (steps.filter SchedulerStep.matters)).triggers = [.startup, .manual, .manual] := by
  decide +kernel

/-! ### Streams of creations alone -/

/-- Where every item calls for a cycle the loop loses no time over others. -/
theorem nextAtOnce_eq_next (h : s.sifted = s) (step : SchedulerStep) : s.nextAtOnce step = s.next step := by
  rcases Classical.em (step = .wake) with rfl | hother
  case inr => exact nextAtOnce_of_ne_wake hother
  have hitems : s.events.items.filter callsForSync = s.events.items :=
    congrArg (fun s : Scheduler => s.events.items) h
  have hcalls := List.filter_eq_self.mp hitems
  have hnone : s.ignoredAhead = 0 := by
    rw [ignoredAhead]
    cases hfirst : s.events.items with
    | nil => simp
    | cons item rest => simp [hcalls item (by simp [hfirst])]
  rw [nextAtOnce, hnone]
  rfl

/-- A run with no other items is the same whether the loop loses time over them or not. -/
theorem runAtOnce_filter (h : s.sifted = s) (steps : List SchedulerStep) :
    s.runAtOnce (steps.filter SchedulerStep.matters) = s.run (steps.filter SchedulerStep.matters) := by
  induction steps generalizing s with
  | nil => rfl
  | cons step rest ih =>
    rw [List.filter_cons]
    split
    case isFalse => exact ih h
    case isTrue hmatters =>
      have hnext := sifted_nextAtOnce s step
      rw [if_pos hmatters, nextAtOnce_eq_next h step, h] at hnext
      rw [runAtOnce_cons, run_cons, nextAtOnce_eq_next h step]
      exact ih hnext

theorem sifted_sifted (s : Scheduler) : s.sifted.sifted = s.sifted := by
  simp [sifted, EventQueue.sifted]

end Scheduler

end LogTagger
