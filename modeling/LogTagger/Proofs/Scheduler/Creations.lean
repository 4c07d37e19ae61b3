import LogTagger.Proofs.Scheduler.Accounts
import LogTagger.Proofs.Scheduler.SiftedRehearsal

/-!
# Creations and the cycles that they call for

Each creation that the loop takes up from the stream of container events begins one cycle, and nothing else begins a
cycle for an event. `next_streamMove` says all that a step can do to the stream and to those cycles; from it follows
that the items that were there or have come are those that were taken up and those that are left, in order, and that as
many cycles have begun for events as creations were taken up (`exists_takes_runAtOnce`).

**`only_creations_matter`** is all that is to be said of items: those that call for no cycle might as well not be there,
each creation gives one cycle, which only a stop cuts short, and a stream that has ended leaves the scheduler as if it
had never had one.
-/

namespace LogTagger

/-! ### Items that come -/

namespace SchedulerStep

/-- The item that a step brings. -/
def item? : SchedulerStep → Option EventItem
  | .offer item => some item
  | _ => none

/-- Whether a step leaves the stream open. -/
def keepsOpen : SchedulerStep → Bool
  | .endEvents => false
  | _ => true

/-- The items that steps bring to a stream, until it ends. -/
def arrivals : Bool → List SchedulerStep → List EventItem
  | _, [] => []
  | isOpen, step :: rest => (if isOpen then step.item?.toList else []) ++ arrivals (isOpen && step.keepsOpen) rest

end SchedulerStep

namespace Scheduler

variable {s s' s'' : Scheduler} {step : SchedulerStep}

/-- The number of cycles that an event has begun. -/
def eventCount (s : Scheduler) : Nat := s.triggers.count .event

/-! ### What a step can do -/

/-- All that a step can do to the stream and to the cycles that events have begun. -/
inductive StreamMove (s s' : Scheduler) : SchedulerStep → Prop
  /-- It concerns neither. -/
  | rests (step : SchedulerStep) (ended : ∀ item, step = .offer item → s.events.isOpen = false)
      (other : step ≠ .endEvents) (events : s'.events = s.events) (begun : s'.eventCount = s.eventCount) :
      StreamMove s s' step
  /-- It brings an item. -/
  | brings (item : EventItem) (isOpen : s.events.isOpen = true)
      (events : s'.events = { s.events with items := s.events.items ++ [item] })
      (begun : s'.eventCount = s.eventCount) : StreamMove s s' (.offer item)
  /-- It ends the stream. -/
  | ends (events : s'.events = { s.events with isOpen := false }) (begun : s'.eventCount = s.eventCount) :
      StreamMove s s' .endEvents
  /-- The loop takes up an item, and begins a cycle if the item calls for one. -/
  | takes (item : EventItem) (rest : List EventItem) (before : s.events.items = item :: rest)
      (events : s'.events = { s.events with items := rest })
      (begun : s'.eventCount = s.eventCount + if callsForSync item then 1 else 0) : StreamMove s s' .wake

theorem eventCount_beginCycle (s : Scheduler) (trigger : SyncTrigger) :
    (s.beginCycle trigger).eventCount = s.eventCount + if trigger = .event then 1 else 0 := by
  rw [eventCount, triggers_beginCycle, List.count_append, eventCount, List.count_singleton]
  simp

/-- Only the waking of the loop begins a cycle for an event. -/
theorem eventCount_next (h : step ≠ .wake) : (s.next step).eventCount = s.eventCount := by
  have hmove := next_requestMove s step
  rw [eventCount, eventCount]
  cases hmove with
  | rests _ _ _ triggers => rw [triggers]
  | adds _ triggers => rw [triggers]
  | starts _ _ triggers => simp [triggers]
  | awaits => exact absurd rfl h
  | takes => exact absurd rfl h
  | ticks => exact absurd rfl h
  | passes => exact absurd rfl h

theorem wake_streamMove (s : Scheduler) : StreamMove s (s.next .wake) .wake := by
  cases h : s.wake with
  | none =>
    rw [next, h, Option.getD_none, listen]
    split <;> exact .rests _ (by simp) (by simp) rfl rfl
  | some s' =>
    rw [next, h, Option.getD_some]
    obtain ⟨-, -, ⟨-, rfl⟩ | ⟨-, requests, -, rfl⟩ | ⟨-, -, item, rest, hitems, rfl⟩⟩ := wake_cases h
    · exact .rests _ (by simp) (by simp) rfl (eventCount_beginCycle _ .interval)
    · exact .rests _ (by simp) (by simp) rfl (eventCount_beginCycle _ .manual)
    · refine .takes item rest hitems ?_ ?_ <;> rw [takeEvent] <;> split
      · rfl
      · rfl
      · exact eventCount_beginCycle _ .event
      · rfl

/-- **All that a step can do to the stream and to the cycles that events have begun.** -/
theorem next_streamMove (s : Scheduler) (step : SchedulerStep) : StreamMove s (s.next step) step := by
  cases step with
  | start =>
    refine .rests _ (by simp) (by simp) ?_ (eventCount_next (by simp))
    cases h : s.start with
    | error e => rw [next_start_of_error h]
    | ok s' =>
      obtain ⟨-, rfl⟩ := start_eq_ok_iff.mp h
      rw [next_start_of_ok h]
      rfl
  | stop =>
    refine .rests _ (by simp) (by simp) ?_ (eventCount_next (by simp))
    cases h : s.stop with
    | error e => rw [next_stop_of_error h]
    | ok s' =>
      obtain ⟨-, rfl⟩ := stop_eq_ok_iff.mp h
      rw [next_stop_of_ok h]
      exact s.conclude_sameLoop.events
  | request => exact .rests _ (by simp) (by simp) rfl (eventCount_next (by simp))
  | look => exact .rests _ (by simp) (by simp) rfl rfl
  | pass time => exact .rests _ (by simp) (by simp) rfl rfl
  | tick =>
    refine .rests _ (by simp) (by simp) ?_ (eventCount_next (by simp))
    rw [next, fireTimer]
    split <;> rfl
  | offer item =>
    have hbegun : (s.next (.offer item)).eventCount = s.eventCount := eventCount_next (by simp)
    cases hopen : s.events.isOpen with
    | true => exact .brings item hopen (by rw [next, offer, if_pos hopen]) hbegun
    | false =>
      refine .rests _ (fun _ _ => hopen) (by simp) ?_ hbegun
      rw [next, offer, if_neg (Bool.not_eq_true _ ▸ hopen)]
  | endEvents => exact .ends rfl rfl
  | beginLoop =>
    refine .rests _ (by simp) (by simp) ?_ (eventCount_next (by simp))
    rw [next, beginLoop]
    split
    · split <;> rfl
    · rfl
  | wake => exact wake_streamMove s
  | discovered answer => exact .rests _ (by simp) (by simp) (s.discovered_sameLoop answer).events (eventCount_next (by simp))
  | fetched answer => exact .rests _ (by simp) (by simp) (s.fetched_sameLoop answer).events (eventCount_next (by simp))
  | conclude => exact .rests _ (by simp) (by simp) s.conclude_sameLoop.events (eventCount_next (by simp))

/-! ### What steps take up -/

/-- What the loop has taken up between two states, when some items have come: those that were there or have come are
those that were taken up and those that are left, and each creation has begun one cycle. -/
structure Takes (s s' : Scheduler) (arrived taken : List EventItem) : Prop where
  items : s.events.items ++ arrived = taken ++ s'.events.items
  begun : s'.eventCount = s.eventCount + taken.countP callsForSync

theorem Takes.refl (s : Scheduler) : Takes s s [] [] := ⟨by simp, by simp⟩

theorem Takes.trans {arrived arrived' taken taken' : List EventItem} (h : Takes s s' arrived taken)
    (h' : Takes s' s'' arrived' taken') : Takes s s'' (arrived ++ arrived') (taken ++ taken') where
  items := by rw [← List.append_assoc, h.items, List.append_assoc, h'.items, List.append_assoc]
  begun := by rw [h'.begun, h.begun, List.countP_append, Nat.add_assoc]

theorem StreamMove.isOpen (h : StreamMove s s' step) : s'.events.isOpen = (s.events.isOpen && step.keepsOpen) := by
  cases h with
  | rests _ _ other events => cases step <;> simp [events, SchedulerStep.keepsOpen] at other ⊢
  | brings item isOpen events => simp [events, SchedulerStep.keepsOpen]
  | ends events => simp [events, SchedulerStep.keepsOpen]
  | takes item rest before events => simp [events, SchedulerStep.keepsOpen]

theorem StreamMove.exists_takes (h : StreamMove s s' step) :
    ∃ taken, Takes s s' (if s.events.isOpen then step.item?.toList else []) taken := by
  cases h with
  | rests _ ended _ events begun =>
    have hnothing : (if s.events.isOpen then step.item?.toList else []) = [] := by
      cases step <;> simp_all [SchedulerStep.item?]
    exact ⟨[], by rw [hnothing, List.append_nil, events, List.nil_append], by simpa using begun⟩
  | brings item isOpen events begun =>
    exact ⟨[], by simp [isOpen, events, SchedulerStep.item?], by simpa using begun⟩
  | ends events begun => exact ⟨[], by simp [events, SchedulerStep.item?], by simpa using begun⟩
  | takes item rest before events begun =>
    refine ⟨[item], by simp [before, events, SchedulerStep.item?], ?_⟩
    rw [begun, List.countP_singleton]

/-- Waking the loop takes items up and brings none. -/
theorem exists_takes_wakes (n : Nat) (s : Scheduler) :
    ∃ taken, Takes s (s.run (List.replicate n .wake)) [] taken ∧
      (s.run (List.replicate n .wake)).events.isOpen = s.events.isOpen := by
  induction n generalizing s with
  | zero => exact ⟨[], .refl s, rfl⟩
  | succ n ih =>
    have hmove := next_streamMove s .wake
    obtain ⟨taken, hfirst⟩ := hmove.exists_takes
    obtain ⟨taken', hrest, hopen⟩ := ih (s.next .wake)
    have hnothing : (if s.events.isOpen then SchedulerStep.wake.item?.toList else []) = [] := by
      simp [SchedulerStep.item?]
    rw [hnothing] at hfirst
    exact ⟨taken ++ taken', hfirst.trans hrest, hopen.trans (hmove.isOpen.trans (Bool.and_true _))⟩

theorem exists_takes_nextAtOnce (s : Scheduler) (step : SchedulerStep) :
    (∃ taken, Takes s (s.nextAtOnce step) (if s.events.isOpen then step.item?.toList else []) taken) ∧
      (s.nextAtOnce step).events.isOpen = (s.events.isOpen && step.keepsOpen) := by
  rcases Classical.em (step = .wake) with rfl | hother
  · obtain ⟨taken, htakes, hopen⟩ := exists_takes_wakes (s.ignoredAhead + 1) s
    rw [← nextAtOnce] at htakes hopen
    exact ⟨⟨taken, by simpa [SchedulerStep.item?] using htakes⟩, by simpa [SchedulerStep.keepsOpen] using hopen⟩
  · rw [nextAtOnce_of_ne_wake hother]
    exact ⟨(next_streamMove s step).exists_takes, (next_streamMove s step).isOpen⟩

/-- **Each creation that is taken up begins one cycle**, and nothing else begins one for an event. -/
theorem exists_takes_runAtOnce (s : Scheduler) (steps : List SchedulerStep) :
    ∃ taken, Takes s (s.runAtOnce steps) (SchedulerStep.arrivals s.events.isOpen steps) taken := by
  induction steps generalizing s with
  | nil => exact ⟨[], .refl s⟩
  | cons step rest ih =>
    obtain ⟨⟨taken, hfirst⟩, hopen⟩ := exists_takes_nextAtOnce s step
    obtain ⟨taken', hrest⟩ := ih (s.nextAtOnce step)
    rw [hopen] at hrest
    exact ⟨taken ++ taken', hfirst.trans hrest⟩

/-! ### Streams that have ended -/

/-- A stream that has ended takes no items. -/
theorem run_filter_of_ended (h : s.events.isOpen = false) (steps : List SchedulerStep) :
    s.run (steps.filter SchedulerStep.matters) = s.run steps := by
  induction steps generalizing s with
  | nil => rfl
  | cons step rest ih =>
    have hended : (s.next step).events.isOpen = false := by rw [(next_streamMove s step).isOpen, h, Bool.false_and]
    rw [List.filter_cons]
    split
    case isTrue => exact ih hended
    case isFalse hignored =>
      cases step with
      | offer item =>
        have hsame : s.next (.offer item) = s := by rw [next, offer, if_neg (Bool.not_eq_true _ ▸ h)]
        rw [ih h, run_cons, hsame]
      | _ => exact absurd rfl hignored

/-- Where the stream has ended and no creation is left there might as well be none. -/
theorem sifted_of_ended (hended : s.events.isOpen = false)
    (hnone : ∀ item ∈ s.events.items, callsForSync item = false) : s.sifted = { s with events := {} } := by
  have hitems : s.events.items.filter callsForSync = [] := by
    rw [List.filter_eq_nil_iff]
    intro item hitem
    simp [hnone item hitem]
  rw [sifted, EventQueue.sifted, hitems, hended]

/-! ### All that is to be said of items -/

theorem callsForSync_ok_iff (id : ContainerId) (action : String) :
    callsForSync (.ok ⟨id, .ofAction action⟩) = true ↔ action = "create" := by
  simp only [callsForSync, ContainerEvent.triggersSync, EventKind.ofAction]
  split <;> simp_all

/-- What becomes of a run with a stream of container events, when the loop loses no time over items that call for no
cycle. -/
structure Creations (s : Scheduler) (steps : List SchedulerStep) : Prop where
  /-- The events that call for a cycle are creations. -/
  creation : ∀ id action, callsForSync (.ok ⟨id, .ofAction action⟩) = true ↔ action = "create"
  /-- A failure calls for none. -/
  failure : ∀ cause, callsForSync (.error cause) = false
  /-- Without the items that call for none, from the beginning and as they come, the run is the same in all but those
  items. -/
  same : (s.runAtOnce steps).sifted = s.sifted.runAtOnce (steps.filter SchedulerStep.matters)
  /-- So its cycles begin for the same reasons at the same times, ask for the same and turn out alike. -/
  journal : (s.runAtOnce steps).journal = (s.sifted.runAtOnce (steps.filter SchedulerStep.matters)).journal
  /-- The cache holds the same documents and agents. -/
  cache : (s.runAtOnce steps).cache = (s.sifted.runAtOnce (steps.filter SchedulerStep.matters)).cache
  /-- The health is the same. -/
  health : (s.runAtOnce steps).health = (s.sifted.runAtOnce (steps.filter SchedulerStep.matters)).health
  /-- As many cycles begin for events as creations are taken up; each comes to its end, but for one that is under way or
  that a stop has cut short. -/
  taken : ∃ taken current,
    s.events.items ++ SchedulerStep.arrivals s.events.isOpen steps = taken ++ (s.runAtOnce steps).events.items ∧
    (s.runAtOnce steps).triggers.count .event = taken.countP callsForSync ∧
    (s.runAtOnce steps).triggers = (s.runAtOnce steps).conclusions.map Prod.fst ++ Option.toList current ∧
    ((s.runAtOnce steps).phase ≠ .stopped → current = (s.runAtOnce steps).activity.trigger?)
  /-- Once the stream has ended and no creation is left, the scheduler goes on as one that has no stream. -/
  ended : (s.runAtOnce steps).events.isOpen = false →
    (∀ item ∈ (s.runAtOnce steps).events.items, callsForSync item = false) →
      ∀ later, (s.runAtOnce (steps ++ later)).sifted = { s.runAtOnce steps with events := {} }.run later
  /-- A rehearsal, too, is the same without the items that call for no cycle, whatever the collaborators answer and
  however long they take. -/
  rehearsed : ∀ (discovery : Delayed (Except SourceError EndpointSet))
      (document : String → Delayed (Except FetchError Json)) (acts : List Rehearsal.Act),
    (acts.foldl Rehearsal.act { scheduler := s, discovery, document }).sifted =
      (acts.filter Rehearsal.Act.matters).foldl Rehearsal.act { scheduler := s.sifted, discovery, document }

theorem sifted_runAtOnce_eq (s : Scheduler) (steps : List SchedulerStep) :
    (s.runAtOnce steps).sifted = s.sifted.runAtOnce (steps.filter SchedulerStep.matters) := by
  rw [sifted_runAtOnce, runAtOnce_filter s.sifted_sifted]

theorem Orderly.runAtOnce (h : s.Orderly) (steps : List SchedulerStep) : (s.runAtOnce steps).Orderly := by
  obtain ⟨steps', hrun⟩ := s.exists_run_of_runAtOnce steps
  rw [hrun]
  exact h.run steps'

/-- **Only creations matter** to a scheduler, and each of them once. -/
theorem only_creations_matter (interval now : Nat) (cache : DocumentCache) (events : EventQueue) (metrics : Metrics)
    (steps : List SchedulerStep) : Creations (fresh interval now cache events metrics) steps := by
  have hsame := (fresh interval now cache events metrics).sifted_runAtOnce_eq steps
  constructor
  case creation => exact callsForSync_ok_iff
  case failure => exact fun _ => rfl
  case same => exact hsame
  case journal => rw [← journal_sifted, hsame]
  case cache => rw [← cache_sifted, hsame]
  case health => rw [← health_sifted, hsame]
  case taken =>
    obtain ⟨taken, htakes⟩ := (fresh interval now cache events metrics).exists_takes_runAtOnce steps
    have horderly := (orderly_fresh interval now cache events metrics).runAtOnce steps
    obtain ⟨current, hcurrent⟩ := Option.isSome_iff_exists.mp horderly.apart
    refine ⟨taken, current, htakes.items, htakes.begun.trans (Nat.zero_add _), triggers_eq hcurrent, fun hphase => ?_⟩
    exact Option.some.inj (hcurrent.symm.trans (horderly.current hphase))
  case ended =>
    intro hended hnone later
    rw [runAtOnce_append, sifted_runAtOnce, sifted_of_ended hended hnone]
    exact run_filter_of_ended rfl later
  case rehearsed => exact fun discovery document acts => Rehearsal.sifted_foldl_act (.of_none rfl) acts

end Scheduler

end LogTagger
