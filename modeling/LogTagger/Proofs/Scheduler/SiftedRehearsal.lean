import LogTagger.Proofs.Scheduler.Rehearsal
import LogTagger.Proofs.Scheduler.Sifting

/-!
# Rehearsals without the events that call for no cycle

In a rehearsal the loop takes up one item after the other without time passing, and goes on until nothing is left to
take up. **`sifted_foldl_act`**: with the items that call for no cycle deleted, from the beginning and as they come, a
rehearsal is the same in all but those items, whatever the collaborators answer and however long they take.

The one act that has to be looked at is `settle`, which wakes the loop so many times as something may be pending.
Without the items less is pending, so it wakes the loop fewer times; that comes to the same because what is pending is
enough (`sifted_rouse`). Between two wakings a cycle goes on as far as it can, which does nothing where none is under
way (`Quiet.proceed_of_waiting`).
-/

namespace LogTagger

namespace Rehearsal

variable {r : Rehearsal} {s s' : Scheduler}

/-- The rehearsal without the items of the stream that call for no cycle. -/
def sifted (r : Rehearsal) : Rehearsal := { r with scheduler := r.scheduler.sifted }

/-- Whether an act brings anything but an item that calls for no cycle. -/
def Act.matters : Act → Bool
  | .change (.event item) => callsForSync item
  | _ => true

/-- An answer is on its way only to a cycle that is under way. -/
def Quiet (r : Rehearsal) : Prop := r.scheduler.activity = .waiting → r.flight = none

/-! ### Exchanging answers -/

theorem sifted_ask (r : Rehearsal) : r.ask.sifted = r.sifted.ask := by
  obtain ⟨scheduler, discovery, document, flight, seen⟩ := r
  have hactivity : scheduler.sifted.activity = scheduler.activity := rfl
  cases flight with
  | some flight => rfl
  | none =>
    simp only [ask, sifted, hactivity]
    cases scheduler.activity with
    | waiting => rfl
    | discovering trigger => rfl
    | concluding trigger outcome => rfl
    | fetching trigger rec =>
      cases hmissing : rec.missing with
      | nil => simp only [hmissing]
      | cons e rest => simp only [hmissing]; rfl

theorem sifted_deliver (s : Scheduler) (flight : Flight) : (deliver s flight).sifted = deliver s.sifted flight := by
  cases flight with
  | discovery answer => rw [deliver, deliver, Scheduler.sifted_conclude, Scheduler.sifted_discovered]
  | document answer => rw [deliver, deliver, Scheduler.sifted_conclude, Scheduler.sifted_fetched]

theorem sifted_receive (r : Rehearsal) : r.receive.sifted = r.sifted.receive := by
  obtain ⟨scheduler, discovery, document, flight, seen⟩ := r
  rcases flight with _ | ⟨flight, _ | arrival⟩
  · rfl
  · simp only [receive, sifted, sifted_deliver]
  · by_cases harrived : arrival ≤ seen
    · simp [receive, sifted, harrived, sifted_deliver]
    · simp [receive, sifted, harrived]

theorem sifted_jump (r : Rehearsal) : r.jump.sifted = r.sifted.jump := by
  obtain ⟨scheduler, discovery, document, flight, seen⟩ := r
  rcases flight with _ | ⟨flight, _ | arrival⟩ <;> rfl

theorem sifted_exchange (n : Nat) (r : Rehearsal) : (r.exchange n).sifted = r.sifted.exchange n := by
  induction n generalizing r with
  | zero => rfl
  | succ n ih => rw [exchange, ih, sifted_receive, sifted_ask, exchange]

theorem sifted_exchangeInTime (n : Nat) (r : Rehearsal) : (r.exchangeInTime n).sifted = r.sifted.exchangeInTime n := by
  induction n generalizing r with
  | zero => rfl
  | succ n ih => rw [exchangeInTime, ih, sifted_receive, sifted_jump, sifted_ask, exchangeInTime]

theorem sifted_proceed (r : Rehearsal) : r.proceed.sifted = r.sifted.proceed := by
  rw [proceed, proceed, sifted_exchange, ← sifted_exchange 1 r]
  rfl

theorem sifted_complete (r : Rehearsal) : r.complete.sifted = r.sifted.complete := by
  rw [complete, complete, sifted_exchangeInTime, ← sifted_exchangeInTime 1 r]
  rfl

/-! ### Answers on their way -/

theorem Quiet.of_busy (h : r.scheduler.activity ≠ .waiting) : r.Quiet := fun hwaits => absurd hwaits h

theorem Quiet.of_none (h : r.flight = none) : r.Quiet := fun _ => h

theorem Quiet.ask (h : r.Quiet) : r.ask.Quiet := by
  intro hwaits
  rw [scheduler_ask] at hwaits
  rw [Rehearsal.ask, hwaits, h hwaits]
  exact h hwaits

theorem Quiet.receive (h : r.Quiet) : r.receive.Quiet := by
  rw [Rehearsal.receive]
  split
  · exact .of_none rfl
  · split
    · exact .of_none rfl
    · exact h
  · exact h

theorem Quiet.jump (h : r.Quiet) : r.jump.Quiet := by
  rw [Rehearsal.jump]
  split <;> exact h

theorem Quiet.exchange (h : r.Quiet) (n : Nat) : (r.exchange n).Quiet := by
  induction n generalizing r with
  | zero => exact h
  | succ n ih => exact ih h.ask.receive

theorem Quiet.exchangeInTime (h : r.Quiet) (n : Nat) : (r.exchangeInTime n).Quiet := by
  induction n generalizing r with
  | zero => exact h
  | succ n ih => exact ih h.ask.jump.receive

theorem Quiet.proceed (h : r.Quiet) : r.proceed.Quiet := (h.exchange 1).exchange _

theorem Quiet.complete (h : r.Quiet) : r.complete.Quiet := (h.exchangeInTime 1).exchangeInTime _

/-- Where no cycle is under way nothing is asked and nothing answered. -/
theorem Quiet.proceed_of_waiting (h : r.Quiet) (hwaits : r.scheduler.activity = .waiting) : r.proceed = r := by
  have hexchange : r.exchange 1 = r := by
    have hask : r.ask = r := by rw [Rehearsal.ask, hwaits, h hwaits]
    rw [Rehearsal.exchange, Rehearsal.exchange, hask, Rehearsal.receive, h hwaits]
  rw [Rehearsal.proceed, hexchange, Scheduler.missingCount, hwaits]
  rfl

/-! ### What is pending -/

theorem pendingCount_of_sameLoop (h : s.SameLoop s') : s'.pendingCount = s.pendingCount := by
  rw [Scheduler.pendingCount, h.tickDue, h.requests, h.events, Scheduler.pendingCount]

theorem pendingCount_deliver (s : Scheduler) (flight : Flight) : (deliver s flight).pendingCount = s.pendingCount := by
  cases flight with
  | discovery answer => exact pendingCount_of_sameLoop ((s.discovered_sameLoop answer).trans (Scheduler.conclude_sameLoop _))
  | document answer => exact pendingCount_of_sameLoop ((s.fetched_sameLoop answer).trans (Scheduler.conclude_sameLoop _))

theorem pendingCount_receive (r : Rehearsal) : r.receive.scheduler.pendingCount = r.scheduler.pendingCount := by
  rw [receive]
  split
  · exact pendingCount_deliver _ _
  · split
    · exact pendingCount_deliver _ _
    · rfl
  · rfl

theorem pendingCount_exchange (n : Nat) (r : Rehearsal) :
    (r.exchange n).scheduler.pendingCount = r.scheduler.pendingCount := by
  induction n generalizing r with
  | zero => rfl
  | succ n ih => rw [exchange, ih, pendingCount_receive, scheduler_ask]

/-- A cycle that goes on takes up nothing that is pending. -/
theorem pendingCount_proceed (r : Rehearsal) : r.proceed.scheduler.pendingCount = r.scheduler.pendingCount := by
  rw [proceed, pendingCount_exchange, pendingCount_exchange]

/-- Each waking takes up something. -/
theorem pendingCount_of_wake (h : s.wake = some s') : s'.pendingCount < s.pendingCount := by
  obtain ⟨-, -, ⟨hdue, rfl⟩ | ⟨hdue, requests, htake, rfl⟩ | ⟨hdue, htake, item, rest, hitems, rfl⟩⟩ :=
    Scheduler.wake_cases h
  · have hcount := s.requests.count_postpone_le
    change (false).toNat + s.requests.postpone.count + s.events.items.length < _
    rw [Scheduler.pendingCount, hdue]
    simp only [Bool.toNat_true, Bool.toNat_false]
    omega
  · have hcount := PendingRequests.count_of_take? htake
    change s.tickDue.toNat + requests.count + s.events.items.length < _
    rw [Scheduler.pendingCount]
    omega
  · have hcount := s.requests.count_postpone_le
    have htaken : (s.takeEvent item rest).pendingCount = s.tickDue.toNat + s.requests.postpone.count + rest.length := by
      rw [Scheduler.takeEvent]
      split <;> rfl
    rw [htaken, Scheduler.pendingCount, hitems, List.length_cons]
    omega

/-! ### Waking as often as something may be pending -/

theorem rouse_of_wake_none (h : r.proceed.scheduler.wake = none) (n : Nat) : rouse n r = r.proceed := by
  cases n with
  | zero => rfl
  | succ n => rw [rouse, h]

theorem rouse_succ_of_wake (h : r.proceed.scheduler.wake = some s) (n : Nat) :
    rouse (n + 1) r = rouse n { r.proceed with scheduler := s } := by
  rw [rouse, h]

theorem rouse_proceed (h : r.proceed.proceed = r.proceed) (n : Nat) : rouse n r.proceed = rouse n r := by
  cases n with
  | zero => exact h
  | succ n => rw [rouse, rouse, h]

/-- The loop waits for a request if there is nothing to take up. -/
def listen (r : Rehearsal) : Rehearsal := { r with scheduler := r.scheduler.listen }

theorem Quiet.wake (h : r.Quiet) (hwake : r.scheduler.wake = some s) : Quiet { r with scheduler := s } := by
  obtain ⟨-, hwaits, -⟩ := Scheduler.wake_cases hwake
  exact .of_none (h hwaits)

theorem activity_beginLoop (s : Scheduler) : s.beginLoop.activity = s.activity := by
  rw [Scheduler.beginLoop]
  split
  · split <;> rfl
  · rfl

theorem Quiet.of_activity (h : r.Quiet) (hactivity : s.activity = r.scheduler.activity) :
    Quiet { r with scheduler := s } := fun hwaits => h (hactivity.symm.trans hwaits)

theorem Quiet.beginLoop (h : r.Quiet) : Quiet { r with scheduler := r.scheduler.beginLoop } :=
  h.of_activity (activity_beginLoop _)

theorem Quiet.rouse (h : r.Quiet) (n : Nat) : (Rehearsal.rouse n r).Quiet := by
  induction n generalizing r with
  | zero => exact h.proceed
  | succ n ih =>
    rw [Rehearsal.rouse]
    split
    case h_1 s hwake => exact ih (h.proceed.wake hwake)
    case h_2 => exact h.proceed

/-- Where the loop is about to take up an item, the rehearsal stands still. -/
theorem Quiet.proceed_of_atStream (h : r.Quiet) (hstream : r.scheduler.AtStream) : r.proceed = r :=
  h.proceed_of_waiting (Scheduler.isListening_iff.mp hstream.listens).2

/-- Whether the loop has just taken up an item makes no difference to how far it comes. -/
theorem listen_rouse_skipTo (h : r.Quiet) (hstream : r.scheduler.AtStream) {rest : List EventItem}
    (hitems : r.scheduler.events.items = rest) {n : Nat} (hn : r.scheduler.pendingCount ≤ n) :
    (rouse n { r with scheduler := r.scheduler.skipTo rest }).listen = (rouse n r).listen := by
  have hstill := h.proceed_of_atStream hstream
  have hskipped : Quiet { r with scheduler := r.scheduler.skipTo rest } := h
  have hstill' := hskipped.proceed_of_atStream (hstream.skipTo rest)
  have hwake := hstream.wake_skipTo hitems
  cases rest with
  | nil =>
    have hnone := hstream.wake_of_nil hitems
    rw [rouse_of_wake_none (by rw [hstill']; exact hwake.trans hnone), rouse_of_wake_none (by rw [hstill, hnone]),
      hstill, hstill', listen, listen, hstream.listen_skipTo_nil hitems]
  | cons item rest =>
    have hsome := hstream.wake_of_cons hitems
    have hpending : r.scheduler.events.items.length ≤ n := Nat.le_trans (Nat.le_add_left _ _) hn
    rw [hitems, List.length_cons] at hpending
    obtain ⟨k, rfl⟩ : ∃ k, n = k + 1 := ⟨n - 1, by omega⟩
    rw [rouse_succ_of_wake (by rw [hstill']; exact hwake.trans hsome), rouse_succ_of_wake (by rw [hstill, hsome]),
      hstill, hstill']

/-- What the loop has taken up is not pending. -/
theorem pendingCount_skipTo_le (s : Scheduler) {rest : List EventItem} (hitems : s.events.items = rest) :
    (s.skipTo rest).pendingCount ≤ s.pendingCount := by
  change s.tickDue.toNat + 0 + rest.length ≤ _
  rw [Scheduler.pendingCount, hitems]
  omega

theorem Quiet.sifted (h : r.Quiet) : r.sifted.Quiet := h

/-- **However often the loop is woken, it comes as far without the items that call for no cycle**, if it is woken often
enough for what is pending. -/
theorem sifted_rouse {n m : Nat} (h : r.Quiet) (hn : r.scheduler.pendingCount ≤ n)
    (hm : r.sifted.scheduler.pendingCount ≤ m) : (rouse n r).listen.sifted = (rouse m r.sifted).listen := by
  induction hpending : r.scheduler.pendingCount using Nat.strong_induction_on generalizing r n m with
  | _ pending ih =>
    subst hpending
    have hsifted : r.sifted.proceed = r.proceed.sifted := (sifted_proceed r).symm
    have hm' : r.sifted.proceed.scheduler.pendingCount ≤ m := by rwa [pendingCount_proceed]
    by_cases hmatters : r.proceed.scheduler.NextMatters
    case pos =>
      have hwake : r.sifted.proceed.scheduler.wake = r.proceed.scheduler.wake.map Scheduler.sifted := by
        rw [hsifted]
        exact Scheduler.sifted_wake hmatters
      cases hw : r.proceed.scheduler.wake with
      | none =>
        rw [hw, Option.map_none] at hwake
        rw [rouse_of_wake_none hw, rouse_of_wake_none hwake, hsifted]
        exact congrArg (fun s => { r.proceed with scheduler := s }) (Scheduler.sifted_listen hmatters)
      | some s =>
        rw [hw, Option.map_some] at hwake
        have hless := pendingCount_of_wake hw
        have hless' := pendingCount_of_wake hwake
        rw [pendingCount_proceed] at hless
        obtain ⟨k, rfl⟩ : ∃ k, n = k + 1 := ⟨n - 1, by omega⟩
        obtain ⟨j, rfl⟩ : ∃ j, m = j + 1 := ⟨m - 1, by omega⟩
        rw [rouse_succ_of_wake hw, rouse_succ_of_wake hwake, hsifted]
        exact ih _ hless (h.proceed.wake hw) (Nat.le_of_lt_succ (Nat.lt_of_lt_of_le hless hn))
          (Nat.le_of_lt_succ (Nat.lt_of_lt_of_le hless' hm')) rfl
    case neg =>
      -- The next item calls for no cycle; without it the loop stands where it stood.
      obtain ⟨hstream, item, rest, hitems, hignored⟩ := Scheduler.exists_ignored_of_not_nextMatters hmatters
      have hw := hstream.wake_of_cons hitems
      rw [if_neg (by simp [hignored])] at hw
      have hless := pendingCount_of_wake hw
      rw [pendingCount_proceed] at hless
      obtain ⟨k, rfl⟩ : ∃ k, n = k + 1 := ⟨n - 1, by omega⟩
      have hstream' : r.sifted.proceed.scheduler.AtStream := by
        rw [hsifted]
        exact hstream.sifted
      have hitems' : r.sifted.proceed.scheduler.events.items = rest.filter callsForSync := by
        rw [hsifted]
        simp [sifted, Scheduler.sifted, EventQueue.sifted, hitems, hignored]
      have hstill : r.sifted.proceed.proceed = r.sifted.proceed := h.sifted.proceed.proceed_of_atStream hstream'
      have hskip := listen_rouse_skipTo h.sifted.proceed hstream' hitems' hm'
      rw [rouse_proceed hstill] at hskip
      have hleft : sifted { r.proceed with scheduler := r.proceed.scheduler.skipTo rest } =
          { r.sifted.proceed with scheduler := r.sifted.proceed.scheduler.skipTo (rest.filter callsForSync) } := by
        rw [hsifted]
        rfl
      have hpending := pendingCount_skipTo_le r.sifted.proceed.scheduler hitems'
      rw [rouse_succ_of_wake hw, ← hskip, ← hleft]
      refine ih _ hless (h.proceed.wake hw) (Nat.le_of_lt_succ (Nat.lt_of_lt_of_le hless hn)) ?_ rfl
      rw [hleft]
      exact Nat.le_trans hpending hm'

/-! ### Acts -/

theorem sifted_settle (h : r.Quiet) : r.settle.sifted = r.sifted.settle := by
  have hpending (s : Scheduler) : s.beginLoop.pendingCount = s.pendingCount := by
    rw [Scheduler.beginLoop]
    split
    · split <;> rfl
    · rfl
  have hbegun : Quiet { r with scheduler := r.scheduler.beginLoop } := h.beginLoop
  have hsifted : sifted { r with scheduler := r.scheduler.beginLoop } =
      { r.sifted with scheduler := r.sifted.scheduler.beginLoop } :=
    congrArg (fun s => { r with scheduler := s }) (Scheduler.sifted_beginLoop r.scheduler)
  have hrouse := sifted_rouse (m := r.sifted.scheduler.pendingCount) hbegun (Nat.le_of_eq (hpending r.scheduler))
    (by rw [hsifted]; exact Nat.le_of_eq (hpending r.sifted.scheduler))
  rw [hsifted] at hrouse
  exact hrouse

theorem Quiet.settle (h : r.Quiet) : r.settle.Quiet :=
  (h.beginLoop.rouse _).of_activity (Scheduler.listen_agrees _).activity

theorem sifted_look (r : Rehearsal) : r.look.sifted = r.sifted.look := by
  rw [look, look, sifted, Scheduler.sifted_fireTimer]
  rfl

theorem Quiet.look (h : r.Quiet) : r.look.Quiet := by
  have hactivity : r.scheduler.fireTimer.activity = r.scheduler.activity := by
    rw [Scheduler.fireTimer]
    split <;> rfl
  exact fun hwaits => h (hactivity.symm.trans hwaits)

theorem sifted_advance (h : r.Quiet) (time : Nat) : (r.advance time).sifted = r.sifted.advance time := by
  have hpassed : Quiet { r with scheduler := r.scheduler.pass time } := h.of_activity rfl
  rw [advance, sifted_settle hpassed.settle.look, sifted_look, sifted_settle hpassed]
  rfl

theorem Quiet.advance (h : r.Quiet) (time : Nat) : (r.advance time).Quiet := by
  have hpassed : Quiet { r with scheduler := r.scheduler.pass time } := h.of_activity rfl
  exact hpassed.settle.look.settle

theorem sifted_waitUntil (h : r.Quiet) (fuel target : Nat) :
    (waitUntil fuel target r).sifted = waitUntil fuel target r.sifted := by
  induction fuel generalizing r with
  | zero => rfl
  | succ fuel ih =>
    have hmoment : r.sifted.nextMoment? = r.nextMoment? := rfl
    have hnow : r.sifted.scheduler.now = r.scheduler.now := rfl
    rw [waitUntil, waitUntil, hmoment, hnow]
    split
    case h_1 t _ =>
      split
      · rw [ih (h.advance _), sifted_advance h]
      · exact sifted_advance h _
    case h_2 => exact sifted_advance h _

theorem Quiet.waitUntil (h : r.Quiet) (fuel target : Nat) : (Rehearsal.waitUntil fuel target r).Quiet := by
  induction fuel generalizing r with
  | zero => exact h
  | succ fuel ih =>
    rw [Rehearsal.waitUntil]
    split
    · split
      · exact ih (h.advance _)
      · exact h.advance _
    · exact h.advance _

theorem sifted_request (n : Nat) (r : Rehearsal) : (request n r).sifted = request n r.sifted := by
  induction n generalizing r with
  | zero => rfl
  | succ n ih => exact ih _

theorem Quiet.request (h : r.Quiet) (n : Nat) : (Rehearsal.request n r).Quiet := by
  induction n generalizing r with
  | zero => exact h
  | succ n ih => exact ih (h.of_activity rfl)

theorem Quiet.change (h : r.Quiet) (change : Change) : (r.change change).Quiet := by
  cases change with
  | discovery answer => exact h
  | document url answer => exact h
  | event item =>
    refine h.of_activity ?_
    rw [Scheduler.offer]
    split <;> rfl
  | endEvents => exact h.of_activity rfl

theorem sifted_act_start (r : Rehearsal) : (r.act .start).sifted = r.sifted.act .start := by
  have hphase : r.sifted.scheduler.phase = r.scheduler.phase := rfl
  rw [act, act, start, start, Scheduler.start, Scheduler.start, hphase]
  cases r.scheduler.phase
  case idle => exact sifted_complete _
  all_goals rfl

theorem sifted_act_stop (r : Rehearsal) : (r.act .stop).sifted = r.sifted.act .stop := by
  have hphase : r.sifted.scheduler.phase = r.scheduler.phase := rfl
  have hconclude : r.sifted.scheduler.conclude = r.scheduler.conclude.sifted :=
    (Scheduler.sifted_conclude r.scheduler).symm
  rw [act, act, stop, stop, Scheduler.stop, Scheduler.stop, hphase, hconclude]
  split <;> rfl

theorem Quiet.act (h : r.Quiet) (a : Act) : (r.act a).Quiet := by
  cases a with
  | start =>
    rw [Rehearsal.act, Rehearsal.start]
    cases hstart : r.scheduler.start with
    | error e => exact h
    | ok s =>
      obtain ⟨-, rfl⟩ := Scheduler.start_eq_ok_iff.mp hstart
      exact (Quiet.of_busy (by simp [Scheduler.beginCycle, Scheduler.note])).complete
  | stop =>
    rw [Rehearsal.act, Rehearsal.stop]
    cases r.scheduler.stop with
    | error e => exact h
    | ok s => exact .of_none rfl
  | settle => exact h.settle
  | advance time => exact h.advance time
  | wait time => exact h.waitUntil _ _
  | request n => exact h.request n
  | change change => exact h.change change

/-- **An act is the same without the items that call for no cycle**, unless it brings one. -/
theorem sifted_act (h : r.Quiet) (a : Act) : (r.act a).sifted = if a.matters then r.sifted.act a else r.sifted := by
  cases a with
  | start => exact sifted_act_start r
  | stop => exact sifted_act_stop r
  | settle => exact sifted_settle h
  | advance time => exact sifted_advance h time
  | wait time => exact sifted_waitUntil h _ _
  | request n => exact sifted_request n r
  | change change =>
    cases change with
    | discovery answer => rfl
    | document url answer => rfl
    | endEvents => rfl
    | event item =>
      rw [Act.matters]
      split
      case isTrue hcalls =>
        exact congrArg (fun s => { r with scheduler := s }) (Scheduler.sifted_offer r.scheduler hcalls)
      case isFalse hignored =>
        have hgone := Scheduler.sifted_offer_of_ignored r.scheduler (Bool.not_eq_true _ ▸ hignored)
        exact congrArg (fun s => { r with scheduler := s }) hgone

/-- **A rehearsal is the same without the items that call for no cycle.** -/
theorem sifted_foldl_act (h : r.Quiet) (acts : List Act) :
    (acts.foldl act r).sifted = (acts.filter Act.matters).foldl act r.sifted := by
  induction acts generalizing r with
  | nil => rfl
  | cons a rest ih =>
    rw [List.foldl_cons, ih (h.act a), sifted_act h, List.filter_cons]
    split <;> rfl

end Rehearsal

end LogTagger
