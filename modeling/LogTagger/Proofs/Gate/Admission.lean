import LogTagger.Proofs.Cache.Turn
import LogTagger.Proofs.Gate.Moves

/-!
# The line is one order at the gate

A `SharedCache` has a line before the gate, a scheduler among those who stand in it, and users who may give
up. A `GatedCache` leaves open who takes the gate, and there no call gives up. **`exists_gated_run`** relates
the two: whatever happens to a cache with a line, some run of calls at a gate alone comes to the same cache
by the same commits, and in that run everyone in the line has come as far (`Mirrors`).

Who gives up in its turn has taken the gate in the one and cannot release it in the other. But up to its
commit a call leaves nothing in the cache. So the run at the gate alone keeps every call waiting up to the
moment at which it commits, and lets it have its whole turn then (`Keeps`): who gives up has never taken the
gate, and the turn of the call at the front is what such a run goes on with.
-/

namespace LogTagger

namespace GatedCache

variable {s s' s'' : GatedCache} {call : Nat} {target : EndpointSet} {stage stage' : CallStage}

theorem run_append (s : GatedCache) (l r : List GatedStep) : s.run (l ++ r) = (s.run l).run r := by
  simp [run]

/-! ### Steps of a call that is ready -/

theorem next_enter (h : s.calls[call]? = some ⟨target, .waiting⟩) (hfree : s.gate = none) :
    s.next (.enter call) = ({ s with gate := some call }.put call target .admitted).note (.entered call) := by
  simp only [next, enter, h, hfree]

theorem next_list (h : s.calls[call]? = some ⟨target, .admitted⟩) :
    s.next (.list call) = s.put call target (.fetching (.begin s.cache target)) := by
  simp only [next, list, h]

theorem next_fetch {r : Reconciliation} {id url : String} {rest : List (String × String)}
    (h : s.calls[call]? = some ⟨target, .fetching r⟩) (hmissing : r.missing = (id, url) :: rest)
    (answer : Except FetchError Json) : s.next (.fetch call answer) =
      ({ s with metrics := s.metrics.countFetch answer }.put call target (.fetching (r.record answer))).note
        (.fetched call ⟨id, url, answer⟩) := by
  simp only [next, fetch, h, hmissing]

theorem next_commit {r : Reconciliation} (h : s.calls[call]? = some ⟨target, .fetching r⟩) (hmissing : r.missing = []) :
    s.next (.commit call) =
      ({ s with cache := (s.commitOf call target r).left.1, metrics := (s.commitOf call target r).left.2 }.put call target
        (.committed (s.commitOf call target r).outcome)).note (.committed (s.commitOf call target r)) := by
  simp only [next, commit, h, hmissing]

theorem next_release {outcome : Except SourceError ReconcileStats}
    (h : s.calls[call]? = some ⟨target, .committed outcome⟩) : s.next (.release call) =
      ({ s with gate := none }.put call target (.returned outcome)).note (.returned call outcome) := by
  simp only [next, release, h]

/-! ### Turns at the gate -/

/-- One call has come to a stage, and the others are where they were. -/
structure Comes (call : Nat) (target : EndpointSet) (stage : CallStage) (s s' : GatedCache) : Prop where
  stage : s'.calls[call]? = some ⟨target, stage⟩
  others : ∀ other, other ≠ call → s'.calls[other]? = s.calls[other]?

theorem Comes.trans (h : Comes call target stage s s') (h' : Comes call target stage' s' s'') :
    Comes call target stage' s s'' :=
  ⟨h'.stage, fun other hother => (h'.others other hother).trans (h.others other hother)⟩

theorem comes_of_calls {c : ReconcileCall} (h : s.calls[call]? = some c)
    (hcalls : s'.calls = (s.put call target stage).calls) : Comes call target stage s s' := by
  constructor
  case stage => rw [hcalls, getElem?_put h, if_pos rfl]
  case others =>
    intro other hother
    rw [hcalls, getElem?_put h, if_neg hother]

/-- Neither the cache has changed nor has anything been committed. -/
structure Untouched (s s' : GatedCache) : Prop where
  cache : s'.cache = s.cache
  commits : CacheLog.commits s'.log = CacheLog.commits s.log

theorem Untouched.trans (h : Untouched s s') (h' : Untouched s' s'') : Untouched s s'' :=
  ⟨h'.cache.trans h.cache, h'.commits.trans h.commits⟩

/-- A call takes the gate and gets some answers. -/
def turn (call : Nat) (answers : List (Except FetchError Json)) : List GatedStep :=
  .enter call :: .list call :: answers.map (.fetch call)

theorem run_fetches {r : Reconciliation} (h : s.calls[call]? = some ⟨target, .fetching r⟩)
    {answers : List (Except FetchError Json)} (hanswers : answers.length ≤ r.missing.length) :
    Comes call target (.fetching (answers.foldl .record r)) s (s.run (answers.map (.fetch call))) ∧
      Untouched s (s.run (answers.map (.fetch call))) ∧ (s.run (answers.map (.fetch call))).gate = s.gate := by
  induction answers generalizing s r with
  | nil => exact ⟨⟨h, fun _ _ => rfl⟩, ⟨rfl, rfl⟩, rfl⟩
  | cons answer rest ih =>
    obtain ⟨⟨id, url⟩, later, hmissing⟩ := List.exists_cons_of_length_pos (Nat.zero_lt_of_lt hanswers)
    have hnext := next_fetch h hmissing answer
    have hcomes : Comes call target (.fetching (r.record answer)) s (s.next (.fetch call answer)) :=
      comes_of_calls h (by rw [hnext]; rfl)
    have huntouched : Untouched s (s.next (.fetch call answer)) := by
      rw [hnext]
      exact ⟨rfl, by simp⟩
    have hgate : (s.next (.fetch call answer)).gate = s.gate := by rw [hnext]; rfl
    have hrest : rest.length ≤ (r.record answer).missing.length := by
      rw [hmissing] at hanswers
      have hrecord : (r.record answer).missing = later := by
        rw [Reconciliation.record, hmissing]
        cases answer <;> rfl
      rw [hrecord]
      exact Nat.le_of_succ_le_succ hanswers
    obtain ⟨hlater, hsame, hkept⟩ := ih hcomes.stage hrest
    exact ⟨hcomes.trans hlater, huntouched.trans hsame, hkept.trans hgate⟩

/-- **A turn at the gate** that is free: a call that waits comes to have its answers. -/
theorem run_turn (hwaits : s.calls[call]? = some ⟨target, .waiting⟩) (hfree : s.gate = none)
    {answers : List (Except FetchError Json)}
    (hanswers : answers.length ≤ (Reconciliation.missingFrom s.cache target).length) :
    Comes call target (.fetching (answers.foldl .record (.begin s.cache target))) s (s.run (turn call answers)) ∧
      Untouched s (s.run (turn call answers)) ∧ (s.run (turn call answers)).gate = some call := by
  have henter := next_enter hwaits hfree
  have hadmitted : Comes call target .admitted s (s.next (.enter call)) :=
    comes_of_calls hwaits (by rw [henter]; rfl)
  have hlist := next_list hadmitted.stage
  have hcache : (s.next (.enter call)).cache = s.cache := by rw [henter]; rfl
  rw [hcache] at hlist
  have hlisted : Comes call target (.fetching (.begin s.cache target)) (s.next (.enter call))
      ((s.next (.enter call)).next (.list call)) := comes_of_calls hadmitted.stage (by rw [hlist])
  have huntouched : Untouched s ((s.next (.enter call)).next (.list call)) := by
    rw [hlist, henter]
    exact ⟨rfl, by simp⟩
  have hgate : ((s.next (.enter call)).next (.list call)).gate = some call := by rw [hlist, henter]; rfl
  obtain ⟨hcomes, hsame, hkept⟩ := run_fetches hlisted.stage hanswers
  exact ⟨(hadmitted.trans hlisted).trans hcomes, huntouched.trans hsame, hkept.trans hgate⟩

/-- **A whole turn**: a call that waits commits its reconciliation, and the gate is free again. -/
theorem run_whole_turn (hwaits : s.calls[call]? = some ⟨target, .waiting⟩) (hfree : s.gate = none)
    {answers : List (Except FetchError Json)}
    (hanswers : answers.length = (Reconciliation.missingFrom s.cache target).length) {r : Reconciliation}
    (hr : r = answers.foldl .record (.begin s.cache target)) :
    let done := s.run (turn call answers ++ [.commit call, .release call])
    Comes call target (.returned (r.outcome (r.commit s.cache).2)) s done ∧ done.gate = none ∧
      done.cache = (r.commit s.cache).1 ∧ ∃ c : CommitRecord, CacheLog.commits done.log = CacheLog.commits s.log ++ [c] ∧
        c.target = target ∧ c.outcome = r.outcome (r.commit s.cache).2 := by
  intro done
  obtain ⟨hcomes, huntouched, -⟩ := run_turn hwaits hfree hanswers.le
  rw [← hr] at hcomes
  have hdone : done = ((s.run (turn call answers)).next (.commit call)).next (.release call) := run_append s _ _
  have hmissing : r.missing = [] := by
    rw [hr, Reconciliation.missing_foldl_record, hanswers, List.drop_length]
  have hcommit := next_commit hcomes.stage hmissing
  -- What is committed depends on the state before only by the cache, which the turn has left as it was.
  have hleft : ((s.run (turn call answers)).commitOf call target r).left.1 = (r.commit s.cache).1 := by
    rw [← huntouched.cache]
    rfl
  have houtcome : ((s.run (turn call answers)).commitOf call target r).outcome = r.outcome (r.commit s.cache).2 := by
    rw [← huntouched.cache]
    rfl
  generalize hc : (s.run (turn call answers)).commitOf call target r = c at hcommit hleft houtcome
  have hcommitted : Comes call target (.committed c.outcome) (s.run (turn call answers))
      ((s.run (turn call answers)).next (.commit call)) := comes_of_calls hcomes.stage (by rw [hcommit]; rfl)
  have hrelease := next_release hcommitted.stage
  rw [← hdone, hcommit] at hrelease
  have hreturned : Comes call target (.returned c.outcome) ((s.run (turn call answers)).next (.commit call)) done :=
    comes_of_calls hcommitted.stage (by rw [hrelease, hcommit]; rfl)
  have hcommits : CacheLog.commits done.log = CacheLog.commits s.log ++ [c] := by
    rw [hrelease, ← huntouched.commits, log_note, CacheLog.commits_append, log_put, log_note, CacheLog.commits_append]
    exact List.append_nil _
  rw [houtcome] at hreturned
  refine ⟨(hcomes.trans hcommitted).trans hreturned, by rw [hrelease]; rfl, ?_, c, hcommits, hc ▸ rfl, houtcome⟩
  rw [hrelease]
  exact hleft

end GatedCache

namespace SharedCache

variable {s s' : SharedCache} {g : GatedCache}

/-! ### The line -/

/-- What a step does to the line, with the cache and the commits. -/
inductive LineMove (s s' : SharedCache) : Prop
  /-- At most someone leaves it without a commit. -/
  | leaves (line : (s'.line.map (·.target)).Sublist (s.line.map (·.target))) (cache : s'.cache = s.cache)
      (commits : s'.commits = s.commits)
  /-- Someone takes the last place. -/
  | joins (target : EndpointSet) (line : s'.line.map (·.target) = s.line.map (·.target) ++ [target])
      (cache : s'.cache = s.cache) (commits : s'.commits = s.commits)
  /-- The call at the front is committed. -/
  | commits (c : Commit) (line : s.line.map (·.target) = c.call.target :: s'.line.map (·.target))
      (complete : c.Complete s.cache) (cache : s'.cache = ((c.call.reconciliation s.cache).commit s.cache).1)
      (commits : s'.commits = s.commits ++ [c])

theorem LineMove.refl (s : SharedCache) : LineMove s s := .leaves (.refl _) rfl rfl

theorem enqueue_lineMove (s : SharedCache) (user : CacheUser) (target : EndpointSet) :
    LineMove s (s.enqueue user target) := by
  rw [enqueue]
  split
  · exact .refl s
  · exact .joins target (by simp) rfl rfl

theorem leave_lineMove {moved : Scheduler} (user : CacheUser) (hcache : moved.cache = s.cache) :
    LineMove s ({ s with scheduler := moved }.leave user) := .leaves (List.filter_sublist.map _) hcache rfl

/-- The call at the front goes on. -/
theorem goOn_lineMove {documents : List (Except FetchError Json)} {old call : CacheCall} {rest : List CacheCall}
    {moved : Scheduler} (hline : s.line = old :: rest) (hgains : Gains documents old call)
    (hanswers : call.answers.length ≤ (Reconciliation.missingFrom s.cache call.target).length)
    (hledger : moved.ledger = if (call.reconciliation s.cache).missing = [] then
      s.scheduler.ledger.commit
        ⟨call, (call.reconciliation s.cache).outcome ((call.reconciliation s.cache).commit s.cache).2⟩
      else s.scheduler.ledger) : LineMove s (s.goOn call rest moved) := by
  have htargets : s.line.map (·.target) = call.target :: rest.map (·.target) := by
    rw [hline, List.map_cons, hgains.target]
  by_cases hmissing : (call.reconciliation s.cache).missing = []
  · rw [if_pos hmissing] at hledger
    rw [goOn_of_missing_eq_nil s rest moved hmissing]
    exact .commits _ htargets (complete_of_missing_eq_nil hmissing hanswers) (congrArg Ledger.cache hledger) rfl
  · rw [if_neg hmissing] at hledger
    rw [goOn_of_missing_ne_nil s rest moved hmissing]
    refine .leaves ?_ (congrArg Ledger.cache hledger) rfl
    rw [htargets]
    exact .refl _

theorem Advance.lineMove {documents : List (Except FetchError Json)} (h : Advance documents s s') : LineMove s s' := by
  cases h with
  | cycle old call rest metrics trigger hline huser hgains hanswers hledger hbusy =>
    refine goOn_lineMove hline hgains hanswers ?_
    rw [← hledger]
    exact Scheduler.ledger_continueCycle _ trigger rfl
  | visit old call rest metrics hline huser hgains hanswers hledger =>
    refine goOn_lineMove hline hgains hanswers ?_
    rw [← hledger]
    exact Scheduler.ledger_visited _ rfl

theorem own_lineMove (s : SharedCache) (step : SchedulerStep) : LineMove s (s.own step) := by
  have hquiet : ∀ step, (∀ answer, step ≠ .discovered answer) → (∀ answer, step ≠ .fetched answer) → step ≠ .stop →
      LineMove s (s.own step) := by
    intro step hdiscovered hfetched hstop
    rw [own_eq_next s hdiscovered hfetched hstop]
    refine .leaves (.refl _) ?_ rfl
    cases Scheduler.next_quiet s.scheduler hdiscovered hfetched hstop with
    | concludes hsame =>
      change (s.scheduler.next step).cache = s.scheduler.cache
      rw [hsame, Scheduler.conclude_cache]
    | rests hledger => exact congrArg Ledger.cache hledger
    | begins trigger hbefore hledger => exact congrArg Ledger.cache hledger
  cases step with
  | discovered answer =>
    cases answer with
    | ok target =>
      rw [own]
      split
      · exact enqueue_lineMove s .scheduler target
      · exact .refl s
    | error cause =>
      rw [own]
      split
      · exact .refl s
      · refine .leaves (.refl _) ?_ rfl
        change (s.scheduler.discovered (.error cause)).cache = s.scheduler.cache
        rcases Scheduler.discovered_error_cases s.scheduler cause with hsame | ⟨trigger, -, hends⟩
        · rw [hsame]
        · rw [hends]
  | fetched document => exact .refl s
  | stop =>
    rw [own]
    split
    case h_1 stopped hstop =>
      obtain ⟨-, rfl⟩ := Scheduler.stop_eq_ok_iff.mp hstop
      exact leave_lineMove .scheduler s.scheduler.conclude_cache
    case h_2 => exact .refl s
  | _ => exact hquiet _ (by simp) (by simp) (by simp)

/-- **All that a step can do to the line.** -/
theorem next_lineMove (h : Gated s) (step : SharedStep) : LineMove s (s.next step) := by
  cases step with
  | own step => exact own_lineMove s step
  | call id target => exact enqueue_lineMove s (.other id) target
  | begin =>
    rcases h.begin_advance with hsame | hadvance
    · rw [next, hsame]
      exact .refl s
    · exact hadvance.lineMove
  | answer document =>
    rcases h.answer_advance document with hsame | hadvance
    · rw [next, hsame]
      exact .refl s
    · exact hadvance.lineMove
  | abandon id => exact leave_lineMove (.other id) rfl

/-! ### Runs at the gate alone -/

/-- A run at the gate alone has come to the same cache by the same commits. The gate is free, and everyone in
the line waits there with a call of its own. -/
structure Keeps (s : SharedCache) (g : GatedCache) : Prop where
  cache : g.cache = s.cache
  commits : (CacheLog.commits g.log).map (fun c => (c.target, c.outcome)) =
    s.commits.map fun c => (c.call.target, c.outcome)
  free : g.gate = none
  waits : ∃ numbers : List Nat, numbers.Nodup ∧ numbers.map (g.calls[·]?) =
    (s.line.map (·.target)).map fun target => some ⟨target, .waiting⟩

/-- The run goes on with the step of a line: with a new call, with a whole turn, or not at all. -/
theorem Keeps.move (h : Keeps s g) (hmove : LineMove s s') : ∃ l, Keeps s' (g.run l) := by
  obtain ⟨numbers, honce, hwaits⟩ := h.waits
  cases hmove with
  | leaves hline hcache hcommits =>
    have hsublist := hline.map fun target => some (⟨target, .waiting⟩ : ReconcileCall)
    rw [← hwaits] at hsublist
    obtain ⟨left, hleft, heq⟩ := List.sublist_map_iff.mp hsublist
    exact ⟨[], h.cache.trans hcache.symm, by rw [hcommits]; exact h.commits, h.free, left, honce.sublist hleft, heq.symm⟩
  | joins target hline hcache hcommits =>
    have hlt : ∀ n ∈ numbers, n < g.calls.length := by
      intro n hn
      have hmem : g.calls[n]? ∈ numbers.map (g.calls[·]?) := List.mem_map_of_mem hn
      rw [hwaits] at hmem
      obtain ⟨target', -, hcall⟩ := List.mem_map.mp hmem
      exact (List.getElem?_eq_some_iff.mp hcall.symm).1
    refine ⟨[.call target], h.cache.trans hcache.symm, by rw [hcommits]; exact h.commits, h.free,
      numbers ++ [g.calls.length], ?_, ?_⟩
    · rw [← List.concat_eq_append]
      exact honce.concat fun hmem => Nat.lt_irrefl _ (hlt _ hmem)
    · have hold : numbers.map ((g.calls ++ [⟨target, .waiting⟩])[·]?) = numbers.map (g.calls[·]?) :=
        List.map_congr_left fun n hn => List.getElem?_append_left (hlt n hn)
      change (numbers ++ [g.calls.length]).map ((g.calls ++ [⟨target, .waiting⟩])[·]?) = _
      rw [hline, List.map_append, List.map_append, hold, hwaits]
      simp
  | commits c hline hcomplete hcache hcommits =>
    rw [hline, List.map_cons] at hwaits
    obtain ⟨n, rest, rfl, hcall, hrest⟩ := List.map_eq_cons_iff.mp hwaits
    have hanswers : c.call.answers.length = (Reconciliation.missingFrom g.cache c.call.target).length := by
      rw [h.cache]
      exact hcomplete.answered
    obtain ⟨hcomes, hfree, hleft, record, hrecords, htarget, houtcome⟩ :=
      GatedCache.run_whole_turn hcall h.free hanswers rfl
    rw [List.nodup_cons] at honce
    rw [h.cache] at hleft houtcome
    refine ⟨_, hleft.trans hcache.symm, ?_, hfree, rest, honce.2, ?_⟩
    · rw [hrecords, hcommits, List.map_append, List.map_append, h.commits, List.map_singleton, List.map_singleton,
        htarget, houtcome, hcomplete.outcome]
      rfl
    · rw [← hrest]
      exact List.map_congr_left fun m hm => hcomes.others m fun hmn => honce.1 (hmn ▸ hm)

theorem keeps_run (interval now : Nat) (cache : DocumentCache) (events : EventQueue) (metrics : Metrics)
    (steps : List SharedStep) :
    ∃ l, Keeps (run { scheduler := .fresh interval now cache events metrics } steps)
      (GatedCache.run { cache, metrics } l) := by
  have hrun : ∀ (steps : List SharedStep) (s : SharedCache) (g : GatedCache), Gated s → Keeps s g →
      ∃ l, Keeps (s.run steps) (g.run l) := by
    intro steps
    induction steps with
    | nil => exact fun s g _ h => ⟨[], h⟩
    | cons step rest ih =>
      intro s g hgated h
      obtain ⟨l, hl⟩ := h.move (next_lineMove hgated step)
      obtain ⟨later, hlater⟩ := ih _ _ (hgated.next step) hl
      exact ⟨l ++ later, by rwa [GatedCache.run_append]⟩
  exact hrun steps _ _ (gated_fresh interval now cache events metrics) ⟨rfl, rfl, rfl, [], List.nodup_nil, rfl⟩

/-- How far a call in the line has come, as a call at the gate alone. -/
def stageOf (s : SharedCache) (call : CacheCall) : CallStage :=
  if call.begun then .fetching (call.reconciliation s.cache) else .waiting

/-- A run at the gate alone has come to the same cache by the same commits, and everyone in the line has come
as far there, with a call of its own. The call at the front has the gate if it has had its turn. -/
structure Mirrors (s : SharedCache) (g : GatedCache) : Prop where
  cache : g.cache = s.cache
  commits : (CacheLog.commits g.log).map (fun c => (c.target, c.outcome)) =
    s.commits.map fun c => (c.call.target, c.outcome)
  line : ∃ numbers : List Nat, numbers.Nodup ∧
    numbers.map (g.calls[·]?) = (s.line.map fun call => some ⟨call.target, s.stageOf call⟩) ∧
    g.gate = if s.line.any (·.begun) then numbers.head? else none

/-- While no one has had its turn, a run with a free gate is as far. -/
theorem Keeps.mirrors (h : Keeps s g) (hbegun : ∀ call ∈ s.line, call.begun = false) : Mirrors s g where
  cache := h.cache
  commits := h.commits
  line := by
    obtain ⟨numbers, honce, hwaits⟩ := h.waits
    refine ⟨numbers, honce, ?_, ?_⟩
    · rw [hwaits, List.map_map]
      refine List.map_congr_left fun call hcall => ?_
      rw [stageOf, hbegun call hcall]
      rfl
    · rw [h.free, if_neg (by simpa using hbegun)]

/-- The turn of the call at the front is what a run with a free gate goes on with. -/
theorem Keeps.exists_mirrors (h : Keeps s g) (hgated : Gated s) : ∃ l, Mirrors s (g.run l) := by
  cases hline : s.line with
  | nil => exact ⟨[], h.mirrors (by simp [hline])⟩
  | cons call rest =>
    have hrest : ∀ c ∈ rest, c.begun = false := fun c hc => (hgated.rest_unbegun hline hc).1
    cases hbegun : call.begun with
    | false => exact ⟨[], h.mirrors (by rw [hline]; exact List.forall_mem_cons.mpr ⟨hbegun, hrest⟩)⟩
    | true =>
      obtain ⟨numbers, honce, hwaits⟩ := h.waits
      rw [hline, List.map_cons, List.map_cons] at hwaits
      obtain ⟨n, others, rfl, hcall, hothers⟩ := List.map_eq_cons_iff.mp hwaits
      have hanswers : call.answers.length ≤ (Reconciliation.missingFrom g.cache call.target).length := by
        have hmissing := hgated.waits call (by simp [hline]) hbegun
        rw [CacheCall.missing_reconciliation, ne_eq, List.drop_eq_nil_iff] at hmissing
        rw [h.cache]
        omega
      obtain ⟨hcomes, huntouched, hgate⟩ := GatedCache.run_turn hcall h.free hanswers
      refine ⟨GatedCache.turn n call.answers, huntouched.cache.trans h.cache, ?_, n :: others, honce, ?_, ?_⟩
      · rw [huntouched.commits]
        exact h.commits
      · rw [List.nodup_cons] at honce
        have hunmoved : others.map ((g.run (GatedCache.turn n call.answers)).calls[·]?) = others.map (g.calls[·]?) :=
          List.map_congr_left fun m hm => hcomes.others m fun hmn => honce.1 (hmn ▸ hm)
        rw [hline, List.map_cons, List.map_cons, hcomes.stage, hunmoved, hothers, List.map_map]
        refine List.cons_eq_cons.mpr ⟨?_, List.map_congr_left fun c hc => ?_⟩
        · rw [stageOf, hbegun, h.cache]
          rfl
        · rw [stageOf, hrest c hc]
          rfl
      · rw [hgate, hline, List.any_cons, hbegun]
        rfl

/-- **The line is one order at the gate**: whatever happens to a cache with a line, a run of calls at a gate
alone comes as far. -/
theorem exists_gated_run (interval now : Nat) (cache : DocumentCache) (events : EventQueue) (metrics : Metrics)
    (steps : List SharedStep) :
    ∃ l, Mirrors (run { scheduler := .fresh interval now cache events metrics } steps)
      (GatedCache.run { cache, metrics } l) := by
  obtain ⟨l, hkeeps⟩ := keeps_run interval now cache events metrics steps
  obtain ⟨last, hlast⟩ := hkeeps.exists_mirrors ((gated_fresh interval now cache events metrics).run steps)
  exact ⟨l ++ last, by rwa [GatedCache.run_append]⟩

end SharedCache

end LogTagger
