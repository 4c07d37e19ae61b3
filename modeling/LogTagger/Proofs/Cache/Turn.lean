import LogTagger.Proofs.Cache.CacheLog

/-!
# The turn of a call

The gate is held by the one call that lists, fetches and commits (`Gated`), so between its list of missing
containers and its commit the cache stays as it is, whatever the other calls do. `Turn` says where that call
stands. `Progress` compares the log with reconciliations one after the other up to there, and each step goes on
with them (`Progress.move`): the commits are those of the same reconciliations in the order in which the calls
took the gate, with the same requests, answers and outcomes.
-/

namespace LogTagger

namespace GatedCache

open CacheLog

variable {start : DocumentCache × Metrics} {s s' : GatedCache} {call : Nat} {c : ReconcileCall}

/-! ### The gate -/

theorem getElem?_put (h : s.calls[call]? = some c) (target : EndpointSet) (stage : CallStage) (i : Nat) :
    (s.put call target stage).calls[i]? = if i = call then some ⟨target, stage⟩ else s.calls[i]? := by
  obtain ⟨hlt, -⟩ := List.getElem?_eq_some_iff.mp h
  rw [put, List.getElem?_set]
  by_cases hi : call = i
  · simp [hi, hi ▸ hlt]
  · simp [hi, Ne.symm hi]

theorem getElem?_put_self (h : s.calls[call]? = some c) (target : EndpointSet) (stage : CallStage) (e : CacheEvent) :
    ((s.put call target stage).note e).calls[call]? = some ⟨target, stage⟩ := by
  rw [calls_note, getElem?_put h, if_pos rfl]

/-- A call has taken the gate and not released it. -/
def Holds (s : GatedCache) (call : Nat) : Prop := ∃ c, s.calls[call]? = some c ∧ c.stage.holdsGate = true

/-- The gate is taken by the call that holds it. -/
def Gated (s : GatedCache) : Prop := ∀ call, s.gate = some call ↔ s.Holds call

theorem holds_put_iff (h : s.calls[call]? = some c) (target : EndpointSet) (stage : CallStage) (i : Nat) :
    (s.put call target stage).Holds i ↔ if i = call then stage.holdsGate = true else s.Holds i := by
  rw [Holds, getElem?_put h]
  by_cases hi : i = call <;> simp [hi, Holds]

/-- A call that goes on behind the gate keeps it. -/
theorem Gated.put (h : Gated s) (hcall : s.calls[call]? = some c) (hholds : c.stage.holdsGate = true)
    (target : EndpointSet) {stage : CallStage} (hstage : stage.holdsGate = true) : Gated (s.put call target stage) := by
  intro i
  rw [holds_put_iff hcall]
  change s.gate = some i ↔ _
  rw [h i]
  split
  case isTrue hi => exact ⟨fun _ => hstage, fun _ => hi ▸ ⟨c, hcall, hholds⟩⟩
  case isFalse => exact Iff.rfl

theorem Gated.move (h : Gated s) (hmove : Move s s') : Gated s' := by
  cases hmove with
  | rests => exact h
  | calls target =>
    intro i
    have hiff : Holds { s with calls := s.calls ++ [{ target }] } i ↔ s.Holds i := by
      rw [Holds, Holds, List.getElem?_append]
      split
      case isTrue => exact Iff.rfl
      case isFalse hi =>
        rw [List.getElem?_eq_none (Nat.not_lt.mp hi)]
        cases hlast : i - s.calls.length <;> simp [CallStage.holdsGate]
    rw [hiff]
    exact h i
  | enters call target stage free =>
    intro i
    have hnone : ¬ s.Holds i := by
      rw [← h i, free]
      exact Option.some_ne_none i ∘ Eq.symm
    change some call = some i ↔ Holds ({ s with gate := some call }.put call target .admitted) i
    rw [holds_put_iff (s := { s with gate := some call }) stage]
    split
    case isTrue hi => simp [hi, CallStage.holdsGate]
    case isFalse hi =>
      change _ ↔ s.Holds i
      simp [hnone, Ne.symm hi]
  | lists call target stage => exact h.put stage rfl target rfl
  | fetches call target r id url rest answer stage missing => exact h.put (s := s) stage rfl target rfl
  | commits call target r c stage missing record => exact h.put (s := s) stage rfl target rfl
  | releases call target outcome stage =>
    have hgate : s.gate = some call := (h call).mpr ⟨_, stage, rfl⟩
    intro i
    change none = some i ↔ Holds ({ s with gate := none }.put call target (.returned outcome)) i
    rw [holds_put_iff (s := { s with gate := none }) stage]
    split
    case isTrue => simp [CallStage.holdsGate]
    case isFalse hi =>
      change _ ↔ s.Holds i
      rw [← h i, hgate]
      simp [Ne.symm hi]
  | finds id => exact h
  | tells id => exact h

/-! ### Calls that have not begun -/

/-- A call that waits has not taken the gate before, and one that has listed nothing has fetched nothing. -/
structure Unbegun (s : GatedCache) : Prop where
  entered : ∀ call, (∀ c, s.calls[call]? = some c → c.stage = .waiting) → call ∉ entered s.log
  fetches : ∀ call, (∀ c, s.calls[call]? = some c → c.stage = .waiting ∨ c.stage = .admitted) →
    fetchesOf call s.log = []

/-- A call that goes on adds at most events of its own. -/
theorem Unbegun.put (h : Unbegun s) (hcall : s.calls[call]? = some c) {target : EndpointSet} {stage : CallStage}
    (hwaiting : stage ≠ .waiting) {later : List CacheEvent}
    (hadmitted : stage = .admitted → c.stage = .waiting ∧ fetchesOf call later = [])
    (hcalls : s'.calls = (s.put call target stage).calls) (hlog : s'.log = s.log ++ later)
    (hlater : ∀ i, i ≠ call → i ∉ CacheLog.entered later ∧ fetchesOf i later = []) : Unbegun s' where
  entered i hi := by
    rw [hcalls, getElem?_put hcall] at hi
    rw [hlog, entered_append, List.mem_append, not_or]
    by_cases hne : i = call
    · rw [if_pos hne] at hi
      exact absurd (hi _ rfl) hwaiting
    · rw [if_neg hne] at hi
      exact ⟨h.entered i hi, (hlater i hne).1⟩
  fetches i hi := by
    rw [hcalls, getElem?_put hcall] at hi
    rw [hlog, fetchesOf_append]
    by_cases hne : i = call
    · rw [if_pos hne] at hi
      obtain ⟨hbefore, hnone⟩ := hadmitted ((hi _ rfl).resolve_left hwaiting)
      have hold : fetchesOf call s.log = [] := h.fetches call fun c' hc' => by
        rw [hcall] at hc'
        exact .inl (Option.some.inj hc' ▸ hbefore)
      subst hne
      exact List.append_eq_nil_iff.mpr ⟨hold, hnone⟩
    · rw [if_neg hne] at hi
      exact List.append_eq_nil_iff.mpr ⟨h.fetches i hi, (hlater i hne).2⟩

theorem Unbegun.of_quiet (h : Unbegun s) {later : List CacheEvent} (hcalls : s'.calls = s.calls)
    (hlog : s'.log = s.log ++ later) (hlater : Quiet later) : Unbegun s' where
  entered i hi := by
    rw [hlog, entered_append, hlater.entered, List.append_nil]
    exact h.entered i fun c hc => hi c (hcalls ▸ hc)
  fetches i hi := by
    rw [hlog, fetchesOf_append, hlater.fetchesOf, List.append_nil]
    exact h.fetches i fun c hc => hi c (hcalls ▸ hc)

theorem Unbegun.move (h : Unbegun s) (hmove : Move s s') : Unbegun s' := by
  cases hmove with
  | rests => exact h
  | calls target =>
    have hold : ∀ {i c}, s.calls[i]? = some c → (s.calls ++ [⟨target, .waiting⟩])[i]? = some c := fun hc => by
      rw [List.getElem?_append_left (List.getElem?_eq_some_iff.mp hc).1, hc]
    exact ⟨fun i hi => h.entered i fun c hc => hi c (hold hc), fun i hi => h.fetches i fun c hc => hi c (hold hc)⟩
  | enters call target stage free =>
    refine h.put stage (by simp) (fun _ => ⟨rfl, rfl⟩) rfl rfl fun i hi => ⟨?_, rfl⟩
    simpa using hi
  | lists call target stage =>
    exact h.put stage (by simp) (by simp) rfl (List.append_nil _).symm fun i hi => ⟨List.not_mem_nil, rfl⟩
  | fetches call target r id url rest answer stage missing =>
    refine h.put stage (by simp) (by simp) rfl rfl fun i hi => ⟨List.not_mem_nil, ?_⟩
    simp [Ne.symm hi]
  | commits call target r c stage missing record =>
    exact h.put stage (by simp) (by simp) rfl rfl fun i hi => ⟨List.not_mem_nil, rfl⟩
  | releases call target outcome stage =>
    exact h.put stage (by simp) (by simp) rfl rfl fun i hi => ⟨List.not_mem_nil, rfl⟩
  | finds id => exact h.of_quiet rfl rfl (.found id _)
  | tells id => exact h.of_quiet rfl rfl (.agent id _)

/-! ### The turn -/

/-- Where a call stands that has taken the gate: with its fetches that are answered, unless it has committed;
with its number, until it has committed; and with its outcome, from then until it returns. -/
inductive Stands (cache : DocumentCache) (log : List CacheEvent) (call : Nat) :
    ReconcileCall → List FetchCall → List Nat → List (Nat × Except SourceError ReconcileStats) → Prop
  /-- It has listed nothing yet. -/
  | admitted (target : EndpointSet) : Stands cache log call ⟨target, .admitted⟩ [] [call] []
  /-- It has come as far as the answers to its fetches take it, and the cache is still the one of its list. -/
  | fetching (target : EndpointSet) (answers : List (Except FetchError Json))
      (answered : answers.length ≤ (Reconciliation.missingFrom cache target).length)
      (fetches : fetchesOf call log = Reconciliation.callsOf (Reconciliation.missingFrom cache target) answers) :
      Stands cache log call ⟨target, .fetching (answers.foldl Reconciliation.record (.begin cache target))⟩
        (Reconciliation.callsOf (Reconciliation.missingFrom cache target) answers) [call] []
  /-- It has committed. -/
  | committed (target : EndpointSet) (outcome : Except SourceError ReconcileStats) :
      Stands cache log call ⟨target, .committed outcome⟩ [] [] [(call, outcome)]

/-- Where the call stands that has taken the gate, if one has. -/
inductive Turn (s : GatedCache) :
    List FetchCall → List Nat → List (Nat × Except SourceError ReconcileStats) → Prop
  | free (gate : s.gate = none) : Turn s [] [] []
  | held (call : Nat) (c : ReconcileCall) (is : s.calls[call]? = some c) (gate : s.gate = some call)
      {under : List FetchCall} {entering : List Nat} {leaving : List (Nat × Except SourceError ReconcileStats)}
      (stands : Stands s.cache s.log call c under entering leaving) : Turn s under entering leaving

section

variable {under : List FetchCall} {entering : List Nat} {leaving : List (Nat × Except SourceError ReconcileStats)}

theorem Turn.of_free (h : Turn s under entering leaving) (hgate : s.gate = none) :
    under = [] ∧ entering = [] ∧ leaving = [] := by
  cases h with
  | free gate => exact ⟨rfl, rfl, rfl⟩
  | held call c is gate stands =>
    rw [hgate] at gate
    cases gate

theorem Turn.stands (h : Turn s under entering leaving) (hgate : s.gate = some call) (hcall : s.calls[call]? = some c) :
    Stands s.cache s.log call c under entering leaving := by
  cases h with
  | free gate =>
    rw [hgate] at gate
    cases gate
  | held call' c' is gate stands =>
    obtain rfl := Option.some.inj (hgate.symm.trans gate)
    obtain rfl := Option.some.inj (hcall.symm.trans is)
    exact stands

/-- Where a call stands does not depend on what is logged but for its own fetches. -/
theorem Stands.of_fetchesOf {cache : DocumentCache} {log log' : List CacheEvent}
    (h : Stands cache log call c under entering leaving) (hlog : fetchesOf call log' = fetchesOf call log) :
    Stands cache log' call c under entering leaving := by
  cases h with
  | admitted target => exact .admitted target
  | fetching target answers answered fetches => exact .fetching target answers answered (hlog.trans fetches)
  | committed target outcome => exact .committed target outcome

/-- One more answer takes a call one fetch further down its list. -/
theorem Stands.fetched {cache : DocumentCache} {log : List CacheEvent} {target : EndpointSet}
    {answers : List (Except FetchError Json)} {id url : String}
    (hfetches : fetchesOf call log = Reconciliation.callsOf (Reconciliation.missingFrom cache target) answers)
    (hnext : (Reconciliation.missingFrom cache target)[answers.length]? = some (id, url))
    (answer : Except FetchError Json) :
    Stands cache (log ++ [.fetched call ⟨id, url, answer⟩]) call
      ⟨target, .fetching ((answers.foldl Reconciliation.record (.begin cache target)).record answer)⟩
      (Reconciliation.callsOf (Reconciliation.missingFrom cache target) answers ++ [⟨id, url, answer⟩]) [call] [] := by
  have hlt : answers.length < (Reconciliation.missingFrom cache target).length :=
    (List.getElem?_eq_some_iff.mp hnext).1
  have hlog : fetchesOf call (log ++ [.fetched call ⟨id, url, answer⟩]) =
      Reconciliation.callsOf (Reconciliation.missingFrom cache target) (answers ++ [answer]) := by
    simp [hfetches, Reconciliation.callsOf_concat hnext]
  have hstands : Stands cache (log ++ [.fetched call ⟨id, url, answer⟩]) call _ _ [call] [] :=
    .fetching target (answers ++ [answer]) (by rw [List.length_append]; exact hlt) hlog
  rwa [Reconciliation.callsOf_concat hnext, List.foldl_append] at hstands

end

/-- The requests are those of the commits, in order and each with its answer, and those of the call that fetches. -/
def Served (start : DocumentCache × Metrics) (log : List CacheEvent) (under : List FetchCall) : Prop :=
  ∃ done : List Request, requests log = done ++ under.map FetchCall.request ∧
    ∀ later, (DocumentCache.reconcileAll Script.ask start ((commits log).map (·.target))).run
      ⟨done.map Prod.snd ++ later, []⟩ = ((commits log).map CommitRecord.reconciled, ⟨later, done⟩)

theorem Served.append_of_nil {log later : List CacheEvent} {under : List FetchCall} (h : Served start log under)
    (hcommits : commits later = []) (hrequests : requests later = []) : Served start (log ++ later) under := by
  rw [Served, requests_append, commits_append, hrequests, hcommits, List.append_nil, List.append_nil]
  exact h

/-- One more answer is one more request of the call that fetches. -/
theorem Served.fetched {log : List CacheEvent} {under : List FetchCall} (h : Served start log under) (call : Nat)
    (f : FetchCall) : Served start (log ++ [.fetched call f]) (under ++ [f]) := by
  obtain ⟨done, hrequests, hserial⟩ := h
  refine ⟨done, ?_, ?_⟩
  · rw [requests_append, hrequests, List.map_append, List.append_assoc]
    rfl
  · simpa using hserial

/-- A commit is the next one of the serial run. -/
theorem Served.committed {log : List CacheEvent} {c : CommitRecord} {answers : List (Except FetchError Json)}
    (h : Served start log
      (Reconciliation.callsOf (Reconciliation.missingFrom (lastState start log).1 c.target) answers))
    (hlength : answers.length = (Reconciliation.missingFrom (lastState start log).1 c.target).length)
    (hleft : c.reconciled = (lastState start log).1.reconciledBy (lastState start log).2 c.target answers) :
    Served start (log ++ [.committed c]) [] := by
  obtain ⟨done, hrequests, hserial⟩ := h
  refine ⟨requests log, ?_, fun later => ?_⟩
  · rw [requests_append]
    rfl
  · have hanswers : (requests log).map Prod.snd ++ later = done.map Prod.snd ++ (answers ++ later) := by
      rw [hrequests, List.map_append, List.map_map, List.append_assoc]
      congr 2
      exact Reconciliation.map_answer_callsOf hlength
    have hcommits : commits (log ++ [.committed c]) = commits log ++ [c] := by simp
    have hone := Script.run_reconcile (lastState start log).1 (lastState start log).2 c.target hlength later done
    rw [hcommits, List.map_append, List.map_append, List.map_singleton, List.map_singleton, hanswers,
      Script.run_reconcileAll_concat, hserial, hleft, hrequests]
    exact congrArg (fun p : Reconciled × Script => ((commits log).map CommitRecord.reconciled ++ [p.1], p.2)) hone

/-- How far the log has come in the serial run. -/
structure Progress (start : DocumentCache × Metrics) (s : GatedCache) (under : List FetchCall) (entering : List Nat)
    (leaving : List (Nat × Except SourceError ReconcileStats)) : Prop where
  turn : Turn s under entering leaving
  /-- The calls commit in the order in which they have taken the gate. -/
  entered : entered s.log = (commits s.log).map (·.call) ++ entering
  /-- They return in that order, with the outcomes of their commits. -/
  returned : (commits s.log).map (fun c => (c.call, c.outcome)) = returned s.log ++ leaving
  /-- The cache is what the last commit left. -/
  cache : s.cache = (lastState start s.log).1
  metrics : s.metrics = (under.map (·.answer)).foldl Metrics.countFetch (lastState start s.log).2
  served : Served start s.log under

variable {under : List FetchCall} {entering : List Nat} {leaving : List (Nat × Except SourceError ReconcileStats)}

/-- A step that leaves the call which has taken the gate where it stands, and logs at most a look-up. -/
theorem Progress.of_quiet (h : Progress start s under entering leaving) (hgate : s'.gate = s.gate)
    (hcalls : ∀ (i : Nat) (c : ReconcileCall), s.calls[i]? = some c → s'.calls[i]? = some c)
    (hcache : s'.cache = s.cache) (hmetrics : s'.metrics = s.metrics) {later : List CacheEvent}
    (hlog : s'.log = s.log ++ later) (hlater : Quiet later) : Progress start s' under entering leaving where
  turn := by
    cases h.turn with
    | free gate => exact .free (hgate.trans gate)
    | held call c is gate stands =>
      refine .held call c (hcalls call c is) (hgate.trans gate) (hcache ▸ stands.of_fetchesOf ?_)
      rw [hlog, fetchesOf_append, hlater.fetchesOf, List.append_nil]
  entered := by
    rw [hlog, entered_append, commits_append, hlater.entered, hlater.commits, List.append_nil, List.append_nil]
    exact h.entered
  returned := by
    rw [hlog, returned_append, commits_append, hlater.returned, hlater.commits, List.append_nil, List.append_nil]
    exact h.returned
  cache := by
    rw [hlog, lastState_append_of_nil hlater.commits, hcache]
    exact h.cache
  metrics := by
    rw [hlog, lastState_append_of_nil hlater.commits, hmetrics]
    exact h.metrics
  served := hlog ▸ h.served.append_of_nil hlater.commits hlater.requests

theorem Progress.enters (h : Progress start s under entering leaving) {target : EndpointSet}
    (hcall : s.calls[call]? = some ⟨target, .waiting⟩) (hfree : s.gate = none) :
    Progress start (({ s with gate := some call }.put call target .admitted).note (.entered call)) [] [call] [] := by
  obtain ⟨rfl, rfl, rfl⟩ := h.turn.of_free hfree
  have hself := getElem?_put_self (s := { s with gate := some call }) hcall target .admitted (.entered call)
  exact
    { turn := .held call _ hself rfl (.admitted target)
      entered := by simp [h.entered]
      returned := by simp [h.returned]
      cache := h.cache.trans (congrArg Prod.fst (lastState_append_of_nil rfl).symm)
      metrics := h.metrics.trans (congrArg Prod.snd (lastState_append_of_nil rfl).symm)
      served := h.served.append_of_nil rfl rfl }

theorem Progress.lists (hgated : Gated s) (hunbegun : Unbegun s) (h : Progress start s under entering leaving)
    {target : EndpointSet} (hcall : s.calls[call]? = some ⟨target, .admitted⟩) :
    Progress start (s.put call target (.fetching (.begin s.cache target))) [] [call] [] := by
  have hgate : s.gate = some call := (hgated call).mpr ⟨_, hcall, rfl⟩
  have hnone : fetchesOf call s.log = [] := hunbegun.fetches call fun c hc => by
    rw [hcall] at hc
    exact .inr (Option.some.inj hc ▸ rfl)
  cases h.turn.stands hgate hcall with
  | admitted =>
    have hself : (s.put call target (.fetching (.begin s.cache target))).calls[call]? = _ :=
      (getElem?_put hcall _ _ call).trans (if_pos rfl)
    have hstands : Stands s.cache s.log call ⟨target, .fetching (.begin s.cache target)⟩
        (Reconciliation.callsOf (Reconciliation.missingFrom s.cache target) []) [call] [] :=
      .fetching target [] (Nat.zero_le _) (by rw [hnone, Reconciliation.callsOf_nil])
    rw [Reconciliation.callsOf_nil] at hstands
    exact { h with turn := .held call _ hself hgate hstands }

theorem Progress.fetches (hgated : Gated s) (h : Progress start s under entering leaving) {target : EndpointSet}
    {r : Reconciliation} {id url : String} {rest : List (String × String)}
    (hcall : s.calls[call]? = some ⟨target, .fetching r⟩) (hmissing : r.missing = (id, url) :: rest)
    (answer : Except FetchError Json) :
    Progress start
      (({ s with metrics := s.metrics.countFetch answer }.put call target (.fetching (r.record answer))).note
        (.fetched call ⟨id, url, answer⟩))
      (under ++ [⟨id, url, answer⟩]) entering leaving := by
  have hgate : s.gate = some call := (hgated call).mpr ⟨_, hcall, rfl⟩
  have hself := getElem?_put_self (s := { s with metrics := s.metrics.countFetch answer }) hcall target
    (.fetching (r.record answer)) (.fetched call ⟨id, url, answer⟩)
  cases h.turn.stands hgate hcall with
  | fetching _ answers answered hfetches =>
    -- The cache is still the one of the list, so the container that is fetched is the next one on it.
    rw [Reconciliation.missing_foldl_record] at hmissing
    have hnext : (Reconciliation.missingFrom s.cache target)[answers.length]? = some (id, url) := by
      rw [← List.head?_drop, hmissing, List.head?_cons]
    have hstands := Stands.fetched hfetches hnext answer
    exact
      { turn := .held call _ hself hgate hstands
        entered := by simp [h.entered]
        returned := by simp [h.returned]
        cache := h.cache.trans (congrArg Prod.fst (lastState_append_of_nil rfl).symm)
        metrics := by simp [h.metrics, lastState_append_of_nil]
        served := h.served.fetched call ⟨id, url, answer⟩ }

/-- With all answers a commit is that of the reconciliation as a whole. -/
theorem reconciled_commitOf (h : Progress start s under entering leaving) (call : Nat) (target : EndpointSet)
    {answers : List (Except FetchError Json)} (hunder : under.map (·.answer) = answers) :
    (s.commitOf call target (answers.foldl Reconciliation.record (.begin s.cache target))).reconciled =
      (lastState start s.log).1.reconciledBy (lastState start s.log).2 target answers := by
  rw [← h.cache, DocumentCache.reconciledBy, ← hunder, ← h.metrics]
  rfl

theorem Progress.commits (hgated : Gated s) (h : Progress start s under entering leaving) {target : EndpointSet}
    {r : Reconciliation} (hcall : s.calls[call]? = some ⟨target, .fetching r⟩) (hmissing : r.missing = [])
    {c : CommitRecord} (hc : c = s.commitOf call target r) :
    Progress start (({ s with cache := c.left.1, metrics := c.left.2 }.put call target (.committed c.outcome)).note
      (.committed c)) [] [] [(call, c.outcome)] := by
  have hgate : s.gate = some call := (hgated call).mpr ⟨_, hcall, rfl⟩
  have hself := getElem?_put_self (s := { s with cache := c.left.1, metrics := c.left.2 }) hcall target
    (.committed c.outcome) (.committed c)
  have hnumber : c.call = call := by rw [hc]; rfl
  have htarget : c.target = target := by rw [hc]; rfl
  cases h.turn.stands hgate hcall with
  | fetching _ answers answered hfetches =>
    rw [Reconciliation.missing_foldl_record, List.drop_eq_nil_iff] at hmissing
    -- Every fetch of the list is answered, so this is what a reconciliation of that cache leaves.
    have hlength := Nat.le_antisymm answered hmissing
    have hreconciled := reconciled_commitOf h call target (Reconciliation.map_answer_callsOf hlength)
    have hserved := h.served
    rw [h.cache] at hserved hlength
    rw [← hc] at hreconciled
    subst htarget
    exact
      { turn := .held call _ hself hgate (.committed c.target c.outcome)
        entered := by simp [h.entered, hnumber]
        returned := by simp [h.returned, hnumber]
        cache := congrArg Prod.fst (lastState_concat_committed c).symm
        metrics := congrArg Prod.snd (lastState_concat_committed c).symm
        served := hserved.committed hlength hreconciled }

theorem Progress.releases (hgated : Gated s) (h : Progress start s under entering leaving) {target : EndpointSet}
    {outcome : Except SourceError ReconcileStats} (hcall : s.calls[call]? = some ⟨target, .committed outcome⟩) :
    Progress start (({ s with gate := none }.put call target (.returned outcome)).note (.returned call outcome))
      [] [] [] := by
  have hgate : s.gate = some call := (hgated call).mpr ⟨_, hcall, rfl⟩
  cases h.turn.stands hgate hcall with
  | committed =>
    exact
      { turn := .free rfl
        entered := by simp [h.entered]
        returned := by simp [h.returned]
        cache := h.cache.trans (congrArg Prod.fst (lastState_append_of_nil rfl).symm)
        metrics := h.metrics.trans (congrArg Prod.snd (lastState_append_of_nil rfl).symm)
        served := h.served.append_of_nil rfl rfl }

/-- **One step** goes on in the serial run. -/
theorem Progress.move (hgated : Gated s) (hunbegun : Unbegun s) (h : Progress start s under entering leaving)
    (hmove : Move s s') : ∃ under entering leaving, Progress start s' under entering leaving := by
  cases hmove with
  | rests => exact ⟨_, _, _, h⟩
  | calls target =>
    refine ⟨_, _, _, h.of_quiet rfl (fun i c hc => ?_) rfl rfl (List.append_nil _).symm .nil⟩
    rw [List.getElem?_append_left (List.getElem?_eq_some_iff.mp hc).1, hc]
  | enters call target stage free => exact ⟨_, _, _, h.enters stage free⟩
  | lists call target stage => exact ⟨_, _, _, h.lists hgated hunbegun stage⟩
  | fetches call target r id url rest answer stage missing => exact ⟨_, _, _, h.fetches hgated stage missing answer⟩
  | commits call target r c stage missing record => exact ⟨_, _, _, h.commits hgated stage missing record⟩
  | releases call target outcome stage => exact ⟨_, _, _, h.releases hgated stage⟩
  | finds id => exact ⟨_, _, _, h.of_quiet rfl (fun _ _ hc => hc) rfl rfl rfl (.found id _)⟩
  | tells id => exact ⟨_, _, _, h.of_quiet rfl (fun _ _ hc => hc) rfl rfl rfl (.agent id _)⟩

end GatedCache

end LogTagger
