import LogTagger.Proofs.Cache.Turn

/-!
# Reconciliations are serialised

**`serialised`**: whatever the calls and look-ups are and in whatever order their steps come, the commits are
those of the same reconciliations run one after the other in the order in which they took the gate, with the
same requests, answers and outcomes. Every event tells the truth about those before it (`CacheLog.Told`): a
look-up finds what the last commit left, a commit enters each document that was fetched, and a container for
which another call has fetched a document is fetched for again only after a commit has evicted it.

For the last of these a document must be followed from its fetch to the commit that enters it. Until then its
call still fetches, and no other does (`Settled`).
-/

namespace LogTagger.GatedCache

open CacheLog

variable {start : DocumentCache × Metrics} {s s' : GatedCache} {call : Nat}
variable {under : List FetchCall} {entering : List Nat} {leaving : List (Nat × Except SourceError ReconcileStats)}

/-! ### The calls -/

/-- A call keeps its endpoints. -/
theorem Move.target {i : Nat} {target : EndpointSet} (hmove : Move s s')
    (h : s.calls[i]?.map ReconcileCall.target = some target) :
    s'.calls[i]?.map ReconcileCall.target = some target := by
  have hput : ∀ {call : Nat} {target' : EndpointSet} {old : CallStage} (_ : s.calls[call]? = some ⟨target', old⟩)
      (stage : CallStage), (s.put call target' stage).calls[i]?.map ReconcileCall.target = some target := by
    intro call target' old hcall stage
    rw [getElem?_put hcall]
    split
    case isTrue hi => rwa [hi, hcall] at h
    case isFalse => exact h
  cases hmove with
  | calls target' =>
    obtain ⟨c, hc, rfl⟩ := Option.map_eq_some_iff.mp h
    rw [List.getElem?_append_left (List.getElem?_eq_some_iff.mp hc).1, hc, Option.map_some]
  | enters call target' stage free => exact hput stage _
  | lists call target' stage => exact hput stage _
  | fetches call target' r id url rest answer stage missing => exact hput stage _
  | commits call target' r c stage missing record => exact hput stage _
  | releases call target' outcome stage => exact hput stage _
  | _ => exact h

/-- The endpoints of a commit are those of its call. -/
def Targeted (s : GatedCache) : Prop :=
  ∀ c ∈ commits s.log, s.calls[c.call]?.map ReconcileCall.target = some c.target

theorem Targeted.move (h : Targeted s) (hmove : Move s s') : Targeted s' := by
  have hold : ∀ c ∈ commits s.log, s'.calls[c.call]?.map ReconcileCall.target = some c.target :=
    fun c hc => hmove.target (h c hc)
  cases hmove with
  | commits call target r c stage missing record =>
    intro c' hc'
    rw [log_note, commits_append, List.mem_append] at hc'
    rcases hc' with hc' | hc'
    · exact hold c' hc'
    · obtain rfl : c' = c := by simpa using hc'
      subst record
      exact (Move.commits call target r _ stage missing rfl).target (congrArg (Option.map _) stage)
  | _ => simpa [Targeted] using hold

/-- A call takes the gate once. -/
theorem nodup_entered_move (hunbegun : Unbegun s) (h : (entered s.log).Nodup) (hmove : Move s s') :
    (entered s'.log).Nodup := by
  cases hmove with
  | enters call target stage free =>
    have hnew : call ∉ entered s.log := hunbegun.entered call fun c hc => by
      rw [stage] at hc
      exact Option.some.inj hc ▸ rfl
    rw [log_note, log_put, entered_append, entered_singleton, CacheEvent.entered?, Option.toList_some,
      ← List.concat_eq_append]
    exact h.concat hnew
  | _ => simpa using h

/-! ### From a fetch to the commit -/

/-- A call has listed the containers that are missing, and fetches for them. -/
def Fetching (s : GatedCache) (call : Nat) : Prop := ∃ target r, s.calls[call]? = some ⟨target, .fetching r⟩

/-- A document that has been fetched is entered by a commit, or its call still fetches. -/
def Settled (s : GatedCache) : Prop :=
  ∀ earlier call f later, s.log = earlier ++ .fetched call f :: later → f.answer.isOk = true →
    s.Fetching call ∨ ∃ m c m', later = m ++ .committed c :: m' ∧ c.left.1.contains f.id = true

/-- With one more event a document is still settled, if its call goes on to fetch or commits it. -/
theorem Settled.concat (h : Settled s) {e : CacheEvent} (hlog : s'.log = s.log ++ [e])
    (hfetching : ∀ call, s.Fetching call → s'.Fetching call ∨
      ∃ c, e = .committed c ∧ ∀ f ∈ fetchesOf call s.log, f.answer.isOk = true → c.left.1.contains f.id = true)
    (hnew : ∀ call f, e = .fetched call f → s'.Fetching call) : Settled s' := by
  intro earlier call f later heq hok
  rw [hlog] at heq
  rcases concat_eq_append_cons heq with ⟨later, rfl, hbefore⟩ | ⟨rfl, -, rfl⟩
  · rcases h earlier call f later hbefore hok with hcall | ⟨m, c, m', rfl, hentered⟩
    · rcases hfetching call hcall with hcall' | ⟨c, rfl, hentered⟩
      · exact .inl hcall'
      · have hmem : f ∈ fetchesOf call s.log := mem_fetchesOf_iff.mpr (by simp [hbefore])
        exact .inr ⟨later, c, [], rfl, hentered f hmem hok⟩
    · exact .inr ⟨m, c, m' ++ [e], by simp, hentered⟩
  · exact .inl (hnew call f rfl)

/-- A step of one call leaves the others fetching. -/
theorem Fetching.put {i : Nat} {c : ReconcileCall} (h : s.Fetching i) (hcall : s.calls[call]? = some c)
    (target : EndpointSet) (stage : CallStage) : i = call ∨ (s.put call target stage).Fetching i := by
  by_cases hi : i = call
  · exact .inl hi
  · obtain ⟨target', r, hr⟩ := h
    exact .inr ⟨target', r, by rw [getElem?_put hcall, if_neg hi, hr]⟩

/-- A call that does not fetch is none of those that do. -/
theorem Fetching.put_of_ne {i : Nat} {c : ReconcileCall} (h : s.Fetching i) (hcall : s.calls[call]? = some c)
    (hstage : ∀ r, c.stage ≠ .fetching r) (target : EndpointSet) (stage : CallStage) :
    (s.put call target stage).Fetching i := by
  refine (h.put hcall target stage).resolve_left ?_
  rintro rfl
  obtain ⟨target', r, hr⟩ := h
  rw [hcall] at hr
  exact hstage r (Option.some.inj hr ▸ rfl)

/-- **A commit tells the truth**: it enters each document that its call has fetched, and none of them was there. -/
theorem told_committed (hgated : Gated s) (h : Progress start s under entering leaving) {target : EndpointSet}
    {r : Reconciliation} (hcall : s.calls[call]? = some ⟨target, .fetching r⟩) (hmissing : r.missing = []) :
    Told start s.log (.committed (s.commitOf call target r)) := by
  have hgate : s.gate = some call := (hgated call).mpr ⟨_, hcall, rfl⟩
  cases h.turn.stands hgate hcall with
  | fetching _ answers answered hfetches =>
    rw [Reconciliation.missing_foldl_record, List.drop_eq_nil_iff] at hmissing
    have hlength := Nat.le_antisymm answered hmissing
    have hsound := SyncCycle.sound_of_answers s.cache (lastState start s.log).2 target hlength
    have hcalls := SyncCycle.calls_of_answers s.cache target hlength
    have hreconciled := reconciled_commitOf h call target (Reconciliation.map_answer_callsOf hlength)
    rw [← h.cache] at hreconciled
    refine ⟨?_, fun f hf document hanswer => ?_⟩
    · change _ = (List.filterMap FetchCall.entry? (fetchesOf call s.log)).length
      rw [hfetches]
      exact Reconciliation.fetched_commit s.cache target hlength
    · change f ∈ fetchesOf call s.log at hf
      rw [hfetches, ← hcalls] at hf
      rw [← h.cache]
      have hleft := congrArg (fun left : Reconciled => left.1.1.get? f.id) hreconciled
      exact ⟨hsound.not_cached hf, hleft.trans (hsound.get?_after_of_fetched rfl hf hanswer)⟩

/-- **A fetch tells the truth**: a container for which another call has fetched a document has been evicted since. -/
theorem told_fetched (hgated : Gated s) (h : Progress start s under entering leaving) (hsettled : Settled s)
    {target : EndpointSet} {r : Reconciliation} {id url : String} {rest : List (String × String)}
    (hcall : s.calls[call]? = some ⟨target, .fetching r⟩) (hmissing : r.missing = (id, url) :: rest)
    (answer : Except FetchError Json) : Told start s.log (.fetched call ⟨id, url, answer⟩) := by
  have hgate : s.gate = some call := (hgated call).mpr ⟨_, hcall, rfl⟩
  have hnew : (lastState start s.log).1.contains id = false := by
    cases h.turn.stands hgate hcall with
    | fetching _ answers answered hfetches =>
      rw [Reconciliation.missing_foldl_record] at hmissing
      have hmem : (id, url) ∈ (Reconciliation.missingFrom s.cache target).drop answers.length := by simp [hmissing]
      rw [← h.cache]
      exact (Reconciliation.mem_missingFrom_iff.mp (List.mem_of_mem_drop hmem)).1
  rintro earlier call' f' between hlog hne rfl hok
  rcases hsettled earlier call' f' between hlog hok with ⟨target', r', hcall'⟩ | ⟨m, c, m', rfl, hentered⟩
  · have hgate' : s.gate = some call' := (hgated call').mpr ⟨_, hcall', rfl⟩
    exact absurd (Option.some.inj (hgate'.symm.trans hgate)) hne
  · have hcommitted : ∀ log, (lastState start (log ++ [.committed c])).1.contains f'.id = true := fun log => by
      rw [lastState_concat_committed]
      exact hentered
    have hsplit : s.log = (earlier ++ .fetched call' f' :: m) ++ [.committed c] ++ m' := by simp [hlog]
    rw [hsplit] at hnew
    obtain ⟨m₁, c₁, m₂, rfl, hcached, hevicted⟩ := exists_eviction (hcommitted _) hnew
    exact ⟨m ++ .committed c :: m₁, c₁, m₂, by simp, by simpa using hcached, hevicted⟩

theorem Settled.move (hgated : Gated s) (h : Progress start s under entering leaving) (hsettled : Settled s)
    (hmove : Move s s') : Settled s' := by
  cases hmove with
  | rests => exact hsettled
  | calls target =>
    intro earlier call f later heq hok
    refine (hsettled earlier call f later heq hok).imp_left ?_
    rintro ⟨target', r, hr⟩
    exact ⟨target', r, (List.getElem?_append_left (List.getElem?_eq_some_iff.mp hr).1).trans hr⟩
  | enters call target stage free =>
    refine hsettled.concat rfl (fun i hi => .inl ?_) (by simp)
    exact hi.put_of_ne stage (by simp) target .admitted
  | lists call target stage =>
    intro earlier i f later heq hok
    exact (hsettled earlier i f later heq hok).imp_left fun hi => hi.put_of_ne stage (by simp) target _
  | fetches call target r id url rest answer stage missing =>
    have hself := getElem?_put_self (s := { s with metrics := s.metrics.countFetch answer }) stage target
      (.fetching (r.record answer)) (.fetched call ⟨id, url, answer⟩)
    refine hsettled.concat rfl (fun i hi => .inl ?_) fun i f heq => ?_
    · rcases hi.put stage target (.fetching (r.record answer)) with rfl | hi'
      · exact ⟨_, _, hself⟩
      · exact hi'
    · cases heq
      exact ⟨_, _, hself⟩
  | commits call target r c stage missing record =>
    refine hsettled.concat rfl (fun i hi => ?_) (by simp)
    rcases hi.put stage target (.committed c.outcome) with rfl | hi'
    · refine .inr ⟨c, rfl, fun f hf hok => ?_⟩
      obtain ⟨document, hanswer⟩ : ∃ document, f.answer = .ok document := by
        cases ha : f.answer with
        | ok document => exact ⟨document, rfl⟩
        | error cause => simp [ha, Except.isOk, Except.toBool] at hok
      subst record
      have htold := (told_committed hgated h stage missing).2 f hf document hanswer
      exact SortedMap.contains_eq_true_iff.mpr ⟨document, htold.2⟩
    · exact .inl hi'
  | releases call target outcome stage =>
    refine hsettled.concat rfl (fun i hi => .inl ?_) (by simp)
    exact hi.put_of_ne stage (by simp) target _
  | finds id => exact hsettled.concat rfl (fun i hi => .inl hi) (by simp)
  | tells id => exact hsettled.concat rfl (fun i hi => .inl hi) (by simp)

/-! ### The whole run -/

/-- Every event tells the truth about those before it. -/
def Truthful (start : DocumentCache × Metrics) (log : List CacheEvent) : Prop :=
  ∀ before e after, log = before ++ e :: after → Told start before e

theorem Truthful.concat {log : List CacheEvent} {e : CacheEvent} (h : Truthful start log) (he : Told start log e) :
    Truthful start (log ++ [e]) := by
  intro before e' after heq
  rcases concat_eq_append_cons heq with ⟨after', -, hbefore⟩ | ⟨-, rfl, rfl⟩
  · exact h before e' after' hbefore
  · exact he

theorem Truthful.move (hgated : Gated s) (h : Progress start s under entering leaving) (hsettled : Settled s)
    (htruthful : Truthful start s.log) (hmove : Move s s') : Truthful start s'.log := by
  cases hmove with
  | rests => exact htruthful
  | calls target => exact htruthful
  | enters call target stage free => exact htruthful.concat trivial
  | lists call target stage => exact htruthful
  | fetches call target r id url rest answer stage missing =>
    exact htruthful.concat (told_fetched hgated h hsettled stage missing answer)
  | commits call target r c stage missing record =>
    subst record
    exact htruthful.concat (told_committed hgated h stage missing)
  | releases call target outcome stage => exact htruthful.concat trivial
  | finds id => exact htruthful.concat (congrArg (DocumentCache.get? · id) h.cache)
  | tells id => exact htruthful.concat (congrArg (DocumentCache.isAgent · id) h.cache)

/-- What every step keeps. -/
structure Inv (start : DocumentCache × Metrics) (s : GatedCache) : Prop where
  gated : Gated s
  unbegun : Unbegun s
  targeted : Targeted s
  once : (entered s.log).Nodup
  progress : ∃ under entering leaving, Progress start s under entering leaving
  settled : Settled s
  truthful : Truthful start s.log

theorem Inv.fresh (cache : DocumentCache) (metrics : Metrics) : Inv (cache, metrics) { cache, metrics } where
  gated call := by simp [Holds]
  unbegun := ⟨fun _ _ => List.not_mem_nil, fun _ _ => rfl⟩
  targeted := by simp [Targeted, commits]
  once := .nil
  progress := ⟨[], [], [], .free rfl, rfl, rfl, rfl, rfl, [], rfl, fun _ => rfl⟩
  settled := by simp [Settled]
  truthful := by simp [Truthful]

theorem Inv.move (h : Inv start s) (hmove : Move s s') : Inv start s' := by
  obtain ⟨under, entering, leaving, hprogress⟩ := h.progress
  exact
    { gated := h.gated.move hmove
      unbegun := h.unbegun.move hmove
      targeted := h.targeted.move hmove
      once := nodup_entered_move h.unbegun h.once hmove
      progress := hprogress.move h.gated h.unbegun hmove
      settled := h.settled.move h.gated hprogress hmove
      truthful := h.truthful.move h.gated hprogress h.settled hmove }

/-- What the log and the cache are, compared with reconciliations one after the other. -/
structure Serialised (start : DocumentCache × Metrics) (s : GatedCache) : Prop where
  /-- One call at most has the gate. -/
  exclusive : ∀ call call', s.Holds call → s.Holds call' → call = call'
  /-- A call takes the gate once at most. -/
  once : (entered s.log).Nodup
  /-- The endpoints of a commit are those of its call. -/
  targeted : ∀ c ∈ commits s.log, s.calls[c.call]?.map ReconcileCall.target = some c.target
  /-- The calls commit in the order in which they have taken the gate; all of them, unless one has it. -/
  order : ∃ entering, entered s.log = (commits s.log).map (·.call) ++ entering ∧ entering.length ≤ 1 ∧
    (s.gate = none → entering = [])
  /-- They return in that order, with the outcomes of their commits. -/
  results : ∃ leaving, (commits s.log).map (fun c => (c.call, c.outcome)) = returned s.log ++ leaving ∧
    leaving.length ≤ 1 ∧ (s.gate = none → leaving = [])
  /-- What each leaves and how it turns out is what it is when the same reconciliations are run one after the
  other in that order. They make the same requests, which get the same answers. Requests of the call that has
  the gate may come after them. -/
  serial : ∃ done under, requests s.log = done ++ under ∧ (s.gate = none → under = []) ∧
    (DocumentCache.reconcileAll Script.ask start ((commits s.log).map (·.target))).run ⟨done.map Prod.snd, []⟩ =
      ((commits s.log).map CommitRecord.reconciled, ⟨[], done⟩)
  /-- The cache is what the last commit left. -/
  cache : s.cache = (lastState start s.log).1
  /-- Every event tells the truth about those before it. -/
  truthful : ∀ before e after, s.log = before ++ e :: after → Told start before e

theorem Turn.length_le (h : Turn s under entering leaving) : entering.length ≤ 1 ∧ leaving.length ≤ 1 := by
  cases h with
  | free gate => simp
  | held call c is gate stands => cases stands <;> simp

theorem serialised_of_inv (h : Inv start s) : Serialised start s := by
  obtain ⟨under, entering, leaving, hprogress⟩ := h.progress
  have hlength := hprogress.turn.length_le
  have hfree : s.gate = none → under = [] ∧ entering = [] ∧ leaving = [] := hprogress.turn.of_free
  constructor
  case exclusive =>
    intro call call' hcall hcall'
    have hgate := (h.gated call).mpr hcall
    have hgate' := (h.gated call').mpr hcall'
    exact Option.some.inj (hgate.symm.trans hgate')
  case once => exact h.once
  case targeted => exact h.targeted
  case order => exact ⟨entering, hprogress.entered, hlength.1, fun hgate => (hfree hgate).2.1⟩
  case results => exact ⟨leaving, hprogress.returned, hlength.2, fun hgate => (hfree hgate).2.2⟩
  case serial =>
    obtain ⟨done, hrequests, hserial⟩ := hprogress.served
    refine ⟨done, under.map FetchCall.request, hrequests, fun hgate => by rw [(hfree hgate).1, List.map_nil], ?_⟩
    simpa using hserial []
  case cache => exact hprogress.cache
  case truthful => exact h.truthful

/-- **Reconciliations are serialised**: in every state of every run. -/
theorem serialised (cache : DocumentCache) (metrics : Metrics) (steps : List GatedStep) :
    Serialised (cache, metrics) (run { cache, metrics } steps) := by
  have hinv : Inv (cache, metrics) (run { cache, metrics } steps) :=
    run_induction (fun s step h => h.move (s.next_move step)) (Inv.fresh cache metrics) steps
  exact serialised_of_inv hinv

/-- Of two calls for one container, the one that takes the gate later finds its document, and requests nothing. -/
example :
    let target : EndpointSet := { endpoints := ⟨[("a", ⟨"http://a", []⟩)], List.pairwise_singleton _ _⟩ }
    let s := run { cache := {}, metrics := {} }
      [.call target, .call target, .enter 1, .list 1, .enter 0, .fetch 1 (.ok .null), .get "a", .commit 1, .release 1,
        .enter 0, .list 0, .get "a", .commit 0, .release 0]
    entered s.log = [1, 0] ∧ (commits s.log).map (·.stats) = [⟨1, 0, 1⟩, ⟨0, 0, 1⟩] ∧ s.gate = none := by
  decide +kernel

end LogTagger.GatedCache
