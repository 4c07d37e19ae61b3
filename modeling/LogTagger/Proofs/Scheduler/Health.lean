import LogTagger.Proofs.Scheduler.Chronicle
import Mathlib.Data.List.Sort

/-!
# What health tells of the cache

The health of a scheduler is read off the failure that it remembers, and what is cached off the cache.
Both are left by the same cycle, but not in the same step: a cycle commits, and tells its outcome after
that. **`health_truthful`** says what each health tells of the cache, in every state of every run, also
while the next cycle is under way, unless that has committed and not yet told its outcome; and what the
cache is then. `health_lags` is a run to such a state, in which the health is that of one cycle and the
cache that of another.

`SyncCycle.Sound.ids_after` is what ties the two together: after a cycle with endpoints just those
containers are cached that it listed and for which no fetch of its own failed. So they are all of them
exactly if it did not fail.
-/

namespace LogTagger

namespace SyncCycle

variable {c : SyncCycle} {target : EndpointSet}

/-- Whether a fetch for a container failed in a cycle. -/
def failedFor (c : SyncCycle) (id : String) : Bool := c.calls.any fun call => call.id == id && !call.answer.isOk

theorem failedFor_eq_false_iff {id : String} :
    c.failedFor id = false ↔ ∀ call ∈ c.calls, call.id = id → call.answer.isOk = true := by
  simp [failedFor]

/-- A listed container was cached, or a fetch was made for it: it is cached in the end unless that failed. -/
theorem Sound.cached_or_fetched_iff (h : c.Sound) (hd : c.discovery = .ok target) {id : String}
    (hid : target.contains id = true) :
    (c.before.contains id = true ∨ ∃ call ∈ c.calls, call.id = id ∧ call.answer.isOk = true) ↔
      c.failedFor id = false := by
  rw [failedFor_eq_false_iff]
  constructor
  · rintro (hcached | ⟨call, hcall, rfl, hok⟩) call' hcall' hid'
    · have hfree := h.not_cached hcall'
      rw [hid', hcached] at hfree
      cases hfree
    · exact h.eq_of_id_eq hd hcall' hcall hid' ▸ hok
  · intro hok
    cases hcached : c.before.contains id with
    | true => exact .inl rfl
    | false =>
      have hmem : id ∈ c.calls.map (·.id) := by
        rw [h.map_id_calls hd, List.mem_filter]
        exact ⟨SortedMap.mem_keys_iff.mpr hid, by rw [hcached]; rfl⟩
      obtain ⟨call, hcall, hcallid⟩ := List.mem_map.mp hmem
      exact .inr ⟨call, hcall, hcallid, hok call hcall hcallid⟩

/-- **After a cycle with endpoints** the containers are cached that it listed and for which no fetch failed. -/
theorem Sound.ids_after (h : c.Sound) (hd : c.discovery = .ok target) :
    c.after.ids = target.endpoints.keys.filter (fun id => !c.failedFor id) := by
  have hafter : c.after.ids.Pairwise (· < ·) := c.after.documents.pairwise_keys
  have hkeys : (target.endpoints.keys.filter (fun id => !c.failedFor id)).Pairwise (· < ·) :=
    target.endpoints.pairwise_keys.filter _
  refine hafter.eq_of_mem_iff hkeys fun id => ?_
  have hcontains : id ∈ c.after.ids ↔ c.after.contains id = true := SortedMap.mem_keys_iff
  have hlisted : id ∈ target.endpoints.keys ↔ target.contains id = true := SortedMap.mem_keys_iff
  rw [hcontains, h.contains_after_iff hd, List.mem_filter, hlisted, Bool.not_eq_true']
  exact and_congr_right fun hid => h.cached_or_fetched_iff hd hid

/-- A cycle that does not fail has no failed fetch. -/
theorem Sound.failedFor_of_ok (h : c.Sound) (hd : c.discovery = .ok target) {stats : ReconcileStats}
    (hok : c.outcome = .ok stats) (id : String) : c.failedFor id = false := by
  rw [failedFor_eq_false_iff]
  intro call hcall _
  cases hanswer : call.answer with
  | ok document => rfl
  | error cause =>
    have hnone : c.calls.findSome? FetchCall.failure? = none := by
      cases hfailure : c.calls.findSome? FetchCall.failure? with
      | none => rfl
      | some cause =>
        rw [(h.outcome target hd cause).mpr hfailure] at hok
        cases hok
    have hcallNone := List.findSome?_eq_none_iff.mp hnone call hcall
    rw [FetchCall.failure?, hanswer] at hcallNone
    cases hcallNone

theorem Sound.discovery_of_ok (h : c.Sound) {stats : ReconcileStats} (hok : c.outcome = .ok stats) :
    ∃ target, c.discovery = .ok target := by
  cases hd : c.discovery with
  | ok target => exact ⟨target, rfl⟩
  | error cause =>
    rw [(h.of_error cause hd).2.2] at hok
    cases hok

end SyncCycle

namespace Scheduler

/-- The health that the last cycle gives to a scheduler that runs. -/
def healthAfter : Except SourceError ReconcileStats → HealthStatus
  | .ok _ => .healthy
  | .error cause => .degraded ("last sync failed: " ++ cause.message)

/-- What the health of a scheduler that runs tells, when some cycles and then a last one have come to their end. -/
structure Told (first : DocumentCache) (earlier : List SyncCycle) (last : SyncCycle) (s : Scheduler) : Prop where
  /-- It is that of the last cycle. -/
  health : s.health = healthAfter last.outcome
  /-- When it is good, what the last cycle found is what there is. -/
  healthy : s.health = .healthy → ∃ target, last.discovery = .ok target ∧ s.cache.ids = target.endpoints.keys ∧
    s.cache.agents = target.agents
  /-- When it is not, the last cycle found nothing, and the cache is as the cycles before left it; or what it
  found is there except for the containers whose documents it could not fetch. -/
  degraded : s.health ≠ .healthy →
    ((∃ cause, last.discovery = .error cause) ∧ Linked first earlier s.cache) ∨
    ∃ target, last.discovery = .ok target ∧
      s.cache.ids = target.endpoints.keys.filter (fun id => !last.failedFor id)

/-- What the health of a scheduler tells, when it had a cache at first, some cycles have come to their end, and
one more may have come to its outcome without having told it. -/
structure Truthful (first : DocumentCache) (cycles : List SyncCycle) (untold : Option SyncCycle) (s : Scheduler) :
    Prop where
  /-- Every cycle does what a cycle does. -/
  sound : ∀ c ∈ cycles ++ untold.toList, c.Sound
  /-- Each begins with the cache that the one before it left, and the last one left the present cache. -/
  linked : Linked first (cycles ++ untold.toList) s.cache
  /-- They are the cycles that have come to their end by the journal. -/
  recorded : cycles.map (·.outcome) = s.outcomes
  /-- One is untold just between the step in which it comes to its outcome and the one in which it tells that. -/
  untold_iff : ∀ outcome, (∃ c, untold = some c ∧ c.outcome = outcome) ↔ ∃ trigger, s.activity = .concluding trigger outcome
  /-- Before the start. -/
  idle : s.stateName = "idle" → s.health = .unhealthy "not started"
  /-- After the stop. -/
  stopped : s.stateName = "stopped" → s.health = .unhealthy "stopped"
  /-- In between the health is that of the last cycle that has come to its end, and tells of the cache what
  that cycle left, unless another one has got endpoints and committed since. -/
  running : s.stateName = "running" → ∃ earlier last, cycles = earlier ++ [last] ∧
    s.health = healthAfter last.outcome ∧
    ((∀ c target, untold = some c → c.discovery ≠ .ok target) → Told first earlier last s)
  /-- When one has, the cache is as it left it. -/
  ahead : ∀ c target, untold = some c → c.discovery = .ok target →
    s.cache.ids = target.endpoints.keys.filter (fun id => !c.failedFor id) ∧ s.cache.agents = target.agents

variable {s : Scheduler} {c : Chronicle} {first : DocumentCache}

theorem health_of_isStarted (h : s.phase.isStarted = true) :
    s.health = match s.lastError with
      | none => .healthy
      | some reason => .degraded ("last sync failed: " ++ reason) := by
  cases hphase : s.phase <;> cases hlast : s.lastError <;>
    simp [health, hphase, hlast, SchedulerPhase.isStarted] at h ⊢

/-- The health is that of the last cycle that has come to its end. -/
theorem Follows.health (h : Follows first s c) (hstarted : s.phase.isStarted = true) {earlier : List SyncCycle}
    {last : SyncCycle} (hcycles : c.cycles = earlier ++ [last]) : s.health = healthAfter last.outcome := by
  rw [health_of_isStarted hstarted, h.lastError, hcycles, List.getLast?_concat, Option.bind_some]
  cases last.outcome <;> rfl

/-- When the cycles that have come to their end lead to the present cache, the health tells of it. -/
theorem Follows.told (h : Follows first s c) (hstarted : s.phase.isStarted = true) {earlier : List SyncCycle}
    {last : SyncCycle} (hcycles : c.cycles = earlier ++ [last]) (hlinked : Linked first c.cycles s.cache) :
    Told first earlier last s := by
  have hsound : last.Sound := h.sound last (by simp [Chronicle.committed, hcycles])
  obtain ⟨middle, hearlier, hbefore, hafter⟩ := linked_append.mp (hcycles ▸ hlinked)
  have hhealth := h.health hstarted hcycles
  refine ⟨hhealth, fun hhealthy => ?_, fun hdegraded => ?_⟩
  · cases hok : last.outcome with
    | error cause =>
      rw [hhealth, hok] at hhealthy
      cases hhealthy
    | ok stats =>
      obtain ⟨target, hd⟩ := hsound.discovery_of_ok hok
      refine ⟨target, hd, ?_, hafter ▸ hsound.agents target hd⟩
      rw [← hafter, hsound.ids_after hd, List.filter_eq_self]
      intro id _
      rw [hsound.failedFor_of_ok hd hok, Bool.not_false]
  · cases hd : last.discovery with
    | error cause =>
      rw [(hsound.of_error cause hd).1, hbefore] at hafter
      exact .inl ⟨⟨cause, rfl⟩, hafter ▸ hearlier⟩
    | ok target => exact .inr ⟨target, rfl, hafter ▸ hsound.ids_after hd⟩

/-- An untold cycle leads from the cache of the cycles that have come to their end to the present one. -/
theorem Follows.untold (h : Follows first s c) {k : SyncCycle} (huntold : c.untold? s = some k) :
    k.Sound ∧ Linked first c.cycles k.before ∧ k.after = s.cache := by
  have hsound := h.sound k (by simp [Chronicle.committed, huntold])
  have hlinked := h.linked
  rw [Chronicle.committed, huntold, Option.toList_some] at hlinked
  obtain ⟨middle, hcycles, hbefore, hafter⟩ := linked_append.mp hlinked
  exact ⟨hsound, hbefore ▸ hcycles, hafter⟩

/-- One that has no endpoints leaves the cache as it is. -/
theorem Follows.linked_cycles (h : Follows first s c)
    (hnone : ∀ k target, c.untold? s = some k → k.discovery ≠ .ok target) : Linked first c.cycles s.cache := by
  cases huntold : c.untold? s with
  | none =>
    have hlinked := h.linked
    rwa [Chronicle.committed, huntold, Option.toList_none, List.append_nil] at hlinked
  | some k =>
    obtain ⟨hsound, hcycles, hafter⟩ := h.untold huntold
    cases hd : k.discovery with
    | ok target => exact absurd hd (hnone k target huntold)
    | error cause => rwa [← hafter, (hsound.of_error cause hd).1]

theorem Follows.untold_iff (h : Follows first s c) (outcome : Except SourceError ReconcileStats) :
    (∃ k, c.untold? s = some k ∧ k.outcome = outcome) ↔ ∃ trigger, s.activity = .concluding trigger outcome := by
  constructor
  · rintro ⟨k, huntold, rfl⟩
    rcases s.conclude_cases with ⟨trigger, outcome, hactivity, -⟩ | ⟨hne, -⟩
    · obtain ⟨k', huntold', rfl⟩ := h.exists_untold hactivity
      rw [Option.some.inj (huntold.symm.trans huntold')]
      exact ⟨trigger, hactivity⟩
    · rw [Chronicle.untold?_of_ne hne] at huntold
      cases huntold
  · rintro ⟨trigger, hactivity⟩
    exact h.exists_untold hactivity

theorem Follows.truthful (h : Follows first s c) : Truthful first c.cycles (c.untold? s) s where
  sound := h.sound
  linked := h.linked
  recorded := h.recorded
  untold_iff := h.untold_iff
  idle hidle := by cases hphase : s.phase <;> simp [stateName, Scheduler.health, hphase] at hidle ⊢
  stopped hstopped := by cases hphase : s.phase <;> simp [stateName, Scheduler.health, hphase] at hstopped ⊢
  running hrunning := by
    have hstarted := isStarted_iff.mpr hrunning
    obtain ⟨earlier, last, hcycles⟩ := (List.eq_nil_or_concat c.cycles).resolve_left (h.started hstarted)
    rw [List.concat_eq_append] at hcycles
    exact ⟨earlier, last, hcycles, h.health hstarted hcycles,
      fun hnone => h.told hstarted hcycles (h.linked_cycles hnone)⟩
  ahead k target huntold hd := by
    obtain ⟨hsound, -, hafter⟩ := h.untold huntold
    exact ⟨hafter ▸ hsound.ids_after hd, hafter ▸ hsound.agents target hd⟩

/-- **Health tells the truth about the cache**, in every state of every run of a new scheduler in which no
cycle has committed without having told its outcome. -/
theorem health_truthful (interval now : Nat) (cache : DocumentCache) (events : EventQueue) (metrics : Metrics)
    (steps : List SchedulerStep) :
    let s := (fresh interval now cache events metrics).run steps
    let c := (fresh interval now cache events metrics).chronicle steps
    Truthful cache c.cycles (c.untold? s) s :=
  ((follows_fresh interval now cache events metrics).run steps).truthful

/-! ### Health lags behind the cache -/

/-- Two containers. -/
def twoListed : EndpointSet := .ofList [("a", ["http://a"]), ("b", ["http://b"])]

/-- The first cycle finds no containers. The second one finds two and cannot fetch the document of one of them;
it has committed, and not yet told its outcome. -/
def committing : List SchedulerStep :=
  [.start, .discovered (.ok {}), .conclude, .beginLoop, .request, .wake, .discovered (.ok twoListed),
    .fetched (.ok .null), .fetched (.error (.status 404))]

/-- **Health lags behind the cache**: what it tells is true neither of the cycle that came to its end last nor of
the one that has committed. -/
theorem health_lags :
    let s := (fresh 1000 0 {} {} {}).run committing
    let c := (fresh 1000 0 {} {} {}).chronicle committing
    s.stateName = "running" ∧ s.health = .healthy ∧ s.cache.ids = ["a"] ∧
      (∀ earlier last, c.cycles = earlier ++ [last] → ¬ Told {} earlier last s) ∧
      ∀ earlier last, c.committed s = earlier ++ [last] → ¬ Told {} earlier last s := by
  intro s c
  have hids : s.cache.ids = ["a"] := rfl
  refine ⟨rfl, rfl, hids, fun earlier last hcycles htold => ?_, fun earlier last hcommitted htold => ?_⟩
  · have hlast : c.cycles.getLast?.map (·.discovery) = some (.ok {}) := rfl
    rw [hcycles, List.getLast?_concat] at hlast
    obtain ⟨target, hd, htarget, -⟩ := htold.healthy rfl
    obtain rfl := Except.ok.inj ((Option.some.inj hlast).symm.trans hd)
    rw [hids] at htarget
    cases htarget
  · have hlast : (c.committed s).getLast?.map (fun k => healthAfter k.outcome == .healthy) = some false := rfl
    rw [hcommitted, List.getLast?_concat, Option.map_some, ← htold.health] at hlast
    cases hlast

end Scheduler

end LogTagger
