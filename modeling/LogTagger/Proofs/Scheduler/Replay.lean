import LogTagger.Proofs.Scheduler.Chronicle

/-!
# Replaying the cycles of a scheduler

The cycles of a scheduler that have left their cache are those of a run of synchronisation: each answer
that they got can be given again. So the cache of a scheduler, whatever cycle is under way and wherever
stops have cut cycles short, is the cache of such a run (`exists_replay`), and what holds after every run
of synchronisation holds in every state of every scheduler.

What the searches of those cycles found are answers that steps of the scheduler brought, in their order
(`discoveries_sublist`).
-/

namespace LogTagger

/-! ### Giving the answers again -/

/-- A cache is determined by its documents and its agents. -/
theorem DocumentCache.ext_get? {c c' : DocumentCache} (hdocuments : ∀ id, c.get? id = c'.get? id)
    (hagents : c.agents = c'.agents) : c = c' := by
  cases c
  cases c'
  exact congrArg₂ DocumentCache.mk (SortedMap.ext_get? hdocuments) hagents

/-- The answers of a cycle that is to be gone through once more: each fetch is answered by its place. -/
def SyncCycle.replay (c : SyncCycle) : CycleAnswers where
  discovery := c.discovery
  fetch n _ := ((c.requests.map Prod.snd)[n]?).getD (.error .notAnObject)

namespace SyncCycle

variable {c : SyncCycle}

/-- Answers by their place are given one after the other. -/
theorem answersFrom_replay (c : SyncCycle) (missing : List (String × String)) (n : Nat)
    (h : n + missing.length = c.requests.length) :
    c.replay.answersFrom n missing = (c.requests.map Prod.snd).drop n := by
  induction missing generalizing n with
  | nil =>
    have hend : (c.requests.map Prod.snd).length ≤ n := by
      rw [List.length_map, ← h]
      exact Nat.le_refl n
    rw [CycleAnswers.answersFrom, List.drop_eq_nil_of_le hend]
  | cons e rest ih =>
    have hlt : n < (c.requests.map Prod.snd).length := by
      rw [List.length_map, ← h, List.length_cons]
      omega
    have hrest : n + 1 + rest.length = c.requests.length := by
      rw [← h, List.length_cons]
      omega
    have hfirst : c.replay.fetch n e.2 = (c.requests.map Prod.snd)[n] := by
      simp only [replay, List.getElem?_eq_getElem hlt, Option.getD_some]
    rw [CycleAnswers.answersFrom, ih (n + 1) hrest, hfirst, ← List.drop_eq_getElem_cons hlt]

/-- **A sound cycle that is gone through once more** leaves the same cache. -/
theorem Sound.cache_replay (h : c.Sound) {run : SyncRun} (hbefore : c.before = run.cache) :
    (run.next c.replay).cache = c.after := by
  cases hd : c.discovery with
  | error cause =>
    rw [SyncRun.next_of_error run (a := c.replay) hd, (h.of_error cause hd).1, hbefore]
  | ok target =>
    have hlength : 0 + (Reconciliation.missingFrom run.cache target).length = c.requests.length := by
      rw [← hbefore, ← h.containers target hd, h.requests_eq]
      simp
    have hcalls : c.calls =
        Reconciliation.callsOf (Reconciliation.missingFrom run.cache target) (c.requests.map Prod.snd) := by
      rw [calls, hd, hbefore]
    rw [SyncRun.next_of_ok run (a := c.replay) hd]
    simp only [c.answersFrom_replay _ 0 hlength, List.drop_zero]
    refine DocumentCache.ext_get? (fun id => ?_) ?_
    · rw [DocumentCache.get?_reconciledBy, h.documents target hd, hbefore, hcalls]
    · rw [DocumentCache.agents_reconciledBy, h.agents target hd]

end SyncCycle

namespace SyncRun

/-- Sound cycles one after the other are gone through once more. -/
theorem cache_foldl_replay {cycles : List SyncCycle} {last : DocumentCache} {run : SyncRun}
    (hsound : ∀ c ∈ cycles, c.Sound) (hlinked : Linked run.cache cycles last) :
    ((cycles.map SyncCycle.replay).foldl next run).cache = last := by
  induction cycles generalizing run with
  | nil => exact hlinked
  | cons c rest ih =>
    obtain ⟨hbefore, hrest⟩ := hlinked
    rw [List.forall_mem_cons] at hsound
    rw [← hsound.1.cache_replay hbefore] at hrest
    exact ih hsound.2 hrest

end SyncRun

/-! ### What the searches found -/

/-- What a step brings as the answer to a search for endpoints. -/
def SchedulerStep.discovery? : SchedulerStep → Option (Except SourceError EndpointSet)
  | .discovered answer => some answer
  | _ => none

namespace Chronicle

/-- What the searches of the cycles found, the cycle under way included. -/
def discoveries (c : Chronicle) : List (Except SourceError EndpointSet) :=
  c.cycles.map (·.discovery) ++ (c.current.bind (·.discovery)).toList

/-- An entry of the journal brings no answer. -/
theorem discoveries_note (cache : DocumentCache) (c : Chronicle) (e : JournalEntry) :
    (note cache c e).discoveries.Sublist c.discoveries := by
  cases e with
  | discovery trigger time => simp [note, discoveries]
  | fetch id url => cases h : c.current <;> simp [note, discoveries, h]
  | finished trigger outcome =>
    cases h : c.current with
    | none => simp [note, discoveries, h]
    | some o => cases hd : o.discovery <;> simp [note, discoveries, h, hd, OpenCycle.close?]

theorem discoveries_foldl_note (cache : DocumentCache) (c : Chronicle) (entries : List JournalEntry) :
    (entries.foldl (note cache) c).discoveries.Sublist c.discoveries := by
  induction entries generalizing c with
  | nil => exact .refl _
  | cons e rest ih => exact (ih _).trans (discoveries_note cache c e)

/-- A cycle is closed with what its search found. -/
theorem map_discovery_untold? (c : Chronicle) (s : Scheduler) :
    ((c.untold? s).toList.map (·.discovery)).Sublist (c.current.bind (·.discovery)).toList := by
  rw [untold?]
  split
  case h_1 trigger outcome hactivity =>
    cases h : c.current with
    | none => exact .slnil
    | some o => cases hd : o.discovery <;> simp [OpenCycle.close?, hd]
  case h_2 => exact List.nil_sublist _

theorem map_discovery_committed (c : Chronicle) (s : Scheduler) :
    ((c.committed s).map (·.discovery)).Sublist c.discoveries := by
  rw [committed, List.map_append, discoveries]
  exact .append (.refl _) (c.map_discovery_untold? s)

/-- At most the answer of the step is heard. -/
theorem discoveries_hear (c : Chronicle) (activity : Activity) (step : SchedulerStep) :
    (c.hear activity step).discoveries.Sublist (c.discoveries ++ step.discovery?.toList) := by
  unfold hear
  split
  case h_1 trigger answer =>
    rw [discoveries, discoveries, List.append_assoc]
    refine .append (.refl _) ?_
    cases c.current with
    | none => exact List.nil_sublist _
    | some o => exact List.sublist_append_right _ _
  case h_2 trigger r answer => cases h : c.current <;> simp [discoveries, h, SchedulerStep.discovery?]
  case h_3 => exact List.sublist_append_left _ _

end Chronicle

namespace Scheduler

/-- **What the searches of the cycles found** are answers that the steps brought, in their order. -/
theorem discoveries_sublist (s : Scheduler) (c : Chronicle) (steps : List SchedulerStep) :
    (s.chronicleFrom c steps).discoveries.Sublist (c.discoveries ++ steps.filterMap SchedulerStep.discovery?) := by
  induction steps generalizing s c with
  | nil => simp [chronicleFrom]
  | cons step rest ih =>
    have hstep : (c.watch s step).discoveries.Sublist (c.discoveries ++ step.discovery?.toList) :=
      (Chronicle.discoveries_foldl_note _ _ _).trans (c.discoveries_hear s.activity step)
    have hrest := (ih (s.next step) (c.watch s step)).trans (hstep.append_right _)
    cases h : step.discovery? <;> simpa [chronicleFrom, h] using hrest

/-- **Every cache of a scheduler is that of a run of synchronisation**, whose searches found what those of
the cycles found that have left their cache. -/
theorem exists_replay (interval now : Nat) (events : EventQueue) (metrics : Metrics) (steps : List SchedulerStep) :
    let s := (fresh interval now {} events metrics).run steps
    let c := (fresh interval now {} events metrics).chronicle steps
    ∃ answers : List CycleAnswers,
      (answers.map (·.discovery)).Sublist (steps.filterMap SchedulerStep.discovery?) ∧
      answers.map (·.discovery) = (c.committed s).map (·.discovery) ∧ s.cache = (SyncRun.ofAnswers answers).cache := by
  intro s c
  have hfollows : Follows {} s c := (follows_fresh interval now {} events metrics).run steps
  have hsublist := (fresh interval now {} events metrics).discoveries_sublist {} steps
  have hsame : ((c.committed s).map SyncCycle.replay).map (·.discovery) = (c.committed s).map (·.discovery) := by
    rw [List.map_map]
    rfl
  refine ⟨(c.committed s).map SyncCycle.replay, ?_, hsame, ?_⟩
  · rw [hsame]
    exact (c.map_discovery_committed s).trans hsublist
  · exact (SyncRun.cache_foldl_replay hfollows.sound hfollows.linked).symm

end Scheduler

end LogTagger
