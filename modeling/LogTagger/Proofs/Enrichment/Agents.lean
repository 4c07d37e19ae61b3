import LogTagger.Enricher
import LogTagger.Proofs.Docker.Discovery
import LogTagger.Proofs.Scheduler.Replay

/-!
# Agents and enriched containers

No container is both an agent and one whose document is cached, as long as the daemon lists no id twice
(`DistinctDaemon`). Nothing checks this: the documents and the agents of a cache are kept apart, documents
stay from one cycle to the next while the agents are replaced as a whole, and a container may change its
image or go between two cycles, or searches may fail.

**`agents_apart`**: after any cycles of synchronisation with such daemons the agents are those listed as
such when endpoints were found last, none of them has a document, and enrichment marks the resources of
just those (`AgentsApart`). So it is in every state of a scheduler, also while a cycle is under way or has
been cut short, because its cache is always one that such cycles leave.
-/

namespace LogTagger

/-! ### Cycles with a daemon -/

/-- A daemon that lists no id twice. -/
structure DistinctDaemon extends DockerDaemon where
  /-- The ids of its list are distinct. -/
  distinct : ∀ containers, listing = .ok containers → (containers.map (·.id)).Nodup

/-- A cycle that asks a daemon for the endpoints. -/
structure DockerCycle where
  /-- The daemon as the search finds it. -/
  daemon : DistinctDaemon
  /-- What a fetch gives, by its place among those of the cycle and by the address. -/
  fetch : Nat → String → Except FetchError Json

namespace DockerCycle

/-- What the cycle is answered. -/
def answers (c : DockerCycle) : CycleAnswers where
  discovery := c.daemon.endpoints
  fetch := c.fetch

/-- The run of cycles from the empty cache. -/
def run (cycles : List DockerCycle) : SyncRun := .ofAnswers (cycles.map answers)

/-- The containers that were listed in the last cycle that found endpoints. -/
def lastListed (cycles : List DockerCycle) : List ListedContainer :=
  cycles.foldl (fun listed c => match c.daemon.endpoints, c.daemon.listing with
    | .ok _, .ok containers => containers
    | _, _ => listed) []

end DockerCycle

/-- A step of a scheduler, with the daemon as it is then. -/
structure DockerStep where
  /-- The step. -/
  step : SchedulerStep
  /-- The daemon. -/
  daemon : DistinctDaemon

namespace DockerStep

/-- The daemon, if the step is its answer to a search. -/
def searched? (s : DockerStep) : Option DistinctDaemon := s.step.discovery?.map fun _ => s.daemon

/-- The step that is taken: the answer to a search is that of the daemon. -/
def taken (s : DockerStep) : SchedulerStep :=
  match s.step with
  | .discovered _ => .discovered s.daemon.endpoints
  | step => step

theorem discovery?_taken (s : DockerStep) : s.taken.discovery? = s.searched?.map (·.endpoints) := by
  obtain ⟨step, daemon⟩ := s
  cases step <;> rfl

end DockerStep

/-! ### What the cache knows -/

namespace DockerCycle

/-- What the cycles found last is what the daemon listed last. -/
theorem finds_lastListed (cycles : List DockerCycle) :
    DockerDaemon.Finds (lastListed cycles) ((run cycles).lastFound.getD {}) ∧
      ((lastListed cycles).map (·.id)).Nodup := by
  induction cycles using List.reverseRecOn with
  | nil => exact ⟨DockerDaemon.finds_nil, .nil⟩
  | append_singleton earlier c ih =>
    have hrun : run (earlier ++ [c]) = (run earlier).next c.answers := by
      simp [run, SyncRun.ofAnswers]
    obtain ⟨k, -, -, hdiscovery, -, hcycles⟩ := (run earlier).exists_cycle_next c.answers
    rw [hrun, SyncRun.lastFound_of_append hcycles, hdiscovery, lastListed, List.foldl_append, ← lastListed]
    cases hd : c.daemon.endpoints with
    | error cause => simpa [answers, hd, Except.toOption] using ih
    | ok found =>
      obtain ⟨containers, hlisting, hfinds⟩ := DockerDaemon.finds_of_endpoints hd
      simpa [answers, hd, hlisting, Except.toOption] using ⟨hfinds, c.daemon.distinct containers hlisting⟩

/-- The agents of the cache are those that were listed last. -/
theorem isAgent_run_iff (cycles : List DockerCycle) (id : String) :
    (run cycles).cache.isAgent id = true ↔ ∃ c ∈ lastListed cycles, c.id = id ∧ c.isAgent = true := by
  have hagents : (run cycles).cache.agents = ((run cycles).lastFound.getD {}).agents := by
    rw [run, (SyncRun.inv_ofAnswers _).agents]
    cases (SyncRun.ofAnswers (cycles.map answers)).lastFound <;> rfl
  rw [DocumentCache.isAgent, hagents]
  exact (finds_lastListed cycles).1.isAgent_iff id

/-- No agent has a document. -/
theorem not_contains_run_of_isAgent (cycles : List DockerCycle) {id : String}
    (h : (run cycles).cache.isAgent id = true) : (run cycles).cache.contains id = false := by
  obtain ⟨hfinds, hids⟩ := finds_lastListed cycles
  rw [← Bool.not_eq_true]
  intro hcached
  obtain ⟨found, hfound, hcontains⟩ := (SyncRun.inv_ofAnswers (cycles.map answers)).listed id hcached
  have hagent := (hfinds.isAgent_iff id).mpr ((isAgent_run_iff cycles id).mp h)
  have hnot := hfinds.not_contains_of_isAgent hids hagent
  rw [run, hfound, Option.getD_some, hcontains] at hnot
  cases hnot

end DockerCycle

/-! ### What enrichment makes of it -/

namespace EnrichSummary

theorem ofEnrichments_concat (l : List Enrichment) (e : Enrichment) :
    ofEnrichments (l ++ [e]) = (ofEnrichments l).add (ofEnrichment e) := by
  rw [ofEnrichments, List.foldl_append]
  rfl

theorem agents_ofEnrichment (e : Enrichment) : (ofEnrichment e).agents = if e.agent then 1 else 0 := by
  rw [ofEnrichment]
  cases e.outcome <;> rfl

/-- The resources of agents are counted. -/
theorem agents_ofEnrichments (l : List Enrichment) : (ofEnrichments l).agents = l.countP (·.agent) := by
  induction l using List.reverseRecOn with
  | nil => rfl
  | append_singleton earlier e ih =>
    rw [ofEnrichments_concat, List.countP_append, List.countP_singleton, ← ih, ← agents_ofEnrichment]
    rfl

end EnrichSummary

namespace Enricher

variable {L : PatternLanguage}

/-- Whether a resource comes from an agent. -/
def isFromAgent (e : Enricher L) (cache : DocumentCache) (r : Resource) : Bool :=
  (ContainerId.ofResource? r e.sources).any fun id => cache.isAgent id.text

theorem agent_enrich (e : Enricher L) (cache : DocumentCache) (r : Resource) :
    (e.enrich cache r).agent = e.isFromAgent cache r := by
  rw [enrich, isFromAgent]
  cases ContainerId.ofResource? r e.sources with
  | none => rfl
  | some id =>
    simp only [Option.any_some]
    split
    · rfl
    · split <;> rfl

/-- Without a document a resource is marked if it comes from an agent, and no more. -/
theorem enrich_of_not_cached (e : Enricher L) {cache : DocumentCache} {r : Resource} {id : ContainerId}
    (hid : ContainerId.ofResource? r e.sources = some id) (h : cache.contains id.text = false) :
    e.enrich cache r =
      ⟨tag (cache.isAgent id.text) r, cache.isAgent id.text, .cacheMiss, (0, 0)⟩ := by
  have hnone : cache.get? id.text = none := SortedMap.contains_eq_false_iff.mp h
  simp only [enrich, hid, hnone]

end Enricher

/-- Agents are kept apart from enriched containers, when some containers were listed last. -/
structure AgentsApart (listed : List ListedContainer) (cache : DocumentCache) : Prop where
  /-- No agent has a document. -/
  disjoint : ∀ id, ¬(cache.isAgent id = true ∧ cache.contains id = true)
  /-- The agents are the containers listed with the image of one. -/
  isAgent_iff : ∀ id, cache.isAgent id = true ↔
    ∃ c ∈ listed, c.id = id ∧ "amazon/amazon-ecs-agent".toList <:+: c.image.toList
  /-- A resource of an agent counts as one without a document, whatever the filter lets pass and however
  documents are flattened. It gets the mark, and its other attributes stay as they are. -/
  marked : ∀ (L : PatternLanguage) (e : Enricher L) (r : Resource), e.isFromAgent cache r = true →
    (e.enrich cache r).outcome = .cacheMiss ∧
      (e.enrich cache r).resource.attributes.get? "ecs.agent" = some (.string "true") ∧
      ∀ key, key ≠ "ecs.agent" → (e.enrich cache r).resource.attributes.get? key = r.attributes.get? key
  /-- Of a batch just the resources of agents are counted as such. -/
  counted : ∀ (L : PatternLanguage) (e : Enricher L) (metrics : Metrics) (batch : List ResourceLogs),
    (e.process cache metrics batch).2.1.agents = batch.countP fun b => e.isFromAgent cache b.resource

/-- What enrichment makes of agents follows from what the cache knows of them. -/
theorem AgentsApart.of_cache {listed : List ListedContainer} {cache : DocumentCache}
    (hdisjoint : ∀ id, cache.isAgent id = true → cache.contains id = false)
    (hagents : ∀ id, cache.isAgent id = true ↔ ∃ c ∈ listed, c.id = id ∧ c.isAgent = true) :
    AgentsApart listed cache where
  disjoint := by
    rintro id ⟨hagent, hcached⟩
    rw [hdisjoint id hagent] at hcached
    cases hcached
  isAgent_iff id := by
    simp only [hagents, ListedContainer.isAgent_iff, agentImage]
  marked L e r hfrom := by
    obtain ⟨id, hid, hagent⟩ := (Option.any_eq_true ..).mp hfrom
    rw [e.enrich_of_not_cached hid (hdisjoint id.text hagent), hagent]
    refine ⟨rfl, SortedMap.get?_insert_self .., fun key hkey => ?_⟩
    exact SortedMap.get?_insert_of_ne _ _ hkey
  counted L e metrics batch := by
    have hagents := EnrichSummary.agents_ofEnrichments (e.enrichAll cache batch)
    rw [Enricher.process, hagents, Enricher.enrichAll, List.countP_map]
    congr 1
    funext b
    exact e.agent_enrich cache b.resource

theorem DockerCycle.agentsApart_run (cycles : List DockerCycle) :
    AgentsApart (lastListed cycles) (run cycles).cache :=
  .of_cache (fun _ => not_contains_run_of_isAgent cycles) (isAgent_run_iff cycles)

/-! ### In every state of a scheduler -/

/-- Daemons that gave what cycles found are those of cycles. -/
theorem DockerCycle.exists_of_daemons {daemons : List DistinctDaemon} {answers : List CycleAnswers}
    (h : daemons.map (·.endpoints) = answers.map (·.discovery)) :
    ∃ cycles : List DockerCycle, cycles.map (·.daemon) = daemons ∧ cycles.map DockerCycle.answers = answers := by
  induction daemons generalizing answers with
  | nil =>
    obtain rfl := List.map_eq_nil_iff.mp h.symm
    exact ⟨[], rfl, rfl⟩
  | cons d rest ih =>
    cases answers with
    | nil => cases h
    | cons a others =>
      have hd : d.endpoints = a.discovery := (List.cons.inj h).1
      obtain ⟨cycles, rfl, rfl⟩ := ih (List.cons.inj h).2
      refine ⟨⟨d, a.fetch⟩ :: cycles, rfl, ?_⟩
      simp only [List.map_cons, DockerCycle.answers, hd]

/-- **Agents are kept apart from enriched containers**, after any cycles with daemons that list no id
twice, and in every state of every scheduler that asks such daemons: there the cycles are those that have
left their cache, with the daemons that answered their searches. -/
theorem agents_apart :
    (∀ cycles : List DockerCycle, AgentsApart (DockerCycle.lastListed cycles) (DockerCycle.run cycles).cache) ∧
    ∀ (interval now : Nat) (events : EventQueue) (metrics : Metrics) (steps : List DockerStep),
      let s := (Scheduler.fresh interval now {} events metrics).run (steps.map DockerStep.taken)
      let c := (Scheduler.fresh interval now {} events metrics).chronicle (steps.map DockerStep.taken)
      ∃ cycles : List DockerCycle,
        (cycles.map (·.daemon)).Sublist (steps.filterMap DockerStep.searched?) ∧
        cycles.map (·.daemon.endpoints) = (c.committed s).map (·.discovery) ∧
        AgentsApart (DockerCycle.lastListed cycles) s.cache := by
  refine ⟨DockerCycle.agentsApart_run, fun interval now events metrics steps => ?_⟩
  obtain ⟨answers, hsublist, hdiscoveries, hcache⟩ :=
    Scheduler.exists_replay interval now events metrics (steps.map DockerStep.taken)
  have hsearched : (steps.map DockerStep.taken).filterMap SchedulerStep.discovery? =
      (steps.filterMap DockerStep.searched?).map (·.endpoints) := by
    rw [List.filterMap_map, List.map_filterMap]
    congr 1
    funext s
    exact s.discovery?_taken
  rw [hsearched] at hsublist
  obtain ⟨daemons, hdaemons, hmap⟩ := List.sublist_map_iff.mp hsublist
  obtain ⟨cycles, hcycles, hanswers⟩ := DockerCycle.exists_of_daemons hmap.symm
  refine ⟨cycles, hcycles ▸ hdaemons, ?_, ?_⟩
  · rw [← hdiscoveries, hmap, ← hcycles, List.map_map]
    rfl
  · rw [hcache, ← hanswers]
    exact DockerCycle.agentsApart_run cycles

/-- A daemon that runs an agent, and a container whose environment holds the address of its document. -/
def mixedDaemon : DistinctDaemon where
  ping := .ok ()
  listing := .ok [⟨"abc", "agent", "amazon/amazon-ecs-agent:latest"⟩, ⟨"def", "web", "nginx"⟩]
  inspect id := .ok ⟨id, "web", ["ECS_CONTAINER_METADATA_URI_V4=http://web"]⟩
  distinct containers h := by
    obtain rfl := Except.ok.inj h
    simp

/-- A cycle in which that document is fetched. -/
def mixedCycle : DockerCycle where
  daemon := mixedDaemon
  fetch _ _ := .ok (.object [("Image", .string "nginx")])

/-- The container has a document and the agent has none, with such a daemon. -/
theorem agents_apart_of_mixed : (DockerCycle.run [mixedCycle]).cache.ids = ["def"] ∧
    (DockerCycle.run [mixedCycle]).cache.isAgent "abc" = true ∧
    AgentsApart (DockerCycle.lastListed [mixedCycle]) (DockerCycle.run [mixedCycle]).cache :=
  ⟨by decide +kernel, by decide +kernel, agents_apart.1 [mixedCycle]⟩

end LogTagger
