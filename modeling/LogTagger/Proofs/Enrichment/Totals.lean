import LogTagger.Proofs.Enrichment.Agents
import Mathlib

/-!
# What batches add up to

A batch is enriched resource by resource, and what is told of it is a sum over its resources: the summary
(`EnrichSummary.ofEnrichments_append`) and what the batch adds to each counter (`Enricher.growth_append`).
So it does not matter how a stream of resources is cut into batches.

**`Enricher.additive`** says so of every enricher and every cache, and that the books of every batch balance
(`Enricher.Books`). Four outcomes are told apart in the summary, of which the counters count two as one, and the
mark of an agent goes along with three of them: an agent has been identified (`Enricher.agent_of_unidentified`).
-/

namespace LogTagger

theorem countP_eq_sum {α : Type} (p : α → Bool) (l : List α) :
    l.countP p = (l.map fun a => if p a then 1 else 0).sum := by
  induction l with
  | nil => rfl
  | cons a rest ih => rw [List.countP_cons, List.map_cons, List.sum_cons, ih, Nat.add_comm]

/-! ### Sums of summaries -/

namespace EnrichSummary

theorem add_assoc (s t u : EnrichSummary) : (s.add t).add u = s.add (t.add u) := by
  simp only [add, Nat.add_assoc]

theorem add_empty (s : EnrichSummary) : s.add {} = s := rfl

theorem ofEnrichments_append (l r : List Enrichment) :
    ofEnrichments (l ++ r) = (ofEnrichments l).add (ofEnrichments r) := by
  induction r using List.reverseRecOn with
  | nil => rw [List.append_nil]; rfl
  | append_singleton earlier e ih =>
    rw [← List.append_assoc, ofEnrichments_concat, ofEnrichments_concat, ih, add_assoc]

/-- What a batch with this summary adds to a counter, collisions of keys apart. -/
def counted (s : EnrichSummary) : Series → Nat
  | .resources => s.resources
  | .enriched => s.enriched
  | .cacheMisses => s.cacheMisses + s.unidentified
  | .attributesWritten => s.attributesWritten
  | .agentTagged => s.agents
  | _ => 0

theorem counted_add (s t : EnrichSummary) (series : Series) :
    (s.add t).counted series = s.counted series + t.counted series := by
  cases series
  case cacheMisses =>
    simp only [counted, add]
    omega
  all_goals rfl

/-- The resources of a summary are told apart by what became of them, and those of agents have been identified. -/
structure Balanced (s : EnrichSummary) : Prop where
  outcomes : s.resources = s.enriched + s.unidentified + s.cacheMisses + s.flattenFailures
  agents : s.agents + s.unidentified ≤ s.resources

theorem Balanced.add {s t : EnrichSummary} (hs : s.Balanced) (ht : t.Balanced) : (s.add t).Balanced where
  outcomes := by
    have := hs.outcomes
    have := ht.outcomes
    simp only [EnrichSummary.add]
    omega
  agents := by
    have := hs.agents
    have := ht.agents
    simp only [EnrichSummary.add]
    omega

/-- One resource has one outcome, and if that is to be unidentified it is not marked. -/
theorem balanced_ofEnrichment {e : Enrichment} (h : e.outcome = .unidentified → e.agent = false) :
    (ofEnrichment e).Balanced := by
  obtain ⟨resource, agent, outcome, collisions⟩ := e
  cases outcome with
  | unidentified =>
    obtain rfl : agent = false := h rfl
    exact ⟨rfl, Nat.le_refl 1⟩
  | cacheMiss => exact ⟨rfl, by cases agent <;> simp [ofEnrichment]⟩
  | flattenFailed => exact ⟨rfl, by cases agent <;> simp [ofEnrichment]⟩
  | enriched written => exact ⟨rfl, by cases agent <;> simp [ofEnrichment]⟩

theorem balanced_ofEnrichments {l : List Enrichment} (h : ∀ e ∈ l, e.outcome = .unidentified → e.agent = false) :
    (ofEnrichments l).Balanced := by
  induction l using List.reverseRecOn with
  | nil => exact ⟨rfl, Nat.le_refl 0⟩
  | append_singleton earlier e ih =>
    rw [ofEnrichments_concat]
    have hearlier := ih fun d hd => h d (List.mem_append_left [e] hd)
    exact hearlier.add (balanced_ofEnrichment (h e (by simp)))

theorem resources_ofEnrichment (e : Enrichment) : (ofEnrichment e).resources = 1 := by
  rw [ofEnrichment]
  cases e.outcome <;> rfl

theorem enriched_ofEnrichment (e : Enrichment) :
    (ofEnrichment e).enriched = if e.outcome.written?.isSome then 1 else 0 := by
  rw [ofEnrichment]
  cases e.outcome <;> rfl

theorem attributesWritten_ofEnrichment (e : Enrichment) :
    (ofEnrichment e).attributesWritten = e.outcome.written?.getD 0 := by
  rw [ofEnrichment]
  cases e.outcome <;> rfl

/-- What adds up over summaries is the sum of what it is for the resources one by one. -/
theorem sum_ofEnrichments {f : EnrichSummary → Nat} {g : Enrichment → Nat} (hempty : f {} = 0)
    (hadd : ∀ s t, f (s.add t) = f s + f t) (hone : ∀ e, f (ofEnrichment e) = g e) (l : List Enrichment) :
    f (ofEnrichments l) = (l.map g).sum := by
  induction l using List.reverseRecOn with
  | nil => exact hempty
  | append_singleton earlier e ih =>
    rw [ofEnrichments_concat, hadd, ih, hone, List.map_append, List.sum_append, List.map_singleton, List.sum_singleton]

theorem resources_ofEnrichments (l : List Enrichment) : (ofEnrichments l).resources = l.length := by
  have hsum := sum_ofEnrichments rfl (fun _ _ => rfl) resources_ofEnrichment l
  simpa using hsum

/-- Those count as enriched to which attributes were written, be it none. -/
theorem enriched_ofEnrichments (l : List Enrichment) :
    (ofEnrichments l).enriched = l.countP fun e => e.outcome.written?.isSome := by
  rw [countP_eq_sum]
  exact sum_ofEnrichments rfl (fun _ _ => rfl) enriched_ofEnrichment l

theorem attributesWritten_ofEnrichments (l : List Enrichment) :
    (ofEnrichments l).attributesWritten = (l.map fun e => e.outcome.written?.getD 0).sum :=
  sum_ofEnrichments rfl (fun _ _ => rfl) attributesWritten_ofEnrichment l

end EnrichSummary

/-! ### What the counters grow by -/

/-- What the flattening of a document adds to a counter. -/
def Enrichment.collided (e : Enrichment) : Series → Nat
  | .keyCollisions true => e.collisions.1
  | .keyCollisions false => e.collisions.2
  | _ => 0

namespace Metrics

theorem count_countCollisions (m : Metrics) (e : Enrichment) (series : Series) :
    (m.countCollisions e.collisions).count series = m.count series + e.collided series := by
  rw [countCollisions]
  split
  case isTrue h => unfold Enrichment.collided; split <;> simp [h]
  case isFalse => unfold Enrichment.collided; split <;> simp_all [count_add]

theorem count_foldl_countCollisions (m : Metrics) (l : List Enrichment) (series : Series) :
    (l.foldl (fun m e => m.countCollisions e.collisions) m).count series =
      m.count series + (l.map fun e => e.collided series).sum := by
  induction l generalizing m with
  | nil => rfl
  | cons e rest ih =>
    rw [List.foldl_cons, ih, count_countCollisions, List.map_cons, List.sum_cons, Nat.add_assoc]

theorem count_countBatch (m : Metrics) (s : EnrichSummary) (series : Series) :
    (m.countBatch s).count series = m.count series + s.counted series := by
  unfold countBatch EnrichSummary.counted
  cases series <;> simp [count_add]

end Metrics

namespace Enricher

variable {L : PatternLanguage}

/-! ### Books -/

/-- The books of a batch: its summary, and the counters before and after it. -/
structure Books (e : Enricher L) (cache : DocumentCache) (batch : List ResourceLogs) (s : EnrichSummary)
    (before after : Metrics) : Prop where
  /-- All resources are counted. -/
  resources : s.resources = batch.length
  /-- Each has one outcome. -/
  outcomes : s.resources = s.enriched + s.unidentified + s.cacheMisses + s.flattenFailures
  /-- Only those that are identified may come from agents. -/
  agents : s.agents ≤ s.resources - s.unidentified
  /-- Those are enriched for which a number of attributes is told when they are enriched alone. -/
  enriched : s.enriched = batch.countP fun logs => (e.enrichResource cache before logs.resource).2.1.isSome
  /-- The attributes written are those told of the resources one by one. -/
  written : s.attributesWritten =
    (batch.map fun logs => (e.enrichResource cache before logs.resource).2.1.getD 0).sum
  /-- What is counted neither as enriched nor as missed could not be flattened. -/
  failures : (after.count .resources : Int) - after.count .enriched - after.count .cacheMisses =
    (before.count .resources : Int) - before.count .enriched - before.count .cacheMisses + s.flattenFailures
  /-- The attributes written are counted. -/
  attributes : after.count .attributesWritten = before.count .attributesWritten + s.attributesWritten
  /-- The resources of agents are counted. -/
  tagged : after.count .agentTagged = before.count .agentTagged + s.agents

/-- Batches one after the other, each with the metrics that the one before leaves. -/
def processEach (e : Enricher L) (cache : DocumentCache) :
    Metrics → List (List ResourceLogs) → List (List ResourceLogs × EnrichSummary) × Metrics
  | metrics, [] => ([], metrics)
  | metrics, batch :: rest =>
    let done := e.process cache metrics batch
    let others := processEach e cache done.2.2 rest
    ((done.1, done.2.1) :: others.1, others.2)

/-- Enrichment of batches adds up. -/
structure Additive (e : Enricher L) (cache : DocumentCache) : Prop where
  /-- What becomes of a batch becomes of its parts, whatever was counted before. -/
  resources_append : ∀ metrics first second xs ys, (e.process cache metrics (xs ++ ys)).1 =
    (e.process cache first xs).1 ++ (e.process cache second ys).1
  /-- The summary of a batch is the sum of those of its parts. -/
  summary_append : ∀ metrics first second xs ys, (e.process cache metrics (xs ++ ys)).2.1 =
    (e.process cache first xs).2.1.add (e.process cache second ys).2.1
  /-- The books of every batch balance. -/
  books : ∀ metrics batch, e.Books cache batch (e.process cache metrics batch).2.1 metrics
    (e.process cache metrics batch).2.2
  /-- Cut into batches in whatever way, a stream of resources becomes the same. -/
  resources_flatten : ∀ metrics batches, ((e.processEach cache metrics batches).1.map Prod.fst).flatten =
    (e.process cache metrics batches.flatten).1
  /-- So do the sums over it. -/
  summary_flatten : ∀ metrics batches,
    ((e.processEach cache metrics batches).1.map Prod.snd).foldl EnrichSummary.add {} =
      (e.process cache metrics batches.flatten).2.1
  /-- So do all counters. -/
  count_flatten : ∀ metrics batches series, (e.processEach cache metrics batches).2.count series =
    (e.process cache metrics batches.flatten).2.2.count series

variable (e : Enricher L) (cache : DocumentCache)

theorem enrichAll_append (xs ys : List ResourceLogs) :
    e.enrichAll cache (xs ++ ys) = e.enrichAll cache xs ++ e.enrichAll cache ys :=
  List.map_append

/-- A resource that was not identified is not marked. -/
theorem agent_of_unidentified {r : Resource} (h : (e.enrich cache r).outcome = .unidentified) :
    (e.enrich cache r).agent = false := by
  rw [agent_enrich, isFromAgent]
  cases hid : ContainerId.ofResource? r e.sources with
  | none => rfl
  | some id =>
    -- With an id the outcome is another one.
    simp only [enrich, hid] at h
    split at h
    · cases h
    · split at h <;> cases h

/-- What a batch adds to a counter. -/
def growth (batch : List ResourceLogs) (series : Series) : Nat :=
  ((e.enrichAll cache batch).map fun d => d.collided series).sum +
    (EnrichSummary.ofEnrichments (e.enrichAll cache batch)).counted series

theorem growth_append (xs ys : List ResourceLogs) (series : Series) :
    e.growth cache (xs ++ ys) series = e.growth cache xs series + e.growth cache ys series := by
  simp only [growth, enrichAll_append, EnrichSummary.ofEnrichments_append, EnrichSummary.counted_add, List.map_append,
    List.sum_append]
  omega

theorem count_process (metrics : Metrics) (batch : List ResourceLogs) (series : Series) :
    (e.process cache metrics batch).2.2.count series = metrics.count series + e.growth cache batch series := by
  rw [process, Metrics.count_countBatch, Metrics.count_foldl_countCollisions, growth, Nat.add_assoc]

theorem process_append (metrics first second : Metrics) (xs ys : List ResourceLogs) :
    (e.process cache metrics (xs ++ ys)).1 = (e.process cache first xs).1 ++ (e.process cache second ys).1 ∧
      (e.process cache metrics (xs ++ ys)).2.1 =
        (e.process cache first xs).2.1.add (e.process cache second ys).2.1 := by
  refine ⟨List.map_append, ?_⟩
  rw [process, process, process, enrichAll_append, EnrichSummary.ofEnrichments_append]

/-- The books of a batch are read off its outcomes. -/
theorem books (metrics : Metrics) (batch : List ResourceLogs) :
    e.Books cache batch (e.process cache metrics batch).2.1 metrics (e.process cache metrics batch).2.2 := by
  have hbalanced : (e.process cache metrics batch).2.1.Balanced := by
    refine EnrichSummary.balanced_ofEnrichments fun d hd => ?_
    obtain ⟨logs, -, rfl⟩ := List.mem_map.mp hd
    exact e.agent_of_unidentified cache
  have hcount : ∀ series, (∀ d : Enrichment, d.collided series = 0) →
      (e.process cache metrics batch).2.2.count series =
        metrics.count series + (e.process cache metrics batch).2.1.counted series := by
    intro series hnone
    rw [count_process, growth]
    simp [hnone, process]
  constructor
  case resources =>
    rw [process, EnrichSummary.resources_ofEnrichments, enrichAll, List.length_map]
  case outcomes => exact hbalanced.outcomes
  case agents => exact Nat.le_sub_of_add_le hbalanced.agents
  case enriched =>
    rw [process, EnrichSummary.enriched_ofEnrichments, enrichAll, List.countP_map]
    rfl
  case written =>
    rw [process, EnrichSummary.attributesWritten_ofEnrichments, enrichAll, List.map_map]
    rfl
  case failures =>
    have houtcomes := hbalanced.outcomes
    rw [hcount .resources fun _ => rfl, hcount .enriched fun _ => rfl, hcount .cacheMisses fun _ => rfl]
    simp only [EnrichSummary.counted]
    omega
  case attributes => exact hcount .attributesWritten fun _ => rfl
  case tagged => exact hcount .agentTagged fun _ => rfl

/-! ### Batches of a stream -/

theorem resources_processEach (metrics whole : Metrics) (batches : List (List ResourceLogs)) :
    ((e.processEach cache metrics batches).1.map Prod.fst).flatten = (e.process cache whole batches.flatten).1 := by
  induction batches generalizing metrics with
  | nil => rfl
  | cons batch rest ih =>
    rw [List.flatten_cons, (e.process_append cache whole metrics whole batch rest.flatten).1, ← ih]
    rfl

/-- The sums over batches go on from any sums. -/
theorem summary_processEach (metrics whole : Metrics) (s : EnrichSummary) (batches : List (List ResourceLogs)) :
    ((e.processEach cache metrics batches).1.map Prod.snd).foldl EnrichSummary.add s =
      s.add (e.process cache whole batches.flatten).2.1 := by
  induction batches generalizing metrics s with
  | nil => exact s.add_empty.symm
  | cons batch rest ih =>
    rw [List.flatten_cons, (e.process_append cache whole metrics whole batch rest.flatten).2, processEach,
      List.map_cons, List.foldl_cons, ih, EnrichSummary.add_assoc]

theorem count_processEach (metrics : Metrics) (batches : List (List ResourceLogs)) (series : Series) :
    (e.processEach cache metrics batches).2.count series =
      metrics.count series + e.growth cache batches.flatten series := by
  induction batches generalizing metrics with
  | nil => cases series <;> rfl
  | cons batch rest ih =>
    rw [processEach, ih, count_process, List.flatten_cons, growth_append, Nat.add_assoc]

/-- **Enrichment of batches adds up**, and its books balance. -/
theorem additive : e.Additive cache where
  resources_append metrics first second xs ys := (e.process_append cache metrics first second xs ys).1
  summary_append metrics first second xs ys := (e.process_append cache metrics first second xs ys).2
  books := e.books cache
  resources_flatten metrics batches := e.resources_processEach cache metrics metrics batches
  summary_flatten metrics batches := by
    rw [e.summary_processEach cache metrics metrics]
    -- Nothing is added to the empty summary.
    simp only [EnrichSummary.add, Nat.zero_add]
  count_flatten metrics batches series := by rw [count_processEach, count_process]

end Enricher

end LogTagger
