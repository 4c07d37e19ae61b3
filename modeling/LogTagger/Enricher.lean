import LogTagger.AttributeFilter
import LogTagger.Cache.Basic
import LogTagger.Config.Validation
import LogTagger.ContainerId
import LogTagger.Metrics

/-!
# Enrichment

A resource is enriched with the attributes of the document of its container. The container is known
by the id in the resource; if it is an agent the resource is marked as such. Of the flattened
document those attributes are written whose keys pass the filter, as strings.

`Enricher.enrich` treats one resource and says what became of it. `Enricher.process` treats a batch
and adds up the outcomes.
-/

namespace LogTagger

/-- How to enrich resources. -/
structure Enricher (L : PatternLanguage) where
  /-- The attributes in which a container id is sought, in order. -/
  sources : List String
  /-- The filter of the attributes that are written. -/
  filter : AttributeFilter L
  /-- How documents are flattened. -/
  flattener : Flattener

/-- What became of a resource. -/
inductive Outcome where
  /-- It has no container id. -/
  | unidentified
  /-- The document of its container is not cached. -/
  | cacheMiss
  /-- The document of its container cannot be flattened. -/
  | flattenFailed
  /-- So many attributes were written. -/
  | enriched (written : Nat)
  deriving DecidableEq

/-- An enriched resource with what became of it. -/
structure Enrichment where
  /-- The resource. -/
  resource : Resource
  /-- Whether it comes from an agent. -/
  agent : Bool
  /-- What became of it. -/
  outcome : Outcome
  /-- The number of values of its document that were renamed and of those that were dropped. -/
  collisions : Nat × Nat
  deriving DecidableEq

/-- The sums over a batch. -/
structure EnrichSummary where
  /-- The resources. -/
  resources : Nat := 0
  /-- Those that were enriched. -/
  enriched : Nat := 0
  /-- Those without a container id. -/
  unidentified : Nat := 0
  /-- Those whose document is not cached. -/
  cacheMisses : Nat := 0
  /-- Those whose document cannot be flattened. -/
  flattenFailures : Nat := 0
  /-- Those of agents. -/
  agents : Nat := 0
  /-- The attributes that were written. -/
  attributesWritten : Nat := 0
  deriving DecidableEq

/-- The attribute that marks the resources of agents. -/
def agentAttribute : String := "ecs.agent"

/-- The resource with one attribute set to a string. -/
def Resource.setText (r : Resource) (key value : String) : Resource :=
  { r with attributes := r.attributes.insert key (.string value) }

/-- The resource with attributes set as strings. -/
def Resource.setTexts (r : Resource) (attributes : List (String × AttributeValue)) : Resource :=
  attributes.foldl (fun r e => r.setText e.1 e.2.text) r

namespace Outcome

/-- The number of attributes written, if the resource was enriched. -/
def written? : Outcome → Option Nat
  | .enriched written => some written
  | _ => none

end Outcome

namespace EnrichSummary

/-- The summary of one resource. -/
def ofEnrichment (e : Enrichment) : EnrichSummary :=
  let one : EnrichSummary := { resources := 1, agents := if e.agent then 1 else 0 }
  match e.outcome with
  | .unidentified => { one with unidentified := 1 }
  | .cacheMiss => { one with cacheMisses := 1 }
  | .flattenFailed => { one with flattenFailures := 1 }
  | .enriched written => { one with enriched := 1, attributesWritten := written }

/-- The sums of two summaries. -/
def add (s t : EnrichSummary) : EnrichSummary :=
  { resources := s.resources + t.resources, enriched := s.enriched + t.enriched,
    unidentified := s.unidentified + t.unidentified, cacheMisses := s.cacheMisses + t.cacheMisses,
    flattenFailures := s.flattenFailures + t.flattenFailures, agents := s.agents + t.agents,
    attributesWritten := s.attributesWritten + t.attributesWritten }

/-- The sums over enriched resources. -/
def ofEnrichments (l : List Enrichment) : EnrichSummary := l.foldl (fun s e => s.add (ofEnrichment e)) {}

end EnrichSummary

namespace Metrics

/-- Counts colliding keys, if there are any. -/
def countCollisions (m : Metrics) (collisions : Nat × Nat) : Metrics :=
  if collisions = (0, 0) then m
  else (m.add (.keyCollisions true) collisions.1).add (.keyCollisions false) collisions.2

/-- Counts a batch. -/
def countBatch (m : Metrics) (s : EnrichSummary) : Metrics :=
  ((((m.add .resources s.resources).add .enriched s.enriched).add .cacheMisses (s.cacheMisses + s.unidentified)).add
    .attributesWritten s.attributesWritten).add .agentTagged s.agents

end Metrics

namespace Enricher

variable {L : PatternLanguage}

/-- The enricher with some settings, if they are allowed. -/
def ofSettings (s : TaggingSettings) : Except TaggingError (Enricher L) := do
  s.check L
  let filter ← s.filter L
  return { sources := s.containerIdSources, filter, flattener := s.flatten }

/-- The attributes of a flattened document that pass the filter. -/
def allowed (e : Enricher L) (attributes : Attributes) : List (String × AttributeValue) :=
  attributes.entries.filter (fun a => e.filter.allows a.1)

/-- The resource with a mark if it comes from an agent. -/
def tag (agent : Bool) (r : Resource) : Resource := if agent then r.setText agentAttribute "true" else r

/-- Enriches a resource from the cached documents. -/
def enrich (e : Enricher L) (cache : DocumentCache) (r : Resource) : Enrichment :=
  match ContainerId.ofResource? r e.sources with
  | none => { resource := r, agent := false, outcome := .unidentified, collisions := (0, 0) }
  | some id =>
    let agent := cache.isAgent id.text
    let tagged := tag agent r
    match cache.get? id.text with
    | none => { resource := tagged, agent, outcome := .cacheMiss, collisions := (0, 0) }
    | some document =>
      match e.flattener.flatten document with
      | .error _ => { resource := tagged, agent, outcome := .flattenFailed, collisions := (0, 0) }
      | .ok f =>
        let written := e.allowed f.attributes
        { resource := tagged.setTexts written, agent, outcome := .enriched written.length,
          collisions := (f.renamed, f.dropped) }

/-- A resource enriched, with the number of attributes written if there was a document for it. -/
def enrichResource (e : Enricher L) (cache : DocumentCache) (metrics : Metrics) (r : Resource) :
    Resource × Option Nat × Metrics :=
  let done := e.enrich cache r
  (done.resource, done.outcome.written?, metrics.countCollisions done.collisions)

/-- The records of a resource with the resource enriched. -/
def enrichLogs (e : Enricher L) (cache : DocumentCache) (b : ResourceLogs) : ResourceLogs :=
  { b with resource := (e.enrich cache b.resource).resource }

/-- The outcomes of a batch, in order. -/
def enrichAll (e : Enricher L) (cache : DocumentCache) (batch : List ResourceLogs) : List Enrichment :=
  batch.map (fun b => e.enrich cache b.resource)

/-- A batch with its resources enriched, and the sums over it. -/
def process (e : Enricher L) (cache : DocumentCache) (metrics : Metrics) (batch : List ResourceLogs) :
    List ResourceLogs × EnrichSummary × Metrics :=
  let done := e.enrichAll cache batch
  let summary := EnrichSummary.ofEnrichments done
  (batch.map (e.enrichLogs cache), summary,
    ((done.foldl (fun m d => m.countCollisions d.collisions) metrics).countBatch summary))

end Enricher

end LogTagger
