import LogTagger.Enricher
import LogTagger.Proofs.SortedMap

/-!
# All that enriching a resource does, and all that it leaves alone

A resource is marked if it comes from an agent, whatever becomes of it then. If its document is cached and can be
flattened, those flattened attributes are written over what stood there whose keys pass the filter, each as the text of
its value. Nothing else changes: not the other attributes, not the records and not the order of a batch.

**`Enricher.framing`** says this of every enricher, every cache, every resource and every batch. What an enriched
resource holds under a key follows from `get?_setTexts`, since no key of a flattened document stands there twice.
-/

namespace LogTagger

/-! ### Writing attributes -/

namespace Resource

theorem get?_setText (r : Resource) (key value key' : String) :
    (r.setText key value).attributes.get? key' =
      if key' = key then some (.string value) else r.attributes.get? key' :=
  SortedMap.get?_insert _ _ _ _

/-- Attributes with distinct keys are all written, as texts, and those under other keys stay. -/
theorem get?_setTexts {attributes : List (String × AttributeValue)} (h : (attributes.map Prod.fst).Nodup)
    (r : Resource) (key : String) :
    (r.setTexts attributes).attributes.get? key =
      ((SortedMap.lookup key attributes).map fun v => .string v.text).or (r.attributes.get? key) := by
  induction attributes generalizing r with
  | nil => rfl
  | cons e rest ih =>
    obtain ⟨k, v⟩ := e
    rw [List.map_cons, List.nodup_cons] at h
    change ((r.setText k v.text).setTexts rest).attributes.get? key = _
    rw [ih h.2, get?_setText, SortedMap.lookup]
    by_cases hkey : key = k
    · -- The key does not come again, so what is written now stays.
      rw [hkey, SortedMap.lookup_eq_none_of_not_mem h.1, if_pos rfl, if_pos rfl]
      rfl
    · rw [if_neg hkey, if_neg hkey]

end Resource

namespace Enricher

variable {L : PatternLanguage}

/-- A resource before and after it was marked, if it comes from an agent, and flattened attributes were written to
it. -/
structure Writes (e : Enricher L) (agent : Bool) (flattened : Attributes) (before after : Resource) : Prop where
  /-- It holds the attributes that pass the filter, as texts. -/
  written : ∀ key v, flattened.get? key = some v → e.filter.allows key = true →
    after.attributes.get? key = some (.string v.text)
  /-- It holds the mark of an agent, unless an attribute that passes the filter takes its place. -/
  marked : agent = true → (e.filter.allows agentAttribute = true → flattened.get? agentAttribute = none) →
    after.attributes.get? agentAttribute = some (.string "true")
  /-- Under any other key it holds what it held before, or nothing if it held nothing. -/
  kept : ∀ key, (key = agentAttribute → agent = false) → (e.filter.allows key = true → flattened.get? key = none) →
    after.attributes.get? key = before.attributes.get? key

/-- All that becomes of one resource. -/
structure Framed (e : Enricher L) (cache : DocumentCache) (r : Resource) : Prop where
  /-- Without a container id nothing does. -/
  unidentified : ContainerId.ofResource? r e.sources = none →
    (e.enrich cache r).outcome = .unidentified ∧ (e.enrich cache r).resource = r ∧ (e.enrich cache r).agent = false
  /-- With one, the agents decide whether it counts as one of theirs. -/
  agent : ∀ id, ContainerId.ofResource? r e.sources = some id → (e.enrich cache r).agent = cache.isAgent id.text
  /-- Without a document it is marked at most. -/
  cacheMiss : ∀ id, ContainerId.ofResource? r e.sources = some id → cache.get? id.text = none →
    (e.enrich cache r).outcome = .cacheMiss ∧ e.Writes (cache.isAgent id.text) ∅ r (e.enrich cache r).resource
  /-- So it is with one that cannot be flattened. -/
  flattenFailed : ∀ id document cause, ContainerId.ofResource? r e.sources = some id →
    cache.get? id.text = some document → e.flattener.flatten document = .error cause →
      (e.enrich cache r).outcome = .flattenFailed ∧ e.Writes (cache.isAgent id.text) ∅ r (e.enrich cache r).resource
  /-- With any other, the flattened attributes are written that pass the filter, and counted. -/
  enriched : ∀ id document f, ContainerId.ofResource? r e.sources = some id → cache.get? id.text = some document →
    e.flattener.flatten document = .ok f →
      (e.enrich cache r).outcome = .enriched (f.attributes.keys.countP e.filter.allows) ∧
        e.Writes (cache.isAgent id.text) f.attributes r (e.enrich cache r).resource
  /-- A resource that is enriched by itself becomes the same; the attributes written are told if it was enriched. -/
  alone : ∀ metrics, (e.enrichResource cache metrics r).1 = (e.enrich cache r).resource ∧
    ∀ n, (e.enrichResource cache metrics r).2.1 = some n ↔ (e.enrich cache r).outcome = .enriched n

/-- All that an enricher does to resources and to batches. -/
structure Framing (e : Enricher L) (cache : DocumentCache) : Prop where
  /-- To a resource. -/
  resource : ∀ r, e.Framed cache r
  /-- The resources of a batch are enriched one by one, in their order. -/
  batchResources : ∀ metrics batch, (e.process cache metrics batch).1.map (·.resource) =
    batch.map fun logs => (e.enrich cache logs.resource).resource
  /-- The records of a batch stay as they are. -/
  batchRecords : ∀ metrics batch, (e.process cache metrics batch).1.map (·.records) = batch.map (·.records)

variable (e : Enricher L) (cache : DocumentCache)

theorem get?_tag (agent : Bool) (r : Resource) (key : String) :
    (tag agent r).attributes.get? key =
      if key = agentAttribute ∧ agent = true then some (.string "true") else r.attributes.get? key := by
  cases agent with
  | false => simp [tag]
  | true => simpa [tag] using r.get?_setText agentAttribute "true" key

theorem get?_allowed (attributes : Attributes) (key : String) :
    SortedMap.lookup key (e.allowed attributes) = (attributes.get? key).filter fun _ => e.filter.allows key :=
  SortedMap.get?_filter (fun key _ => e.filter.allows key) attributes key

theorem length_allowed (attributes : Attributes) :
    (e.allowed attributes).length = attributes.keys.countP e.filter.allows := by
  rw [allowed, SortedMap.keys, List.countP_map, List.countP_eq_length_filter]
  rfl

/-- What is written to a marked resource. -/
theorem writes_setTexts (agent : Bool) (flattened : Attributes) (r : Resource) :
    e.Writes agent flattened r ((tag agent r).setTexts (e.allowed flattened)) := by
  have hdistinct : ((e.allowed flattened).map Prod.fst).Nodup :=
    SortedMap.nodup_of_pairwise (flattened.sorted.filter _)
  have hget := Resource.get?_setTexts hdistinct (tag agent r)
  -- A key that is not written is looked up in the marked resource.
  have hother : ∀ key, (e.filter.allows key = true → flattened.get? key = none) →
      ((tag agent r).setTexts (e.allowed flattened)).attributes.get? key = (tag agent r).attributes.get? key := by
    intro key hkey
    rw [hget, get?_allowed]
    cases hpass : e.filter.allows key with
    | false => cases flattened.get? key <;> rfl
    | true => rw [hkey hpass]; rfl
  constructor
  case written =>
    intro key v hv hpass
    rw [hget, get?_allowed, hv, hpass]
    rfl
  case marked =>
    intro hagent hfree
    rw [hother _ hfree, get?_tag, if_pos ⟨rfl, hagent⟩]
  case kept =>
    intro key hunmarked hfree
    rw [hother _ hfree, get?_tag, if_neg fun h => by simp [hunmarked h.1] at h]

/-- To mark a resource is to write nothing else to it. -/
theorem writes_tag (agent : Bool) (r : Resource) : e.Writes agent ∅ r (tag agent r) :=
  e.writes_setTexts agent ∅ r

theorem framed (r : Resource) : e.Framed cache r where
  unidentified hid := by simp only [enrich, hid, and_self]
  agent id hid := by
    simp only [enrich, hid]
    split
    · rfl
    · split <;> rfl
  cacheMiss id hid hnone := by
    simp only [enrich, hid, hnone, true_and]
    exact e.writes_tag _ r
  flattenFailed id document cause hid hdocument hcause := by
    simp only [enrich, hid, hdocument, hcause, true_and]
    exact e.writes_tag _ r
  enriched id document f hid hdocument hf := by
    simp only [enrich, hid, hdocument, hf, length_allowed, true_and]
    exact e.writes_setTexts _ f.attributes r
  alone metrics := by
    refine ⟨rfl, fun n => ?_⟩
    rw [enrichResource]
    cases (e.enrich cache r).outcome <;> simp [Outcome.written?]

/-- **All that an enricher does**, to every resource and every batch. -/
theorem framing : e.Framing cache where
  resource := e.framed cache
  batchResources _ _ := List.map_map
  batchRecords _ _ := List.map_map

end Enricher

end LogTagger
