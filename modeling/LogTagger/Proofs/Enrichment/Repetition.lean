import LogTagger.Config.Settings
import LogTagger.Proofs.ContainerId
import LogTagger.Proofs.Enrichment.Frame
import Mathlib

/-!
# Enriching once more

An enriched resource may come back, for instance where two daemons follow each other. To enrich it once more
changes nothing as long as the first time did not write to the attributes in which the container id is sought: then
the id is the same, and with it all that is written (`Enricher.enrich_eq_of_ofResource?_eq`), and what is written
takes the place of itself. That the mark of an agent may be written over by an attribute of the same name does no
harm, since both are written again in the same order.

**`Enricher.idempotent`** says this of every enricher and every cache, and that the usual settings never write to the
attributes in which they seek the id: none of these passes the usual filter, whatever the document holds.
-/

namespace LogTagger

namespace Enricher

variable {L : PatternLanguage} (e : Enricher L) (cache : DocumentCache)

/-! ### What is read and what is written -/

/-- The flattened attributes of the cached document of a container; none if it is missing or cannot be
flattened. -/
def flattenedOf (id : String) : Attributes :=
  match cache.get? id with
  | none => ∅
  | some document =>
    match e.flattener.flatten document with
    | .error _ => ∅
    | .ok f => f.attributes

/-- The keys that the enrichment of a resource writes: that of the mark if it comes from an agent, and those of the
flattened document that pass the filter. -/
def writtenKeys (r : Resource) : List String :=
  match ContainerId.ofResource? r e.sources with
  | none => []
  | some id =>
    (if cache.isAgent id.text then [agentAttribute] else []) ++
      (e.flattenedOf cache id.text).keys.filter e.filter.allows

/-- To enrich the resource once more changes nothing, and the same is told of it. -/
def Settles (r : Resource) : Prop := e.enrich cache (e.enrich cache r).resource = e.enrich cache r

variable {e cache} {r s : Resource} {id : ContainerId}

theorem resource_enrich (hid : ContainerId.ofResource? r e.sources = some id) :
    (e.enrich cache r).resource =
      (tag (cache.isAgent id.text) r).setTexts (e.allowed (e.flattenedOf cache id.text)) := by
  simp only [enrich, hid, flattenedOf]
  cases cache.get? id.text with
  | none => rfl
  | some document =>
    dsimp only
    cases e.flattener.flatten document <;> rfl

/-- Under a key that is not written stays what stood there. -/
theorem get?_enrich_of_not_mem {key : String} (h : key ∉ e.writtenKeys cache r) :
    (e.enrich cache r).resource.attributes.get? key = r.attributes.get? key := by
  cases hid : ContainerId.ofResource? r e.sources with
  | none => rw [(e.framed cache r).unidentified hid |>.2.1]
  | some id =>
    rw [writtenKeys, hid, List.mem_append, not_or] at h
    obtain ⟨hmark, hflattened⟩ := h
    rw [resource_enrich hid]
    refine (e.writes_setTexts _ _ r).kept key ?_ ?_
    · rintro rfl
      cases hagent : cache.isAgent id.text with
      | false => rfl
      | true => exact absurd (by simp [hagent]) hmark
    · intro hallowed
      rw [← SortedMap.contains_eq_false_iff, ← Bool.not_eq_true, ← SortedMap.mem_keys_iff]
      exact fun hmem => hflattened (List.mem_filter.mpr ⟨hmem, hallowed⟩)

/-- But for the resource itself, what becomes of a resource depends on its id alone. -/
theorem enrich_eq_of_ofResource?_eq (h : ContainerId.ofResource? s e.sources = ContainerId.ofResource? r e.sources) :
    e.enrich cache s = { e.enrich cache r with resource := (e.enrich cache s).resource } := by
  simp only [enrich, h]
  split
  · rfl
  · split
    · rfl
    · split <;> rfl

/-! ### The second time -/

/-- What has been written to a marked resource takes the place of itself. -/
theorem setTexts_tag_setTexts (agent : Bool) {attributes : List (String × AttributeValue)}
    (h : (attributes.map Prod.fst).Nodup) (r : Resource) :
    (tag agent ((tag agent r).setTexts attributes)).setTexts attributes = (tag agent r).setTexts attributes := by
  suffices hget : ∀ key, ((tag agent ((tag agent r).setTexts attributes)).setTexts attributes).attributes.get? key =
      ((tag agent r).setTexts attributes).attributes.get? key by
    exact congrArg Resource.mk (SortedMap.ext_get? hget)
  intro key
  rw [Resource.get?_setTexts h, get?_tag, Resource.get?_setTexts h, get?_tag]
  cases SortedMap.lookup key attributes with
  | some v => rfl
  | none =>
    -- Nothing but the mark may be written there, and it was written the first time.
    by_cases hmark : key = agentAttribute ∧ agent = true
    · rw [if_pos hmark, if_pos hmark]
    · rw [if_neg hmark, if_neg hmark]
      rfl

theorem settles_of_not_mem (h : ∀ source ∈ e.sources, source ∉ e.writtenKeys cache r) : e.Settles cache r := by
  have hid : ContainerId.ofResource? (e.enrich cache r).resource e.sources = ContainerId.ofResource? r e.sources :=
    ContainerId.ofResource?_congr fun source hsource => get?_enrich_of_not_mem (h source hsource)
  have hresource : (e.enrich cache (e.enrich cache r).resource).resource = (e.enrich cache r).resource := by
    cases hr : ContainerId.ofResource? r e.sources with
    | none => rw [(e.framed cache r).unidentified hr |>.2.1, (e.framed cache r).unidentified hr |>.2.1]
    | some id =>
      rw [resource_enrich (hid.trans hr), resource_enrich hr]
      exact setTexts_tag_setTexts _ (SortedMap.nodup_of_pairwise ((e.flattenedOf cache id.text).sorted.filter _)) r
  rw [Settles, enrich_eq_of_ofResource?_eq hid, hresource]

end Enricher

/-! ### The usual settings -/

namespace AttributeFilter

open Pattern

/-- The expression of the usual pattern: some beginnings, each with anything after it up to the end of the line. -/
def usualExpression : Regex :=
  let character : Regex := .set ⟨[⟨0, 9⟩, ⟨11, Text.lastPoint⟩]⟩
  let anything : Regex := .repeated character 0 none true
  .seq [.assertion .textStart, .alt
    [.seq [.literal ['a', 'w', 's'], character, .literal ['e', 'c', 's'], anything],
      .seq [.literal ['i', 'm', 'a', 'g', 'e'], anything],
      .seq [.literal ['d', 'o', 'c', 'k', 'e', 'r'], anything],
      .seq [.literal ['l', 'a', 'b', 'e', 'l', 's'], anything]]]

variable (reason : String → String)

/-- The usual filter. -/
def usual : AttributeFilter (regularExpressions reason) := ⟨[usualExpression]⟩

theorem compile_defaultPatterns : compile (regularExpressions reason) defaultPatterns = .ok (usual reason) := by
  have hread : Regex.ofPattern? "^aws.ecs.*|^image.*|^docker.*|^labels.*" = some usualExpression := by cbv
  have hcompile : (regularExpressions reason).compilePattern "^aws.ecs.*|^image.*|^docker.*|^labels.*" =
      .ok usualExpression := by
    simp only [PatternLanguage.compilePattern, regularExpressions, hread]
  rw [compile, defaultPatterns, List.mapM_cons, hcompile]
  rfl

/-- The attributes in which a container id is usually sought do not pass. -/
theorem usual_rejects : ∀ source ∈ defaultSources, (usual reason).allows source = false := by
  have hid : (usual reason).allows "container.id" = false := by cbv
  have hname : (usual reason).allows "log.file.name" = false := by cbv
  intro source hsource
  rw [defaultSources, List.mem_cons, List.mem_singleton] at hsource
  rcases hsource with rfl | rfl
  · exact hid
  · exact hname

end AttributeFilter

namespace Enricher

section Usual

variable (reason : String → String)

/-- An enricher with the usual settings, however it flattens documents. -/
def usual (flattener : Flattener) : Enricher (regularExpressions reason) where
  sources := defaultSources
  filter := .usual reason
  flattener := flattener

/-- It is what the usual sources and patterns give, if the metadata source is set as it may be. -/
theorem ofSettings_usual (flattener : Flattener) (metadata : SourceSettings) :
    ofSettings { flatten := flattener, metadata } =
      (metadata.check.mapError TaggingError.source).map fun _ => usual reason flattener := by
  have hblank : defaultSources.findIdx? Text.allBlank = none := by decide
  have hsources : TaggingSettings.sourceFault? { flatten := flattener, metadata } = none := by
    rw [TaggingSettings.sourceFault?, hblank]
    rfl
  have hfilter : TaggingSettings.filter (regularExpressions reason) { flatten := flattener, metadata } =
      .ok (.usual reason) := AttributeFilter.compile_defaultPatterns reason
  rw [ofSettings, TaggingSettings.check, hsources, hfilter]
  cases metadata.check <;> rfl

/-- With the usual settings nothing is written to the attributes in which the id is sought. -/
theorem not_mem_writtenKeys_usual (flattener : Flattener) (cache : DocumentCache) (r : Resource) :
    ∀ source ∈ defaultSources, source ∉ (usual reason flattener).writtenKeys cache r := by
  intro source hsource hwritten
  rw [writtenKeys] at hwritten
  split at hwritten
  case h_1 => cases hwritten
  case h_2 id _ =>
    rcases List.mem_append.mp hwritten with hmark | hflattened
    · -- The mark of an agent has another name than all of them.
      have hname : agentAttribute ∉ defaultSources := by decide
      split at hmark
      · exact hname (List.mem_singleton.mp hmark ▸ hsource)
      · cases hmark
    · have hallowed := (List.mem_filter.mp hflattened).2
      rw [show (usual reason flattener).filter = .usual reason from rfl,
        AttributeFilter.usual_rejects reason source hsource] at hallowed
      cases hallowed

end Usual

/-- **Enrichment is idempotent** where it does not write to the attributes in which the id is sought. With the usual
sources and patterns it never does, whatever the documents hold. -/
theorem idempotent :
    (∀ (L : PatternLanguage) (e : Enricher L) (cache : DocumentCache) (r : Resource),
      (∀ source ∈ e.sources, source ∉ e.writtenKeys cache r) → e.Settles cache r) ∧
    (∀ (reason : String → String) (flattener : Flattener) (metadata : SourceSettings),
      ofSettings { flatten := flattener, metadata } =
        (metadata.check.mapError TaggingError.source).map fun _ => usual reason flattener) ∧
    ∀ (reason : String → String) (flattener : Flattener) (cache : DocumentCache) (r : Resource),
      (usual reason flattener).Settles cache r :=
  ⟨fun _ _ _ _ => settles_of_not_mem, ofSettings_usual,
    fun reason flattener cache r => settles_of_not_mem (not_mem_writtenKeys_usual reason flattener cache r)⟩

/-- An enricher that lets every attribute pass. -/
def unfiltered : Enricher (regularExpressions id) where
  sources := ["container.id"]
  filter := .allowAll
  flattener := {}

/-- A cache with an agent whose document has a field of the name of the mark. -/
def selfMarkedCache : DocumentCache where
  documents := .insert ∅ "abc" (.object [("EcsAgent", .string "no"), ("Image", .string "nginx")])
  agents := .insert ∅ "abc" ()

/-- A resource of that agent, which holds another image. -/
def agentResource : Resource where
  attributes := .ofList [("container.id", .string "abc-json.log"), ("image", .string "redis")]

/-- The mark is written over and the image replaced, both times. -/
theorem settles_selfMarked :
    (∀ source ∈ unfiltered.sources, source ∉ unfiltered.writtenKeys selfMarkedCache agentResource) ∧
    (unfiltered.enrich selfMarkedCache agentResource).outcome = .enriched 2 ∧
    (unfiltered.enrich selfMarkedCache agentResource).resource.attributes.get? agentAttribute = some (.string "no") ∧
    unfiltered.Settles selfMarkedCache agentResource := by
  have hwritten : unfiltered.writtenKeys selfMarkedCache agentResource = ["ecs.agent", "ecs.agent", "image"] := by
    decide +kernel
  have hsources : ∀ source ∈ unfiltered.sources, source ∉ unfiltered.writtenKeys selfMarkedCache agentResource := by
    rw [hwritten]
    decide
  exact ⟨hsources, by decide +kernel, by decide +kernel,
    idempotent.1 (regularExpressions id) unfiltered selfMarkedCache agentResource hsources⟩

end Enricher

end LogTagger
