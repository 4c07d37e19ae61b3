import LogTagger.Enricher
import LogTagger.Proofs.Flatten.Agreement
import LogTagger.Proofs.Flatten.EcsPlaces
import LogTagger.Proofs.Flatten.FinalKeys

/-!
# The filter as a barrier

What a document holds under keys that the filter rejects is not to be seen in enriched resources, and
neither are values that were dropped. This would not be so if the key of one leaf depended on the value of
another. It depends on the other leaves only by their places: the final keys of a document
(`Flattener.finalKeys`) are those under which its values stand among the attributes
(`Flattener.keyed_of_sorted`), and they follow from the outline (`Flattener.finalKeys_congr`).

**`Enricher.sealed`**: documents with the same outline that agree in every leaf whose final key passes the
filter make no difference, in whatever mode they are flattened: not to the enriched resources, not to what
becomes of them, and not to the counts. So it is in particular when one document of a cache is replaced by
another (`Indistinct.withDocument`).
-/

namespace LogTagger

/-! ### Final keys -/

namespace Ecs

theorem keep_map_place (place : Place) (l : List (Json.Route × AttributeValue)) :
    Flattening.keep ((l.map Prod.fst).map place) (l.map Prod.snd) = placed place l := by
  rw [Flattening.keep, List.map_map, List.zip_map', List.filterMap_map]
  rfl

end Ecs

namespace Flattener

/-- The key of each leaf of a document among its attributes, in visiting order; a leaf that is dropped or passed
over has none, and neither has any leaf of a document that cannot be flattened. -/
def finalKeys (f : Flattener) (document : Json) : List (Option String) :=
  match f.mode with
  | .generic => Flattening.finalKeys f.naming document
  | .ecs =>
    document.routes.map (if (Ecs.Container.ofJson? document).isSome then Ecs.Container.place else fun _ => none)

/-- The attributes of a document are its leaves under their final keys. -/
def Keyed (f : Flattener) (document : Json) : Prop :=
  ∀ g, f.flatten document = .ok g →
    g.attributes.entries.Perm (Flattening.keep (f.finalKeys document) document.leafValues)

/-- **A document in order has its leaves under their final keys.** -/
theorem keyed_of_sorted (f : Flattener) {document : Json} (hsorted : document.Sorted) : f.Keyed document := by
  intro g h
  rw [flatten] at h
  rw [finalKeys]
  cases hmode : f.mode with
  | generic =>
    rw [hmode] at h
    obtain rfl := Except.ok.inj h
    exact Flattening.perm_ofDocument f.naming document
  | ecs =>
    rw [hmode, ecs] at h
    cases hread : Ecs.Container.ofJson? document with
    | none =>
      rw [hread] at h
      cases h
    | some container =>
      rw [hread] at h
      obtain rfl := Except.ok.inj h
      simp only [Option.isSome_some, if_true]
      have hentries := (Ecs.Container.reads.exact hsorted hread).symm
      rw [← Ecs.keep_map_place] at hentries
      exact (SortedMap.perm_ofList container.nodup_entries).trans hentries

/-- Documents with the same outline have the same final keys. -/
theorem finalKeys_congr (f : Flattener) {a b : Json} (h : a.outline = b.outline) : f.finalKeys a = f.finalKeys b := by
  have hroutes := Json.routes_eq_of_outline_eq h
  rw [finalKeys, finalKeys, Flattening.finalKeys, Flattening.finalKeys, hroutes, Ecs.Container.isSome_ofJson?_congr h]

/-- Of documents with the same outline both are flattened, with the same counts, or none is. -/
theorem flatten_congr (f : Flattener) {a b : Json} (h : a.outline = b.outline) :
    (∃ cause, f.flatten a = .error cause ∧ f.flatten b = .error cause) ∨
      ∃ g g', f.flatten a = .ok g ∧ f.flatten b = .ok g' ∧ g.renamed = g'.renamed ∧ g.dropped = g'.dropped := by
  rw [flatten, flatten]
  cases f.mode with
  | generic =>
    have halike := Flattening.Alike.ofDocument f.naming (Json.routes_eq_of_outline_eq h)
    exact .inr ⟨_, _, rfl, rfl, halike.renamed, halike.dropped⟩
  | ecs =>
    have hread := Ecs.Container.isSome_ofJson?_congr h
    rw [ecs, ecs]
    cases ha : Ecs.Container.ofJson? a <;> cases hb : Ecs.Container.ofJson? b
    case none.none => exact .inl ⟨_, rfl, rfl⟩
    case some.some => exact .inr ⟨_, _, rfl, rfl, rfl, rfl⟩
    all_goals
      rw [ha, hb] at hread
      cases hread

end Flattener

/-! ### What passes the filter -/

namespace Enricher

variable {L : PatternLanguage}

/-- The filter tells two documents apart by nothing but leaves that it keeps back. -/
structure Indistinct (e : Enricher L) (a b : Json) : Prop where
  /-- Both are in order, as documents that were read are. -/
  sorted : a.Sorted ∧ b.Sorted
  /-- They have the same names, nulls, lengths, nesting and kinds of scalars. -/
  outline : a.outline = b.outline
  /-- They have the same value in every leaf whose final key passes. -/
  agree : ∀ (i : Nat) (k : String), (e.flattener.finalKeys a)[i]? = some (some k) → e.filter.allows k = true →
    a.leafValues[i]? = b.leafValues[i]?

/-- The caches have the same agents, and for each container indistinct documents or none. -/
structure IndistinctCaches (e : Enricher L) (a b : DocumentCache) : Prop where
  agents : ∀ id, a.isAgent id = b.isAgent id
  documents : ∀ id, Option.Rel e.Indistinct (a.get? id) (b.get? id)

/-- The cache with another document of a container. -/
def withDocument (cache : DocumentCache) (id : String) (document : Json) : DocumentCache :=
  { cache with documents := cache.documents.insert id document }

variable {e : Enricher L} {a b : Json}

theorem Indistinct.refl (h : a.Sorted) : e.Indistinct a a := ⟨⟨h, h⟩, rfl, fun _ _ _ _ => rfl⟩

/-- Caches with the one or the other of two indistinct documents are indistinct. -/
theorem Indistinct.withDocument (h : e.Indistinct a b) {cache : DocumentCache}
    (hcache : ∀ id v, cache.get? id = some v → v.Sorted) (id : String) :
    e.IndistinctCaches (withDocument cache id a) (withDocument cache id b) where
  agents _ := rfl
  documents other := by
    have hget : ∀ v : Json, (Enricher.withDocument cache id v).get? other =
        if other = id then some v else cache.get? other := SortedMap.get?_insert _ _ _
    rw [hget, hget]
    split
    · exact .some h
    · cases hother : cache.get? other with
      | none => exact .none
      | some v => exact .some (.refl (hcache other v hother))

theorem filter_keep_congr (p : String → Bool) {keys : List (Option String)} {v w : List AttributeValue}
    (hlength : v.length = w.length)
    (h : ∀ (i : Nat) (k : String), keys[i]? = some (some k) → p k = true → v[i]? = w[i]?) :
    (Flattening.keep keys v).filter (fun a => p a.1) = (Flattening.keep keys w).filter (fun a => p a.1) := by
  induction keys generalizing v w with
  | nil => rfl
  | cons key keys ih =>
    match v, w with
    | [], [] => rfl
    | x :: v, y :: w =>
      have hrest := ih (Nat.succ.inj hlength) fun i k hk hp => h (i + 1) k hk hp
      rw [Flattening.keep_cons, Flattening.keep_cons, List.filter_append, List.filter_append, hrest]
      cases key with
      | none => rfl
      | some k =>
        by_cases hp : p k = true
        · obtain rfl : x = y := Option.some.inj (h 0 k rfl hp)
          rfl
        · simp [hp]

/-- The attributes that pass are the same. -/
theorem Indistinct.allowed_eq (h : e.Indistinct a b) {g g' : Flattening} (hg : e.flattener.flatten a = .ok g)
    (hg' : e.flattener.flatten b = .ok g') : e.allowed g.attributes = e.allowed g'.attributes := by
  have hlength : a.leafValues.length = b.leafValues.length := by
    have hroutes := congrArg List.length (Json.routes_eq_of_outline_eq h.outline)
    rw [Json.routes, Json.routes, List.length_map, List.length_map] at hroutes
    rw [Json.leafValues, Json.leafValues, List.length_map, List.length_map, hroutes]
  have ha := (e.flattener.keyed_of_sorted h.sorted.1 g hg).filter fun x => e.filter.allows x.1
  have hb := (e.flattener.keyed_of_sorted h.sorted.2 g' hg').filter fun x => e.filter.allows x.1
  rw [filter_keep_congr e.filter.allows hlength h.agree, e.flattener.finalKeys_congr h.outline] at ha
  exact SortedMap.eq_of_perm (g.attributes.sorted.filter _) (g'.attributes.sorted.filter _) (ha.trans hb.symm)

/-- Nothing but what passes the filter is to be seen in what is made with two caches. -/
structure Sealed (e : Enricher L) (a b : DocumentCache) : Prop where
  /-- The documents of one container have their leaves under the same keys. -/
  keys : ∀ id v w, a.get? id = some v → b.get? id = some w →
    e.flattener.finalKeys v = e.flattener.finalKeys w ∧ e.flattener.Keyed v ∧ e.flattener.Keyed w
  /-- A resource is enriched in the same way, with the same outcome and the same counts. -/
  resource : ∀ r, e.enrich a r = e.enrich b r
  /-- So is a batch, with the same sums and the same metrics. -/
  batch : ∀ metrics batch, e.process a metrics batch = e.process b metrics batch

theorem enrich_congr {a b : DocumentCache} (h : e.IndistinctCaches a b) (r : Resource) :
    e.enrich a r = e.enrich b r := by
  rw [enrich, enrich]
  cases ContainerId.ofResource? r e.sources with
  | none => rfl
  | some id =>
    simp only [h.agents]
    have hdocuments := h.documents id.text
    generalize a.get? id.text = v at hdocuments
    generalize b.get? id.text = w at hdocuments
    cases hdocuments with
    | none => rfl
    | some hdocument =>
      obtain ⟨cause, hv, hw⟩ | ⟨g, g', hv, hw, hrenamed, hdropped⟩ :=
        e.flattener.flatten_congr hdocument.outline
      · simp only [hv, hw]
      · simp only [hv, hw, hdocument.allowed_eq hv hw, hrenamed, hdropped]

/-- **The filter is a barrier**: documents that are indistinct to it make no difference. -/
theorem sealed (e : Enricher L) {a b : DocumentCache} (h : e.IndistinctCaches a b) : e.Sealed a b where
  keys id v w hv hw := by
    have hdocuments := h.documents id
    rw [hv, hw] at hdocuments
    cases hdocuments with
    | some hdocument =>
      exact ⟨e.flattener.finalKeys_congr hdocument.outline, e.flattener.keyed_of_sorted hdocument.sorted.1,
        e.flattener.keyed_of_sorted hdocument.sorted.2⟩
  resource := enrich_congr h
  batch metrics batch := by
    have henrich : e.enrich a = e.enrich b := funext (enrich_congr h)
    have hlogs : e.enrichLogs a = e.enrichLogs b := by
      funext logs
      rw [enrichLogs, enrichLogs, henrich]
    rw [process, process, enrichAll, enrichAll, henrich, hlogs]

/-- An enricher that writes the image. -/
def imageOnly : Enricher (regularExpressions id) where
  sources := ["container.id"]
  filter := ⟨(Pattern.Regex.ofPattern? "^image$").toList⟩
  flattener := {}

/-- A document with a secret in three fields whose names collide. -/
def secretive (secret : String) : Json :=
  .object [("Image", .string "nginx"), ("Secret.Key", .string secret), ("SecretKey", .string secret),
    ("secret.key", .string secret)]

/-- A cache with that document. -/
def secretiveCache (secret : String) : DocumentCache := withDocument {} "abc" (secretive secret)

/-- The secret has one key that is rejected, another in place of that, and none the third time. -/
theorem sealed_of_secret : imageOnly.IndistinctCaches (secretiveCache "one") (secretiveCache "two") ∧
    (secretiveCache "one").get? "abc" ≠ (secretiveCache "two").get? "abc" ∧
    imageOnly.Sealed (secretiveCache "one") (secretiveCache "two") := by
  have hnames : ["Image", "Secret.Key", "SecretKey", "secret.key"].Pairwise (· < ·) := by decide +kernel
  have hsorted : ∀ secret, (secretive secret).Sorted := fun secret =>
    .object (List.pairwise_map (f := Prod.fst) |>.mp hnames) (by simp [Json.Sorted.string])
  have hkeys : imageOnly.flattener.finalKeys (secretive "one") =
      [some "image", some "secret.key", some "SecretKey", none] := by decide +kernel
  have hdocuments : imageOnly.Indistinct (secretive "one") (secretive "two") := by
    refine ⟨⟨hsorted _, hsorted _⟩, rfl, fun i k hkey hallowed => ?_⟩
    rw [hkeys] at hkey
    match i with
    | 0 => rfl
    | 1 =>
      obtain rfl : "secret.key" = k := Option.some.inj (Option.some.inj hkey)
      exact absurd hallowed (by decide +kernel)
    | 2 =>
      obtain rfl : "SecretKey" = k := Option.some.inj (Option.some.inj hkey)
      exact absurd hallowed (by decide +kernel)
    | 3 => cases hkey
    | _ + 4 => cases hkey
  have hcaches : imageOnly.IndistinctCaches (secretiveCache "one") (secretiveCache "two") :=
    hdocuments.withDocument (fun _ _ hnone => by cases hnone) "abc"
  refine ⟨hcaches, ?_, imageOnly.sealed hcaches⟩
  rw [DocumentCache.get?, DocumentCache.get?, secretiveCache, secretiveCache, withDocument, withDocument,
    SortedMap.get?_insert_self, SortedMap.get?_insert_self]
  simp [secretive]

end Enricher

end LogTagger
