import LogTagger.Proofs.Docker.Discovery
import LogTagger.Proofs.Docker.Environment

/-!
# When the search for endpoints fails, and which addresses it finds

The search asks about the listed containers one after the other. A container that runs the agent is not
asked about, and one that is gone by then is passed over. Any other failure ends the search (`Stops`), so it
fails with the first of them in the order of the list. What it finds otherwise is described without it
(`Found`): the agents among the listed containers, and the addresses of the others whose details are known,
as their environments say them (`Addresses`).

**`searched`** puts these together for every daemon (`Searched`), with what the search does not depend on:
what would be answered about agents, and containers that are gone.
-/

namespace LogTagger

/-- The image of the container is one of the agent. -/
def ListedContainer.RunsAgent (c : ListedContainer) : Prop := "amazon/amazon-ecs-agent".toList <:+: c.image.toList

theorem ListedContainer.runsAgent_iff {c : ListedContainer} : c.RunsAgent ↔ c.isAgent = true := isAgent_iff.symm

/-- The addresses of a container. -/
def EndpointSet.addresses? (s : EndpointSet) (id : String) : Option (List String) :=
  (s.endpoints.get? id).map UrlList.toList

namespace DockerDaemon

variable {d : DockerDaemon} {found found' : EndpointSet} {c : ListedContainer} {containers : List ListedContainer}
  {cause : SourceError}

/-- The answer about a container ends the search. -/
structure Stops (d : DockerDaemon) (c : ListedContainer) (cause : SourceError) : Prop where
  /-- The container is asked about. -/
  other : ¬c.RunsAgent
  /-- The answer is a failure. -/
  answer : d.inspect c.id = .error cause
  /-- It is another one than that the container is gone. -/
  present : ∀ id, cause ≠ .containerNotFound id

/-- A container has addresses. -/
structure Offers (d : DockerDaemon) (c : ListedContainer) (urls : List String) : Prop where
  /-- The container is asked about. -/
  other : ¬c.RunsAgent
  /-- Its environment tells the addresses. -/
  answer : ∃ details, d.inspect c.id = .ok details ∧ Addresses details.env urls
  /-- There is at least one. -/
  some : urls ≠ []

/-- What a search that succeeds has found. -/
structure Found (d : DockerDaemon) (containers : List ListedContainer) (found : EndpointSet) : Prop where
  /-- The agents are the containers that run it. -/
  agents : ∀ id, found.isAgent id = true ↔ ∃ c ∈ containers, c.id = id ∧ c.RunsAgent
  /-- If no id is listed twice, exactly those containers have addresses whose environment tells some. -/
  addresses : (containers.map (·.id)).Nodup → ∀ id urls,
    found.addresses? id = some urls ↔ ∃ c ∈ containers, c.id = id ∧ d.Offers c urls
  /-- There is no empty list of addresses, and no address is blank or has blanks at its ends. -/
  trimmed : ∀ id urls, found.addresses? id = some urls → urls ≠ [] ∧
    ∀ url ∈ urls, Text.Trimmed url ∧ Text.allBlank url = false

/-- What the search for endpoints does. -/
structure Searched (d : DockerDaemon) : Prop where
  /-- Without a list it fails as the list does. -/
  unlisted : ∀ cause, d.listing = .error cause → d.endpoints = .error cause
  /-- With a list it fails exactly with the first answer that ends it. -/
  stopped : ∀ containers cause, d.listing = .ok containers → (d.endpoints = .error cause ↔
    ∃ earlier c later, containers = earlier ++ c :: later ∧ d.Stops c cause ∧ ∀ k ∈ earlier, ∀ other, ¬d.Stops k other)
  /-- If no answer ends it, it succeeds. -/
  found : ∀ containers, d.listing = .ok containers → (∀ c ∈ containers, ∀ cause, ¬d.Stops c cause) →
    ∃ found, d.endpoints = .ok found ∧ d.Found containers found
  /-- Nothing depends on what would be answered about a container that runs the agent or is not listed. -/
  unasked : ∀ other : DockerDaemon, other.listing = d.listing →
    (∀ containers, d.listing = .ok containers → ∀ c ∈ containers, ¬c.RunsAgent → other.inspect c.id = d.inspect c.id) →
      other.endpoints = d.endpoints
  /-- A container that is gone counts for as much as one that is not listed. -/
  gone : ∀ earlier c later id, d.listing = .ok (earlier ++ c :: later) → ¬c.RunsAgent →
    d.inspect c.id = .error (.containerNotFound id) →
      d.endpoints = { d with listing := .ok (earlier ++ later) }.endpoints

/-! ### Failures -/

theorem enter_eq_error_iff : d.enter found c = .error cause ↔ d.Stops c cause := by
  constructor
  · intro h
    rw [enter] at h
    split at h
    case isTrue => cases h
    case isFalse hother =>
      split at h
      case h_1 => cases h
      case h_2 => cases h
      case h_3 cause' hpresent hanswer =>
        cases h
        exact ⟨fun hagent => hother (ListedContainer.runsAgent_iff.mp hagent), hanswer, fun id heq => hpresent id heq⟩
  · rintro ⟨hother, hanswer, hpresent⟩
    rw [enter, if_neg (fun h => hother (ListedContainer.runsAgent_iff.mpr h)), hanswer]
    split
    case h_1 heq => cases heq
    case h_2 id heq =>
      cases heq
      exact absurd rfl (hpresent id)
    case h_3 heq =>
      cases heq
      rfl

/-- A container that is gone leaves no trace. -/
theorem enter_of_gone (hother : ¬c.RunsAgent) {id : String} (h : d.inspect c.id = .error (.containerNotFound id)) :
    d.enter found c = .ok found := by
  rw [enter, if_neg (fun hagent => hother (ListedContainer.runsAgent_iff.mpr hagent)), h]

/-- The search fails with the first failure that ends it, whatever has been found before. -/
theorem foldlM_enter_eq_error_iff : containers.foldlM d.enter found = .error cause ↔
    ∃ earlier c later, containers = earlier ++ c :: later ∧ d.Stops c cause ∧
      ∀ k ∈ earlier, ∀ other, ¬d.Stops k other := by
  induction containers generalizing found with
  | nil =>
    constructor
    · exact fun h => by cases h
    · rintro ⟨earlier, c, later, h, -⟩
      simp at h
  | cons c rest ih =>
    rw [List.foldlM_cons]
    cases hc : d.enter found c with
    | error first =>
      have hstops := enter_eq_error_iff.mp hc
      constructor
      · intro h
        cases h
        exact ⟨[], c, rest, rfl, hstops, fun k hk => by cases hk⟩
      · rintro ⟨earlier, k, later, hsplit, hk, hearlier⟩
        cases earlier with
        | nil =>
          cases hsplit
          have hsame := hstops.answer.symm.trans hk.answer
          cases hsame
          rfl
        | cons k' earlier =>
          cases hsplit
          exact absurd hstops (hearlier _ List.mem_cons_self _)
    | ok next =>
      have hpassed : ∀ other, ¬d.Stops c other := fun other hstops => by
        have herror : d.enter found c = .error other := enter_eq_error_iff.mpr hstops
        rw [hc] at herror
        cases herror
      change rest.foldlM d.enter next = .error cause ↔ _
      rw [ih]
      constructor
      · rintro ⟨earlier, k, later, rfl, hk, hearlier⟩
        exact ⟨c :: earlier, k, later, rfl, hk, List.forall_mem_cons.mpr ⟨hpassed, hearlier⟩⟩
      · rintro ⟨earlier, k, later, hsplit, hk, hearlier⟩
        cases earlier with
        | nil =>
          cases hsplit
          exact absurd hk (hpassed _)
        | cons k' earlier =>
          cases hsplit
          exact ⟨earlier, k, later, rfl, hk, fun k' hk' => hearlier k' (List.mem_cons_of_mem _ hk')⟩

/-! ### Addresses -/

theorem addresses?_insert (s : EndpointSet) (id id' : String) (urls : List String) :
    (s.insert id urls).addresses? id' = if id = id' ∧ urls ≠ [] then some urls else s.addresses? id' := by
  cases urls with
  | nil => simp [EndpointSet.insert, UrlList.ofList?]
  | cons url rest =>
    simp only [EndpointSet.insert, UrlList.ofList?, EndpointSet.addresses?, SortedMap.get?_insert]
    by_cases hid : id' = id
    · simp [hid, UrlList.toList]
    · simp [hid, Ne.symm hid]

/-- What a container offers that is neither an agent nor gone. -/
theorem offers_iff (hother : c.isAgent = false) {details : ContainerDetails} (hdetails : d.inspect c.id = .ok details)
    {urls : List String} : d.Offers c urls ↔ urls = metadataUrls details.env ∧ metadataUrls details.env ≠ [] := by
  constructor
  · rintro ⟨-, ⟨details', hdetails', haddresses⟩, hsome⟩
    cases hdetails.symm.trans hdetails'
    obtain rfl := addresses_iff.mp haddresses
    exact ⟨rfl, hsome⟩
  · rintro ⟨rfl, hsome⟩
    refine ⟨fun hagent => ?_, ⟨details, hdetails, addresses_iff.mpr rfl⟩, hsome⟩
    rw [ListedContainer.runsAgent_iff.mp hagent] at hother
    cases hother

/-- A container is given the addresses it offers, and every other one keeps its own. -/
theorem Entered.addresses?_iff (h : Entered d found c found') {id : String} {urls : List String} :
    found'.addresses? id = some urls ↔
      c.id = id ∧ d.Offers c urls ∨ (∀ urls, ¬(c.id = id ∧ d.Offers c urls)) ∧ found.addresses? id = some urls := by
  cases h with
  | agent hagent =>
    have hoffers : ∀ urls, ¬d.Offers c urls := fun urls h => h.other (ListedContainer.runsAgent_iff.mpr hagent)
    simp [hoffers, EndpointSet.addresses?, EndpointSet.insertAgent]
  | gone hother id' hgone =>
    have hoffers : ∀ urls, ¬d.Offers c urls := fun urls h => by
      obtain ⟨details, hdetails, -⟩ := h.answer
      rw [hgone] at hdetails
      cases hdetails
    simp [hoffers]
  | container hother details hdetails =>
    simp only [addresses?_insert, offers_iff hother hdetails]
    by_cases hgiven : c.id = id ∧ metadataUrls details.env ≠ []
    · simp [hgiven, eq_comm]
    · have hnone : ∀ urls, ¬(c.id = id ∧ urls = metadataUrls details.env ∧ metadataUrls details.env ≠ []) :=
        fun urls h => hgiven ⟨h.1, h.2.2⟩
      simp only [if_neg hgiven, hnone, false_or, not_false_eq_true, implies_true, true_and]

/-- The addresses that are found are those of listed containers. -/
theorem exists_offers_of_addresses? (h : containers.foldlM d.enter {} = .ok found) :
    ∀ id urls, found.addresses? id = some urls → ∃ c ∈ containers, c.id = id ∧ d.Offers c urls := by
  have hstart : ∀ id urls, ({} : EndpointSet).addresses? id = some urls → ∃ c ∈ ([] : List ListedContainer),
      c.id = id ∧ d.Offers c urls := fun id urls h => by cases h
  refine foldlM_enter_induction (P := fun containers found => ∀ id urls, found.addresses? id = some urls →
    ∃ c ∈ containers, c.id = id ∧ d.Offers c urls) ?_ hstart h
  intro containers found c found' hfound hc id urls hurls
  rcases hc.addresses?_iff.mp hurls with hnew | ⟨-, hold⟩
  · exact ⟨c, by simp, hnew⟩
  · obtain ⟨k, hk, hoffers⟩ := hfound id urls hold
    exact ⟨k, List.mem_append_left _ hk, hoffers⟩

/-- If no id is listed twice, all addresses that are offered are found. -/
theorem addresses?_of_offers (h : containers.foldlM d.enter {} = .ok found) (hids : (containers.map (·.id)).Nodup) :
    ∀ c ∈ containers, ∀ urls, d.Offers c urls → found.addresses? c.id = some urls := by
  have hstart : (([] : List ListedContainer).map (·.id)).Nodup → ∀ c ∈ ([] : List ListedContainer), ∀ urls,
      d.Offers c urls → ({} : EndpointSet).addresses? c.id = some urls := fun _ c hc => by cases hc
  refine foldlM_enter_induction (P := fun containers found => (containers.map (·.id)).Nodup →
    ∀ c ∈ containers, ∀ urls, d.Offers c urls → found.addresses? c.id = some urls) ?_ hstart h hids
  intro containers found c found' hfound hc hids k hk urls hoffers
  rw [List.map_append, List.nodup_append] at hids
  obtain ⟨hids, -, hnew⟩ := hids
  rcases List.mem_append.mp hk with hk | hk
  · -- the container is not the new one, whose id is another
    have hne : c.id ≠ k.id := (hnew _ (List.mem_map_of_mem hk) _ (by simp)).symm
    exact hc.addresses?_iff.mpr (.inr ⟨fun _ h => hne h.1, hfound hids k hk urls hoffers⟩)
  · obtain rfl := List.mem_singleton.mp hk
    exact hc.addresses?_iff.mpr (.inl ⟨rfl, hoffers⟩)

theorem found_of_endpoints (h : containers.foldlM d.enter {} = .ok found) : d.Found containers found where
  agents id := by
    have hfinds := (finds_nil.foldlM h).isAgent_iff id
    simpa only [List.nil_append, ListedContainer.runsAgent_iff] using hfinds
  addresses hids id urls := by
    constructor
    · exact exists_offers_of_addresses? h id urls
    · rintro ⟨c, hc, rfl, hoffers⟩
      exact addresses?_of_offers h hids c hc urls hoffers
  trimmed id urls hurls := by
    obtain ⟨c, hc, hid, hoffers⟩ := exists_offers_of_addresses? h id urls hurls
    obtain ⟨details, hdetails, haddresses⟩ := hoffers.answer
    exact ⟨hoffers.some, haddresses.trimmed⟩

/-! ### What the search does not depend on -/

theorem enter_congr {other : DockerDaemon} (h : ¬c.RunsAgent → other.inspect c.id = d.inspect c.id) :
    other.enter found c = d.enter found c := by
  rw [enter, enter]
  split
  case isTrue => rfl
  case isFalse hother => rw [h fun hagent => hother (ListedContainer.runsAgent_iff.mp hagent)]

theorem foldlM_enter_congr {other : DockerDaemon}
    (h : ∀ c ∈ containers, ¬c.RunsAgent → other.inspect c.id = d.inspect c.id) :
    containers.foldlM other.enter found = containers.foldlM d.enter found := by
  induction containers generalizing found with
  | nil => rfl
  | cons c rest ih =>
    obtain ⟨hc, hrest⟩ := List.forall_mem_cons.mp h
    rw [List.foldlM_cons, List.foldlM_cons, enter_congr hc]
    exact bind_congr fun next => ih hrest

theorem endpoints_of_listing (h : d.listing = .ok containers) : d.endpoints = containers.foldlM d.enter {} := by
  rw [endpoints, h]
  rfl

/-- **What the search does**, for every daemon. -/
theorem searched (d : DockerDaemon) : d.Searched where
  unlisted cause hlisting := by
    rw [endpoints, hlisting]
    rfl
  stopped containers cause hlisting := by
    rw [endpoints_of_listing hlisting]
    exact foldlM_enter_eq_error_iff
  found containers hlisting hpassed := by
    rw [endpoints_of_listing hlisting]
    cases hresult : containers.foldlM d.enter {} with
    | error cause =>
      obtain ⟨earlier, c, later, rfl, hstops, -⟩ := foldlM_enter_eq_error_iff.mp hresult
      exact absurd hstops (hpassed c (by simp) cause)
    | ok found => exact ⟨found, rfl, found_of_endpoints hresult⟩
  unasked other hlisting hinspect := by
    cases hcontainers : d.listing with
    | error cause =>
      rw [endpoints, endpoints, hlisting, hcontainers]
      rfl
    | ok containers =>
      rw [endpoints_of_listing hcontainers, endpoints_of_listing (hlisting.trans hcontainers)]
      exact foldlM_enter_congr (hinspect containers hcontainers)
  gone earlier c later id hlisting hother hgone := by
    have hshorter : { d with listing := .ok (earlier ++ later) }.endpoints = (earlier ++ later).foldlM d.enter {} :=
      endpoints_of_listing rfl
    rw [endpoints_of_listing hlisting, hshorter, List.foldlM_append, List.foldlM_append]
    refine bind_congr fun next => ?_
    rw [List.foldlM_cons, enter_of_gone hother hgone]
    rfl

end DockerDaemon

end LogTagger
