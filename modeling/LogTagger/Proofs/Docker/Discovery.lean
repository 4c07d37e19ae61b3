import LogTagger.Docker.Container
import LogTagger.Proofs.SortedMap
import Mathlib.Data.List.Nodup

/-!
# What the search for endpoints finds

The search goes through the containers that the daemon lists, and enters each in the set of what has
been found. `entered_of_enter` says all that may become of one container. From it follows by induction
on the list what the whole search finds (`Finds`): an id is an agent exactly if it is listed with the
image of one, and only an id that is listed with another image has addresses. So when no id is listed
twice, no agent has an address (`Finds.not_contains_of_isAgent`), although the set of addresses and that
of the agents are filled apart.
-/

namespace LogTagger

/-! ### Images -/

theorem occursWithin_iff {part l : List Char} : occursWithin part l = true ↔ part <:+: l := by
  induction l with
  | nil => rw [occursWithin, List.isEmpty_iff, List.infix_nil]
  | cons c rest ih => rw [occursWithin, Bool.or_eq_true, List.isPrefixOf_iff_prefix, ih, List.infix_cons_iff]

/-- An agent is known by its image. -/
theorem ListedContainer.isAgent_iff {c : ListedContainer} :
    c.isAgent = true ↔ agentImage.toList <:+: c.image.toList := occursWithin_iff

/-! ### Sets of endpoints -/

namespace EndpointSet

theorem isAgent_insertAgent_iff {s : EndpointSet} {id id' : String} :
    (s.insertAgent id).isAgent id' = true ↔ s.isAgent id' = true ∨ id = id' := by
  rw [isAgent, insertAgent, SortedMap.contains_insert_iff, or_comm, @eq_comm _ id']
  rfl

@[simp] theorem contains_insertAgent (s : EndpointSet) (id id' : String) :
    (s.insertAgent id).contains id' = s.contains id' := rfl

@[simp] theorem isAgent_insert (s : EndpointSet) (id id' : String) (urls : List String) :
    (s.insert id urls).isAgent id' = s.isAgent id' := by
  rw [insert]
  split <;> rfl

theorem contains_insert_iff {s : EndpointSet} {id id' : String} {urls : List String} :
    (s.insert id urls).contains id' = true ↔ s.contains id' = true ∨ id = id' ∧ accepts urls = true := by
  cases urls with
  | nil => simp [insert, UrlList.ofList?, accepts]
  | cons url rest =>
    simp only [insert, UrlList.ofList?, contains, SortedMap.contains_insert_iff]
    rw [or_comm, @eq_comm _ id']
    simp [accepts]

end EndpointSet

namespace DockerDaemon

variable {d : DockerDaemon} {found found' : EndpointSet} {c : ListedContainer} {containers : List ListedContainer}

/-! ### One container -/

/-- What has been found once a container has been looked at without a failure. -/
inductive Entered (d : DockerDaemon) (found : EndpointSet) (c : ListedContainer) : EndpointSet → Prop
  /-- It is an agent, about which nothing is asked. -/
  | agent (isAgent : c.isAgent = true) : Entered d found c (found.insertAgent c.id)
  /-- It is another container, whose details tell its addresses. -/
  | container (isAgent : c.isAgent = false) (details : ContainerDetails) (answer : d.inspect c.id = .ok details) :
      Entered d found c (found.insert c.id (metadataUrls details.env))
  /-- It is another container, and gone. -/
  | gone (isAgent : c.isAgent = false) (id : String) (answer : d.inspect c.id = .error (.containerNotFound id)) :
      Entered d found c found

/-- **All that may become of one container.** -/
theorem entered_of_enter (h : d.enter found c = .ok found') : Entered d found c found' := by
  rw [enter] at h
  split at h
  case isTrue hagent =>
    cases h
    exact .agent hagent
  case isFalse hagent =>
    rw [Bool.not_eq_true] at hagent
    split at h
    case h_1 details hanswer =>
      cases h
      exact .container hagent details hanswer
    case h_2 id hanswer =>
      cases h
      exact .gone hagent id hanswer
    case h_3 => cases h

/-! ### All containers -/

/-- What has been found of some containers. -/
structure Finds (containers : List ListedContainer) (found : EndpointSet) : Prop where
  /-- The agents are those with the image of one. -/
  isAgent_iff : ∀ id, found.isAgent id = true ↔ ∃ c ∈ containers, c.id = id ∧ c.isAgent = true
  /-- Only containers with another image have addresses. -/
  of_contains : ∀ id, found.contains id = true → ∃ c ∈ containers, c.id = id ∧ c.isAgent = false

theorem finds_nil : Finds [] {} where
  isAgent_iff id := by simp [EndpointSet.isAgent]
  of_contains id h := by simp [EndpointSet.contains] at h

theorem Finds.concat (h : Finds containers found) (hc : Entered d found c found') :
    Finds (containers ++ [c]) found' := by
  have hagents : ∀ id, found'.isAgent id = true ↔ found.isAgent id = true ∨ c.id = id ∧ c.isAgent = true := by
    intro id
    cases hc with
    | agent isAgent => simp [EndpointSet.isAgent_insertAgent_iff, isAgent]
    | container isAgent details answer => simp [isAgent]
    | gone isAgent => simp [isAgent]
  have hcontains : ∀ id, found'.contains id = true → found.contains id = true ∨ c.id = id ∧ c.isAgent = false := by
    intro id hid
    cases hc with
    | agent isAgent => exact .inl hid
    | container isAgent details answer =>
      exact (EndpointSet.contains_insert_iff.mp hid).imp_right fun hnew => ⟨hnew.1, isAgent⟩
    | gone isAgent => exact .inl hid
  constructor
  case isAgent_iff =>
    intro id
    rw [hagents, h.isAgent_iff]
    simp [or_and_right, exists_or]
  case of_contains =>
    intro id hid
    rcases hcontains id hid with hid | hid
    · obtain ⟨k, hk, hknown⟩ := h.of_contains id hid
      exact ⟨k, List.mem_append_left _ hk, hknown⟩
    · exact ⟨c, by simp, hid⟩

/-- What every container that is entered keeps, all of them keep. -/
theorem foldlM_enter_induction {P : List ListedContainer → EndpointSet → Prop}
    (hconcat : ∀ containers found c found', P containers found → Entered d found c found' →
      P (containers ++ [c]) found')
    (h : P containers found) {rest : List ListedContainer} (hrest : rest.foldlM d.enter found = .ok found') :
    P (containers ++ rest) found' := by
  induction rest generalizing containers found with
  | nil =>
    cases hrest
    rwa [List.append_nil]
  | cons c rest ih =>
    rw [List.foldlM_cons] at hrest
    cases hc : d.enter found c with
    | error cause =>
      rw [hc] at hrest
      cases hrest
    | ok next =>
      rw [hc] at hrest
      rw [← List.singleton_append, ← List.append_assoc]
      exact ih (hconcat _ _ _ _ h (entered_of_enter hc)) hrest

theorem Finds.foldlM (h : Finds containers found) {rest : List ListedContainer}
    (hrest : rest.foldlM d.enter found = .ok found') : Finds (containers ++ rest) found' :=
  foldlM_enter_induction (fun _ _ _ _ hfinds hc => hfinds.concat hc) h hrest

/-- **What the search finds**, if it succeeds. -/
theorem finds_of_endpoints (h : d.endpoints = .ok found) : ∃ containers, d.listing = .ok containers ∧
    Finds containers found := by
  rw [endpoints] at h
  cases hlisting : d.listing with
  | error cause =>
    rw [hlisting] at h
    cases h
  | ok containers =>
    rw [hlisting] at h
    exact ⟨containers, rfl, finds_nil.foldlM h⟩

/-- When no id is listed twice, no agent has an address. -/
theorem Finds.not_contains_of_isAgent (h : Finds containers found) (hids : (containers.map (·.id)).Nodup) {id : String}
    (hid : found.isAgent id = true) : found.contains id = false := by
  obtain ⟨c, hc, rfl, hagent⟩ := (h.isAgent_iff _).mp hid
  by_contra hcontains
  rw [Bool.not_eq_false] at hcontains
  obtain ⟨k, hk, hid', hother⟩ := h.of_contains _ hcontains
  have hsame : k = c := List.inj_on_of_nodup_map hids hk hc hid'
  rw [hsame, hagent] at hother
  cases hother

end DockerDaemon

end LogTagger
