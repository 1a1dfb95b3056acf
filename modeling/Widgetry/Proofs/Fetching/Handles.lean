import Mathlib.Data.List.Perm.Subperm
import Widgetry.Proofs.Fetching.Coalescing
import Widgetry.Proofs.Fetching.Outcomes

/-!
# Handles number the loads that have succeeded

Callers load URLs through one cache in any order, fetches are answered well or badly at any time,
and callers give up. The observer's notes say which loads have succeeded, in the order of their
answers (`History.successes`). The main theorem, `handles_number_successes`, says that these and the
handles of the cache are the same thing counted twice: the handle of the first success is number 0,
that of the next one number 1, and there are no others.

The observer's notes agree with the cache after every event (`IsConsistent`), and every event keeps
the resources of the cache numbered in order. Everything about handles follows from that.
-/

namespace Widgetry

/-! ## Entries stay -/

namespace Cache

variable {cache : Cache} {url other : String}

/-- A URL whose entry was changed is there, and so is every URL that was. -/
theorem contains_set (entry : Entry) :
    (cache.set url entry).contains other = true ↔ other = url ∨ cache.contains other = true := by
  unfold contains set Table.contains
  rw [Table.get?_insert]
  by_cases hother : other = url <;> simp [hother]

/-- A URL that is settled is there, and so is every URL that was. -/
theorem contains_settle (answer : Except FetchError Fetched) :
    (cache.settle url answer).contains other = true ↔
      other = url ∨ cache.contains other = true := by
  rw [← contains_set (.settled (cache.judge url answer))]
  unfold settle
  cases cache.judge url answer <;> exact Iff.rfl

/-- A client that leaves takes no entry away. -/
theorem contains_release (client : Client) (h : cache.contains other = true) :
    (cache.release client url).contains other = true := by
  unfold release
  split
  · exact (contains_set _).mpr (.inr h)
  · exact h

/-- A URL with an outcome is there. -/
theorem contains_of_outcome {outcome : Loaded} (h : cache.outcome? url = some outcome) :
    cache.contains url = true := by
  rw [outcome?_eq_some] at h
  unfold entry at h
  unfold contains Table.contains
  cases hget : Table.get? url cache.entries with
  | some entry => rfl
  | none =>
      rw [hget] at h
      cases h

/-- A URL is loaded if its outcome is a resource. -/
theorem loaded?_eq_some {resource : Resource} :
    cache.loaded? url = some resource ↔ cache.outcome? url = some (.ok resource) := by
  unfold loaded?
  rcases cache.outcome? url with _ | _ | found <;> simp

/-- There are at most as many handles as entries: each handle belongs to another URL. -/
theorem handle_count_le_size (hnumbered : cache.IsNumbered) : cache.handleCount ≤ cache.size := by
  have hsources : cache.resources.map Resource.source ⊆ cache.entries.map Prod.fst := by
    intro url hurl
    obtain ⟨resource, hloaded⟩ := (mem_sources_iff hnumbered).mp hurl
    exact Table.contains_iff_mem.mp (contains_of_outcome hloaded)
  have hlength := ((nodup_sources hnumbered).subperm hsources).length_le
  rw [List.length_map, List.length_map] at hlength
  exact hlength

end Cache

/-- A poll takes no entry away. -/
theorem Session.Polled.contains {transport : Transport} {client : Client} {url other : String}
    {s s' : Session} (hpolled : s.Polled transport client url s')
    (h : s.cache.contains other = true) : s'.cache.contains other = true := by
  cases hpolled with
  | settled outcome _ heq => rwa [heq]
  | deferred line _ _ _ heq =>
      rw [heq]
      exact (Cache.contains_set _).mpr (.inr h)
  | joined owner line _ _ heq =>
      rw [heq]
      exact (Cache.contains_set _).mpr (.inr h)
  | waiting due line _ _ heq => rwa [heq]
  | answered rounds answer round line _ _ _ heq =>
      rw [heq, Session.cache_settle]
      exact (Cache.contains_settle answer).mpr (.inr h)
  | issued line paid _ hpaid _ heq =>
      rw [heq]
      refine (Cache.contains_set _).mpr (.inr ?_)
      rwa [(Session.paid_eq hpaid).1]
  | issuedAnswered line paid answer _ hpaid _ heq =>
      rw [heq, Session.cache_settle]
      refine (Cache.contains_settle answer).mpr (.inr ((Cache.contains_set _).mpr (.inr ?_)))
      rwa [(Session.paid_eq hpaid).1]

namespace History

variable {h : History} {url : String}

/-! ## What one event does -/

/-- Every event keeps the resources numbered. -/
theorem is_numbered_observe (hnumbered : h.session.cache.IsNumbered) (event : Event) :
    (h.observe event).session.cache.IsNumbered := by
  cases event with
  | poll transport client url =>
      rw [observe, session_observe_poll]
      rcases (Session.poll_polled transport client url h.session).holds_or_gains with
        hholds | ⟨rounds, answer, _, hgains⟩
      · exact hnumbered.of_holds hholds
      · exact hnumbered.of_gains hgains
  | abandon client url => exact hnumbered.of_holds (Cache.holds_release client url)
  | pass round => exact hnumbered

/-- An event takes no entry away. -/
theorem contains_observe (hurl : h.session.cache.contains url = true) (event : Event) :
    (h.observe event).session.cache.contains url = true := by
  cases event with
  | poll transport client place =>
      rw [observe, session_observe_poll]
      exact (Session.poll_polled transport client place h.session).contains hurl
  | abandon client place => exact Cache.contains_release client hurl
  | pass round => exact hurl

/-- No run takes an entry away. -/
theorem contains_run (hurl : h.session.cache.contains url = true) (events : List Event) :
    (h.run events).session.cache.contains url = true := by
  induction events generalizing h with
  | nil => exact hurl
  | cons event events ih => exact ih (contains_observe hurl event)

/-! ## What a run keeps -/

/-- The observer's notes fit the cache, and the resources of the cache are numbered in order. -/
structure IsRecorded (h : History) : Prop extends h.IsConsistent where
  numbered : h.session.cache.IsNumbered

/-- Every run keeps what is recorded. -/
theorem is_recorded_run (hrecorded : h.IsRecorded) (events : List Event) :
    (h.run events).IsRecorded := by
  induction events generalizing h with
  | nil => exact hrecorded
  | cons event events ih =>
      exact ih ⟨is_consistent_observe hrecorded.toIsConsistent event,
        is_numbered_observe hrecorded.numbered event⟩

/-- Nothing has succeeded in a fresh cache. -/
theorem is_recorded_empty : History.empty.IsRecorded :=
  ⟨is_consistent_empty, Cache.is_numbered_empty⟩

/-- The answers that were noted are the outcomes of the cache. -/
theorem answered_iff (hconsistent : h.IsConsistent) {outcome : Loaded} :
    (url, outcome) ∈ h.answered ↔ h.session.cache.outcome? url = some outcome := by
  constructor
  · intro hanswered
    exact Cache.outcome?_eq_some.mpr (settled_of_answered hconsistent hanswered)
  · intro houtcome
    rw [Cache.outcome?_eq_some] at houtcome
    have hphase := hconsistent.phase url
    rw [houtcome] at hphase
    exact (hphase.1 outcome).mpr rfl

/-! ## Handles and successes -/

/-- The handles of a cache number the loads that have succeeded: there is a handle for each of
these, in their order, and for nothing else. -/
structure HandlesNumberSuccesses (h : History) : Prop where
  /-- No URL succeeds twice. -/
  distinct : (h.successes.map Prod.fst).Nodup
  /-- The URLs that have succeeded are those that are loaded. -/
  loaded : ∀ url resource,
    (url, resource) ∈ h.successes ↔ h.session.cache.loaded? url = some resource
  /-- The success in the place `n` has the handle number `n`. -/
  numbered : ∀ n url resource, h.successes[n]? = some (url, resource) →
    resource.source = url ∧ resource.handleUrl = Resource.handleText n
  /-- There are no other handles. -/
  live : ∀ handle, (∃ resource, h.session.cache.resolveHandle handle = some resource) ↔
    ∃ n < h.successes.length, handle = Resource.handleText n
  /-- There are as many handles as successes. -/
  count : h.session.cache.handleCount = h.successes.length
  /-- A handle leads to the resource that bears it. -/
  resolved : ∀ handle resource, h.session.cache.resolveHandle handle = some resource ↔
    (∃ url, (url, resource) ∈ h.successes) ∧ resource.handleUrl = handle
  /-- The bytes behind a handle are those of the resource. -/
  blob : ∀ handle resource, h.session.cache.resolveHandle handle = some resource →
    h.session.cache.blob handle = some resource.bytes
  /-- Two URLs do not share a handle. -/
  unshared : ∀ url other resource otherResource, (url, resource) ∈ h.successes →
    (other, otherResource) ∈ h.successes → url ≠ other →
    resource.handleUrl ≠ otherResource.handleUrl
  /-- A load that was not answered well, be it failed or given up, owns no handle. -/
  unowned : ∀ url, (∀ resource, (url, .ok resource) ∉ h.answered) → ∀ handle resource,
    h.session.cache.resolveHandle handle = some resource → resource.source ≠ url
  /-- There are no more handles than entries. -/
  bounded : h.session.cache.handleCount ≤ h.session.cache.size

variable {n : Nat} {resource : Resource}

/-- The success in a place has the number of the place. -/
theorem IsRecorded.of_place (hrecorded : h.IsRecorded)
    (hplace : h.successes[n]? = some (url, resource)) :
    resource.source = url ∧ resource.handle = n := by
  have hresource : h.session.cache.resources[n]? = some resource := by
    rw [hrecorded.resources, List.getElem?_map, hplace]
    rfl
  have houtcome : h.session.cache.outcome? url = some (.ok resource) :=
    (answered_iff hrecorded.toIsConsistent).mp (mem_successes.mp (List.mem_of_getElem? hplace))
  exact ⟨(hrecorded.numbered.stored url resource houtcome).1,
    (hrecorded.numbered.handle n resource hresource).1⟩

/-- No URL succeeds twice. -/
theorem IsRecorded.nodup_successes (hrecorded : h.IsRecorded) :
    (h.successes.map Prod.fst).Nodup := by
  have hsources : h.successes.map Prod.fst = h.session.cache.resources.map Resource.source := by
    rw [hrecorded.resources, List.map_map]
    refine List.map_congr_left fun success hsuccess => ?_
    obtain ⟨n, hplace⟩ := List.mem_iff_getElem?.mp hsuccess
    exact (hrecorded.of_place hplace).1.symm
  rw [hsources]
  exact Cache.nodup_sources hrecorded.numbered

/-- A handle leads to the resource that bears it, if its load has succeeded. -/
theorem IsRecorded.resolve_handle_iff (hrecorded : h.IsRecorded)
    {handle : String} :
    h.session.cache.resolveHandle handle = some resource ↔
      (∃ url, (url, resource) ∈ h.successes) ∧ resource.handleUrl = handle := by
  constructor
  · intro hresolve
    have hmem : resource ∈ h.session.cache.resources := List.mem_of_find?_eq_some hresolve
    rw [hrecorded.resources] at hmem
    obtain ⟨⟨url, found⟩, hsuccess, rfl⟩ := List.mem_map.mp hmem
    exact ⟨⟨url, hsuccess⟩, by simpa using List.find?_some hresolve⟩
  · intro hsuccess
    obtain ⟨⟨url, hsuccess⟩, rfl⟩ := hsuccess
    have houtcome := (answered_iff hrecorded.toIsConsistent).mp (mem_successes.mp hsuccess)
    exact Cache.resolve_handle_of_loaded hrecorded.numbered houtcome

/-- Consistent notes and numbered resources give all that is said of handles. -/
theorem IsRecorded.numbers_successes (hrecorded : h.IsRecorded) : h.HandlesNumberSuccesses where
  distinct := hrecorded.nodup_successes
  loaded := by
    intro url resource
    rw [mem_successes, answered_iff hrecorded.toIsConsistent, Cache.loaded?_eq_some]
  numbered := by
    intro n url resource hplace
    obtain ⟨hsource, hhandle⟩ := hrecorded.of_place hplace
    exact ⟨hsource, congrArg Resource.handleText hhandle⟩
  live := by
    intro handle
    constructor
    · intro hlive
      obtain ⟨resource, hresolve⟩ := hlive
      obtain ⟨⟨url, hsuccess⟩, rfl⟩ := (hrecorded.resolve_handle_iff).mp hresolve
      obtain ⟨n, hplace⟩ := List.mem_iff_getElem?.mp hsuccess
      refine ⟨n, (List.getElem?_eq_some_iff.mp hplace).1, ?_⟩
      exact congrArg Resource.handleText (hrecorded.of_place hplace).2
    · intro hnumber
      obtain ⟨n, hn, rfl⟩ := hnumber
      have hplace := List.getElem?_eq_getElem hn
      refine ⟨h.successes[n].2,
        (hrecorded.resolve_handle_iff).mpr ⟨⟨h.successes[n].1, ?_⟩, ?_⟩⟩
      · exact List.mem_of_getElem? hplace
      · exact congrArg Resource.handleText (hrecorded.of_place hplace).2
  count := by
    show h.session.cache.resources.length = _
    rw [hrecorded.resources, List.length_map]
  resolved := fun handle resource => hrecorded.resolve_handle_iff
  blob := by
    intro handle resource hresolve
    unfold Cache.blob
    rw [hresolve]
    rfl
  unshared := by
    intro url other resource otherResource hsuccess hother hne heq
    obtain ⟨n, hplace⟩ := List.mem_iff_getElem?.mp hsuccess
    obtain ⟨m, hother⟩ := List.mem_iff_getElem?.mp hother
    -- A handle tells a place among the successes, and a place has one URL.
    have hhandle := handle_text_injective heq
    rw [(hrecorded.of_place hplace).2, (hrecorded.of_place hother).2]
      at hhandle
    rw [hhandle, hother] at hplace
    cases hplace
    exact hne rfl
  unowned := by
    intro url hnone handle resource hresolve hsource
    obtain ⟨⟨owner, hsuccess⟩, _⟩ := (hrecorded.resolve_handle_iff).mp hresolve
    obtain ⟨n, hplace⟩ := List.mem_iff_getElem?.mp hsuccess
    have howner := (hrecorded.of_place hplace).1
    rw [hsource] at howner
    exact hnone resource (howner ▸ mem_successes.mp hsuccess)
  bounded := Cache.handle_count_le_size hrecorded.numbered

/-- **Handles number the loads that have succeeded.** This holds after any run on a fresh cache.
Whatever happens later, every entry stays, and a URL that has succeeded keeps its one handle. -/
theorem handles_number_successes (events : List Event) :
    let h := History.empty.run events
    h.HandlesNumberSuccesses ∧ ∀ more : List Event,
      let later := (h.run more).session.cache
      (∀ url, h.session.cache.contains url = true → later.contains url = true) ∧
        ∀ url resource, (url, resource) ∈ h.successes →
          later.resolveHandle resource.handleUrl = some resource ∧
          ∀ handle other, later.resolveHandle handle = some other → other.source = url →
            other = resource ∧ handle = resource.handleUrl := by
  intro h
  have hrecorded : h.IsRecorded := is_recorded_run is_recorded_empty events
  refine ⟨hrecorded.numbers_successes, fun more => ⟨?_, ?_⟩⟩
  · intro url hurl
    exact contains_run hurl more
  · intro url resource hsuccess
    have hrecorded' := is_recorded_run hrecorded more
    have houtcome : (h.run more).session.cache.outcome? url = some (.ok resource) := by
      have hsettled := settled_of_answered hrecorded.toIsConsistent (mem_successes.mp hsuccess)
      exact Cache.outcome?_eq_some.mpr (settled_run hsettled more).1
    refine ⟨Cache.resolve_handle_of_loaded hrecorded'.numbered houtcome, ?_⟩
    intro handle other hresolve hsource
    obtain ⟨⟨owner, hother⟩, rfl⟩ := (hrecorded'.resolve_handle_iff).mp hresolve
    have howner := (answered_iff hrecorded'.toIsConsistent).mp (mem_successes.mp hother)
    -- The later resource comes from the same URL, which has one outcome.
    rw [← (hrecorded'.numbered.stored owner other howner).1, hsource, houtcome] at howner
    cases howner
    exact ⟨rfl, rfl⟩

end History

end Widgetry
