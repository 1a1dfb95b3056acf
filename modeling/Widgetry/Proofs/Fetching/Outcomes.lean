import Widgetry.Proofs.Fetching.Polling
import Widgetry.Proofs.Numerals

/-!
# Sessions over fixed outcomes

If the fetch of every URL has an outcome of its own, whenever it is answered, then what a cache
holds of a URL is determined by that outcome up to the number of the handle. `Session.IsCoherent`
says so, and that handles number the resources; every poll keeps it (`IsCoherent.polled`), and so
does giving up loads.
-/

namespace Widgetry

/-- How the fetch of every URL ends. -/
abbrev Outcomes := String → Except FetchError Fetched

namespace Outcomes

/-- The transport that answers every fetch with its outcome, after a delay of its own. -/
def after (outcomes : Outcomes) (delays : String → Nat) : Transport :=
  fun url => .after (delays url) (outcomes url)

/-- A load of a URL may end so. The number of the handle is left open. -/
def Gives (outcomes : Outcomes) (url : String) : Loaded → Prop
  | .ok resource =>
      ∃ fetched, outcomes url = .ok fetched ∧ resource.source = url ∧
        resource.kind = ContentKind.detect url fetched.type ∧ resource.bytes = fetched.bytes
  | .error e => ∃ cause, outcomes url = .error cause ∧ e = .fetch url cause.message

end Outcomes

/-- Different resources of a cache have different local URLs. -/
theorem handle_text_injective {m n : Nat} (h : Resource.handleText m = Resource.handleText n) :
    m = n := by
  unfold Resource.handleText at h
  exact decimal_injective (by simpa using h)

namespace Cache

variable {cache cache' : Cache} {url : String} {answer : Except FetchError Fetched}

/-! ## What changes in a cache -/

/-- Another cache holds the same resources and outcomes. -/
def Holds (cache cache' : Cache) : Prop :=
  cache'.resources = cache.resources ∧ ∀ url, cache'.outcome? url = cache.outcome? url

/-- Another cache has one more outcome, that of a URL whose fetch was answered. -/
structure Gains (url : String) (answer : Except FetchError Fetched) (cache cache' : Cache) :
    Prop where
  before : cache.outcome? url = none
  resources : cache'.resources = cache.resources ++ (cache.judge url answer).toOption.toList
  outcome : ∀ other, cache'.outcome? other =
    if other = url then some (cache.judge url answer) else cache.outcome? other

/-- Changing an entry that is not settled to another that is not changes no outcome. -/
theorem holds_set {entry : Entry} (hbefore : cache.outcome? url = none)
    (hafter : ∀ outcome, entry ≠ .settled outcome) : cache.Holds (cache.set url entry) := by
  refine ⟨rfl, fun other => ?_⟩
  unfold outcome? at hbefore ⊢
  rw [entry_set]
  by_cases hurl : other = url
  · subst hurl
    rw [if_pos rfl, hbefore]
    cases entry with
    | settled outcome => exact (hafter outcome rfl).elim
    | idle | reserved owner line | fetching owner due line => rfl
  · rw [if_neg hurl]

/-- Entries determine outcomes. -/
theorem outcome?_congr {other : String} (h : cache'.entry other = cache.entry url) :
    cache'.outcome? other = cache.outcome? url := by
  unfold outcome?
  rw [h]

/-- Settling a URL adds its outcome. -/
theorem gains_settle (hbefore : cache.outcome? url = none) :
    cache.Gains url answer (cache.settle url answer) := by
  refine ⟨hbefore, resources_settle cache url answer, fun other => ?_⟩
  by_cases hurl : other = url
  · subst hurl
    rw [if_pos rfl, outcome?_eq_some, entry_settle_self]
  · rw [if_neg hurl]
    exact outcome?_congr (by rw [entry_settle, if_neg hurl])

/-- Settling a URL adds its outcome, also if an entry was changed before. -/
theorem Holds.gains (hholds : cache.Holds cache') {cache'' : Cache}
    (hgains : cache'.Gains url answer cache'') : cache.Gains url answer cache'' := by
  have hjudge := judge_congr hholds.1 url answer
  refine ⟨?_, ?_, fun other => ?_⟩
  · rw [← hholds.2, hgains.before]
  · rw [hgains.resources, hholds.1, hjudge]
  · rw [hgains.outcome, hjudge, hholds.2]

/-- A client that leaves changes no outcome. -/
theorem holds_release (client : Client) (url : String) :
    cache.Holds (cache.release client url) := by
  refine ⟨resources_release cache client url, fun other => ?_⟩
  unfold outcome?
  rw [entry_release]
  by_cases hurl : other = url
  · subst hurl
    rw [if_pos rfl]
    cases cache.entry other with
    | idle | settled outcome => rfl
    | reserved owner line | fetching owner due line =>
        by_cases howner : owner = client
        · rw [Entry.release, if_pos howner]
          cases line <;> rfl
        · rw [Entry.release, if_neg howner]
  · rw [if_neg hurl]

/-! ## Handles -/

/-- The handles number the resources, and every resource is the outcome of its source. -/
structure IsNumbered (cache : Cache) : Prop where
  stored : ∀ url resource, cache.outcome? url = some (.ok resource) →
    resource.source = url ∧ cache.resources[resource.handle]? = some resource
  handle : ∀ position resource, cache.resources[position]? = some resource →
    resource.handle = position ∧ cache.outcome? resource.source = some (.ok resource)

/-- Every outcome is one that the URL's fetch can have. -/
def IsFaithful (outcomes : Outcomes) (cache : Cache) : Prop :=
  ∀ url outcome, cache.outcome? url = some outcome → outcomes.Gives url outcome

/-- A fresh cache holds nothing. -/
theorem is_numbered_empty : Cache.empty.IsNumbered := by
  constructor
  · intro url resource h
    cases h
  · intro position resource h
    cases h

/-- A cache that holds the same is numbered as well. -/
theorem IsNumbered.of_holds (hnumbered : cache.IsNumbered) (hholds : cache.Holds cache') :
    cache'.IsNumbered := by
  obtain ⟨hresources, houtcome⟩ := hholds
  constructor
  · intro url resource h
    rw [hresources]
    exact hnumbered.stored url resource (houtcome url ▸ h)
  · intro position resource h
    rw [houtcome]
    exact hnumbered.handle position resource (hresources ▸ h)

/-- A cache that gains an outcome gives it the next handle. -/
theorem IsNumbered.of_gains (hnumbered : cache.IsNumbered)
    (hgains : cache.Gains url answer cache') : cache'.IsNumbered := by
  -- A source with a resource is not the URL that is settled now.
  have hkept : ∀ other resource, cache.outcome? other = some (.ok resource) →
      cache'.outcome? other = some (.ok resource) := by
    intro other resource hother
    rw [hgains.outcome, if_neg, hother]
    rintro rfl
    rw [hgains.before] at hother
    cases hother
  constructor
  · intro other resource hother
    rw [hgains.outcome] at hother
    rw [hgains.resources]
    split at hother
    · rename_i hurl
      have hjudge := Option.some.inj hother
      cases answer with
      | error cause => cases hjudge
      | ok fetched =>
          cases hjudge
          exact ⟨hurl.symm, by simp [judge, Loaded.ofAnswer, Except.toOption]⟩
    · obtain ⟨hsource, hstored⟩ := hnumbered.stored other resource hother
      obtain ⟨hlength, _⟩ := List.getElem?_eq_some_iff.mp hstored
      exact ⟨hsource, by rw [List.getElem?_append_left hlength, hstored]⟩
  · intro position resource hresource
    rw [hgains.resources] at hresource
    by_cases hlength : position < cache.resources.length
    · rw [List.getElem?_append_left hlength] at hresource
      obtain ⟨hhandle, hother⟩ := hnumbered.handle position resource hresource
      exact ⟨hhandle, hkept resource.source resource hother⟩
    · rw [List.getElem?_append_right (Nat.le_of_not_lt hlength)] at hresource
      cases answer with
      | error cause => simp [judge, Loaded.ofAnswer, Except.toOption] at hresource
      | ok fetched =>
          obtain ⟨hposition, hnew⟩ : position - cache.resources.length = 0 ∧
              resource = ⟨url, cache.resources.length,
                ContentKind.detect url fetched.type, fetched.bytes⟩ := by
            simpa [judge, Loaded.ofAnswer, Except.toOption, List.getElem?_singleton, eq_comm]
              using hresource
          subst hnew
          constructor
          · show cache.resources.length = position
            omega
          · rw [hgains.outcome, if_pos rfl]
            rfl

/-- The local URL of a loaded resource leads to it. -/
theorem resolve_handle_of_loaded {resource : Resource} (hnumbered : cache.IsNumbered)
    (hloaded : cache.outcome? url = some (.ok resource)) :
    cache.resolveHandle resource.handleUrl = some resource := by
  obtain ⟨_, hstored⟩ := hnumbered.stored url resource hloaded
  unfold resolveHandle
  cases hfind : cache.resources.find? fun other => other.handleUrl = resource.handleUrl with
  | none =>
      have hnone := List.find?_eq_none.mp hfind resource (List.mem_of_getElem? hstored)
      simp at hnone
  | some other =>
      have hurl : other.handleUrl = resource.handleUrl := by simpa using List.find?_some hfind
      have hhandle : other.handle = resource.handle := handle_text_injective hurl
      obtain ⟨position, hposition⟩ :=
        List.mem_iff_getElem?.mp (List.mem_of_find?_eq_some hfind)
      have hother := (hnumbered.handle position other hposition).1
      rw [← hother, hhandle, hstored] at hposition
      exact hposition.symm

/-- The sources of the resources are the URLs that are loaded, each once. -/
theorem nodup_sources (hnumbered : cache.IsNumbered) :
    (cache.resources.map Resource.source).Nodup := by
  rw [List.nodup_iff_pairwise_ne, List.pairwise_iff_getElem]
  intro i j hi hj hlt heq
  rw [List.length_map] at hi hj
  rw [List.getElem_map, List.getElem_map] at heq
  obtain ⟨hfirst, hloaded⟩ := hnumbered.handle i _ (List.getElem?_eq_getElem hi)
  obtain ⟨hsecond, hloaded'⟩ := hnumbered.handle j _ (List.getElem?_eq_getElem hj)
  rw [heq, hloaded'] at hloaded
  have hsame : cache.resources[j] = cache.resources[i] := by
    simpa using hloaded
  rw [hsame, hfirst] at hsecond
  omega

/-- A URL is the source of a resource exactly if it is loaded. -/
theorem mem_sources_iff (hnumbered : cache.IsNumbered) :
    url ∈ cache.resources.map Resource.source ↔
      ∃ resource, cache.outcome? url = some (.ok resource) := by
  constructor
  · intro hurl
    obtain ⟨resource, hmem, rfl⟩ := List.mem_map.mp hurl
    obtain ⟨position, hposition⟩ := List.mem_iff_getElem?.mp hmem
    exact ⟨resource, (hnumbered.handle position resource hposition).2⟩
  · rintro ⟨resource, hloaded⟩
    obtain ⟨hsource, hstored⟩ := hnumbered.stored url resource hloaded
    exact List.mem_map.mpr ⟨resource, List.mem_of_getElem? hstored, hsource⟩

/-- A cache that holds the same has the same outcomes. -/
theorem IsFaithful.of_holds {outcomes : Outcomes} (hfaithful : cache.IsFaithful outcomes)
    (hholds : cache.Holds cache') : cache'.IsFaithful outcomes := by
  intro url outcome h
  exact hfaithful url outcome (hholds.2 url ▸ h)

/-- The outcome that a cache gains is that of the fetch. -/
theorem IsFaithful.of_gains {outcomes : Outcomes} (hfaithful : cache.IsFaithful outcomes)
    (hgains : cache.Gains url (outcomes url) cache') : cache'.IsFaithful outcomes := by
  intro other outcome h
  rw [hgains.outcome] at h
  split at h
  · rename_i hurl
    subst hurl
    cases h
    cases hanswer : outcomes other with
    | ok fetched => exact ⟨fetched, hanswer, rfl, rfl, rfl⟩
    | error cause => exact ⟨cause, hanswer, rfl⟩
  · exact hfaithful other outcome h

end Cache

namespace Session

variable {transport : Transport} {outcomes : Outcomes} {client : Client} {url : String}
  {s s' : Session}

/-- A session's cache holds what the outcomes say, under handles that number the resources. -/
structure IsCoherent (outcomes : Outcomes) (s : Session) : Prop where
  numbered : s.cache.IsNumbered
  faithful : s.cache.IsFaithful outcomes

/-- A poll changes no outcome, or brings the answer to the fetch of its URL. -/
theorem Polled.holds_or_gains (hpolled : s.Polled transport client url s') :
    s.cache.Holds s'.cache ∨
      ∃ rounds answer, transport url = .after rounds answer ∧
        s.cache.Gains url answer s'.cache := by
  have hsame : s.cache.Holds s.cache := ⟨rfl, fun _ => rfl⟩
  cases hpolled with
  | settled outcome _ heq => exact .inl (heq ▸ hsame)
  | deferred line _ _ _ heq =>
      subst heq
      exact .inl ⟨rfl, fun other => Cache.outcome?_congr (Cache.entry_set_entry s.cache url other)⟩
  | joined owner line _ hentry heq =>
      subst heq
      refine .inl (Cache.holds_set ?_ ?_)
      · rcases hentry with hentry | ⟨due, hentry⟩ <;> simp [Cache.outcome?, hentry]
      · rcases hentry with hentry | ⟨due, hentry⟩ <;> simp [hentry, Entry.join]
  | waiting due line _ _ heq => exact .inl (heq ▸ hsame)
  | answered rounds answer round line hentry htransport _ heq =>
      refine .inr ⟨rounds, answer, htransport, ?_⟩
      rw [heq, cache_settle]
      exact Cache.gains_settle (by simp [Cache.outcome?, hentry])
  | issued line paid hfree hpaid _ heq =>
      subst heq
      left
      show s.cache.Holds (paid.cache.set url _)
      rw [(paid_eq hpaid).1]
      exact Cache.holds_set (outcome?_of_free hfree) (by simp)
  | issuedAnswered line paid answer hfree hpaid htransport heq =>
      refine .inr ⟨0, answer, htransport, ?_⟩
      -- The fetch is opened first, which keeps all outcomes, and settled then.
      have hopened : s.cache.Holds (paid.opened transport client url line).cache := by
        show s.cache.Holds (paid.cache.set url _)
        rw [(paid_eq hpaid).1]
        exact Cache.holds_set (outcome?_of_free hfree) (by simp)
      rw [heq, cache_settle]
      refine hopened.gains (Cache.gains_settle ?_)
      rw [hopened.2, outcome?_of_free hfree]

/-- A poll keeps a session coherent. -/
theorem IsCoherent.polled {delays : String → Nat} (hcoherent : s.IsCoherent outcomes)
    (hpolled : s.Polled (outcomes.after delays) client url s') : s'.IsCoherent outcomes := by
  rcases hpolled.holds_or_gains with hholds | ⟨rounds, answer, htransport, hgains⟩
  · exact ⟨hcoherent.numbered.of_holds hholds, hcoherent.faithful.of_holds hholds⟩
  · cases htransport
    exact ⟨hcoherent.numbered.of_gains hgains, hcoherent.faithful.of_gains hgains⟩

/-- A settled URL whose fetch succeeds has a resource. -/
theorem IsCoherent.exists_resource {fetched : Fetched} {outcome : Loaded}
    (hcoherent : s.IsCoherent outcomes) (hfetched : outcomes url = .ok fetched)
    (houtcome : s.cache.outcome? url = some outcome) :
    ∃ resource, s.cache.outcome? url = some (.ok resource) := by
  cases outcome with
  | ok resource => exact ⟨resource, houtcome⟩
  | error e =>
      obtain ⟨cause, hcause, _⟩ := hcoherent.faithful url _ houtcome
      rw [hfetched] at hcause
      cases hcause

/-- Giving up loads keeps a session coherent. -/
theorem IsCoherent.release (hcoherent : s.IsCoherent outcomes) (loads : List (Client × String)) :
    (s.release loads).IsCoherent outcomes := by
  have hholds : s.cache.Holds (s.release loads).cache := by
    unfold Session.release
    generalize s.cache = cache
    induction loads generalizing cache with
    | nil => exact ⟨rfl, fun _ => rfl⟩
    | cons load loads ih =>
        have hfirst : cache.Holds (cache.release load.1 load.2) := Cache.holds_release load.1 load.2
        have hrest := ih (cache.release load.1 load.2)
        exact ⟨hrest.1.trans hfirst.1, fun url => (hrest.2 url).trans (hfirst.2 url)⟩
  exact ⟨hcoherent.numbered.of_holds hholds, hcoherent.faithful.of_holds hholds⟩

/-- A session stays coherent when time passes. -/
theorem IsCoherent.advance (hcoherent : s.IsCoherent outcomes) (round : Nat) :
    (s.advanceTo round).IsCoherent outcomes :=
  ⟨hcoherent.numbered, hcoherent.faithful⟩

/-- A fresh session is coherent. -/
theorem is_coherent_empty : Session.empty.IsCoherent outcomes := by
  refine ⟨Cache.is_numbered_empty, ?_⟩
  intro url outcome h
  cases h

end Session

end Widgetry
