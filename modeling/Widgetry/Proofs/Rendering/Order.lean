import Widgetry.Proofs.Rendering.Progress

/-!
# What is fetched, and in which order

A sweep issues the fetches of URLs that nobody has requested, in the order of their first
occurrence, until the allowance of the round is used up. `calls_upcoming` says so without speaking
of time: the calls so far followed by the calls to come are the same before and after a sweep. So
the first sweep of a fresh session fixes as many calls as the allowance admits (`calls_of_first`),
and a course of forward sweeps issues all of them in order (`calls_of_course`).
-/

namespace Widgetry

/-- Every element of a list without its repetitions occurs once. -/
theorem nodup_erase_dups (urls : List String) : urls.eraseDups.Nodup := by
  generalize hlength : urls.length = length
  induction length using Nat.strongRecOn generalizing urls with
  | ind length ih =>
      cases urls with
      | nil => exact List.nodup_nil
      | cons url rest =>
          rw [List.eraseDups_cons, List.nodup_cons]
          have hshort := List.length_filter_le (fun other => !other == url) rest
          rw [List.length_cons] at hlength
          refine ⟨?_, ih _ (by omega) _ rfl⟩
          simp

namespace Session

/-- Nobody has requested a URL. -/
def isFresh (s : Session) (url : String) : Bool :=
  match s.cache.entry url with
  | .idle => true
  | _ => false

/-- The URLs that are still to be fetched for some loads, in order. -/
def upcoming (s : Session) (loads : List (Client × String)) : List String :=
  ((loads.map Prod.snd).filter s.isFresh).eraseDups

/-- No URL was fetched twice, and those that were are no longer fresh. -/
structure IsTallied (s : Session) : Prop where
  nodup : s.calls.Nodup
  mem_calls : ∀ url, url ∈ s.calls ↔ s.isFresh url = false

variable {outcomes : Outcomes} {delays : String → Nat} {client : Client} {url : String}
  {s s' s₁ : Session} {loads rest : List (Client × String)} {forward : Prop}

/-- Entries that differ in their lines only are fresh alike. -/
theorem is_fresh_of_core (h : (s'.cache.entry url).core = (s.cache.entry url).core) :
    s'.isFresh url = s.isFresh url := by
  have hcore : ∀ session : Session,
      session.isFresh url = match (session.cache.entry url).core with
        | .idle => true
        | _ => false := by
    intro session
    unfold isFresh
    cases session.cache.entry url <;> rfl
  rw [hcore, hcore, h]

/-- A URL that is fresh is idle. -/
theorem is_fresh_iff : s.isFresh url = true ↔ s.cache.entry url = .idle := by
  unfold isFresh
  cases s.cache.entry url <;> simp

/-- A URL whose entry is not idle is not fresh. -/
theorem is_fresh_eq_false (h : s.cache.entry url ≠ .idle) : s.isFresh url = false := by
  cases hfresh : s.isFresh url with
  | false => rfl
  | true => exact (h (is_fresh_iff.mp hfresh)).elim

/-- An awaited load pays with one unit of the allowance. -/
theorem allowance_paid {paid : Session} (hpaid : s.IsPaid client paid)
    (hclient : client ≠ Client.loader) : s.allowance = paid.allowance + 1 := by
  rcases hpaid with ⟨hloader, _⟩ | ⟨_, hpositive, rfl⟩
  · exact (hclient hloader).elim
  · show s.allowance = s.allowance - 1 + 1
    omega

/-- Where the entry of one URL alone changes, and is idle no longer, the others are fresh as
before. -/
theorem is_fresh_of_begun
    (hothers : ∀ other, other ≠ url → s'.cache.entry other = s.cache.entry other)
    (hurl : s'.cache.entry url ≠ .idle) (other : String) :
    s'.isFresh other = (s.isFresh other && !other == url) := by
  by_cases hother : other = url
  · subst hother
    rw [is_fresh_eq_false hurl]
    simp
  · have hsame : s'.isFresh other = s.isFresh other :=
      is_fresh_of_core (by rw [hothers other hother])
    simp [hsame, hother]

/-- A poll of an awaited load issues no fetch, because its URL is not fresh or there is no
allowance, or it issues the fetch of its URL. -/
theorem Polled.begins (hpolled : s.Polled (outcomes.after delays) client url s')
    (hunreserved : s.IsUnreserved) (hclient : client ≠ Client.loader) :
    (s'.calls = s.calls ∧ (∀ other, s'.isFresh other = s.isFresh other) ∧
      s'.allowance = s.allowance ∧ (s.isFresh url = true → s.allowance = 0)) ∨
    (s'.calls = s.calls ++ [url] ∧ s.isFresh url = true ∧
      (∀ other, s'.isFresh other = (s.isFresh other && !other == url)) ∧
      s.allowance = s'.allowance + 1) := by
  have hothers : ∀ other, other ≠ url → s'.cache.entry other = s.cache.entry other :=
    fun other hother => hpolled.entry_of_ne hother
  -- A URL that is not idle is not fresh either, and nothing is said of the allowance then.
  have hstale : s.cache.entry url ≠ .idle → s.isFresh url = true → s.allowance = 0 := by
    intro hentry hfresh
    exact (hentry (is_fresh_iff.mp hfresh)).elim
  cases hpolled with
  | settled outcome hentry heq =>
      subst heq
      exact .inl ⟨rfl, fun _ => rfl, rfl, hstale (by simp [hentry])⟩
  | deferred line _ _ hallowance heq =>
      subst heq
      refine .inl ⟨rfl, fun other => ?_, rfl, fun _ => hallowance⟩
      exact is_fresh_of_core (by rw [Cache.entry_set_entry])
  | joined owner line _ hentry heq =>
      have hcore : (s'.cache.entry url).core = (s.cache.entry url).core := by
        rw [heq, join, Cache.entry_set_self]
        cases s.cache.entry url <;> rfl
      refine .inl ⟨by rw [heq, join], fun other => ?_, by rw [heq, join], hstale ?_⟩
      · by_cases hother : other = url
        · exact is_fresh_of_core (hother ▸ hcore)
        · exact is_fresh_of_core (by rw [hothers other hother])
      · rcases hentry with hentry | ⟨due, hentry⟩ <;> simp [hentry]
  | waiting due line hentry _ heq =>
      subst heq
      exact .inl ⟨rfl, fun _ => rfl, rfl, hstale (by simp [hentry])⟩
  | answered rounds answer round line hentry _ _ heq =>
      have hafter : s'.cache.entry url ≠ .idle := by
        rw [heq, cache_settle, Cache.entry_settle_self]
        simp
      refine .inl ⟨by rw [heq, calls_settle], fun other => ?_, by rw [heq, allowance_settle],
        hstale (by simp [hentry])⟩
      rw [is_fresh_of_begun hothers hafter]
      by_cases hother : other = url
      · subst hother
        rw [is_fresh_eq_false (by simp [hentry])]
        rfl
      · simp [hother]
  | issued line paid hfree hpaid _ heq =>
      right
      refine ⟨?_, is_fresh_iff.mpr (idle_of_free hunreserved hfree), ?_, ?_⟩
      · rw [heq, calls_opened, (paid_eq hpaid).2.1]
      · refine is_fresh_of_begun hothers ?_
        rw [heq, entry_opened, if_pos rfl]
        simp
      · rw [heq]
        show s.allowance = paid.allowance + 1
        exact allowance_paid hpaid hclient
  | issuedAnswered line paid answer hfree hpaid _ heq =>
      right
      refine ⟨?_, is_fresh_iff.mpr (idle_of_free hunreserved hfree), ?_, ?_⟩
      · rw [heq, calls_settle, calls_opened, (paid_eq hpaid).2.1]
      · refine is_fresh_of_begun hothers ?_
        rw [heq, entry_opened_settle hpaid, if_pos rfl]
        simp
      · rw [heq, allowance_settle]
        show s.allowance = paid.allowance + 1
        exact allowance_paid hpaid hclient

/-- A poll keeps the tally. -/
theorem IsTallied.polled (htallied : s.IsTallied)
    (hpolled : s.Polled (outcomes.after delays) client url s') (hunreserved : s.IsUnreserved)
    (hclient : client ≠ Client.loader) : s'.IsTallied := by
  rcases hpolled.begins hunreserved hclient with
    ⟨hcalls, hfresh, _⟩ | ⟨hcalls, hurl, hfresh, _⟩
  · constructor
    · rw [hcalls]
      exact htallied.nodup
    · intro other
      rw [hcalls, hfresh, htallied.mem_calls]
  · constructor
    · rw [hcalls, List.nodup_append]
      refine ⟨htallied.nodup, by simp, ?_⟩
      intro called hcalled other hother heq
      rw [List.mem_singleton.mp hother] at heq
      rw [heq, htallied.mem_calls, hurl] at hcalled
      cases hcalled
    · intro other
      rw [hcalls, hfresh, List.mem_append, htallied.mem_calls]
      by_cases hother : other = url
      · simp [hother]
      · simp [hother]

/-! ## Sweeps -/

/-- Sessions in which the same URLs are fresh have the same fetches to come. -/
theorem upcoming_congr (h : ∀ other, s'.isFresh other = s.isFresh other) :
    s'.upcoming loads = s.upcoming loads := by
  unfold upcoming
  rw [funext h]

/-- A URL that is not fresh is not to be fetched. -/
theorem upcoming_cons_of_stale (h : s.isFresh url = false) :
    s.upcoming ((client, url) :: loads) = s.upcoming loads := by
  simp [upcoming, h]

/-- A fresh URL is the next to be fetched. -/
theorem upcoming_cons_of_fresh (h : s.isFresh url = true)
    (hothers : ∀ other, s'.isFresh other = (s.isFresh other && !other == url)) :
    s.upcoming ((client, url) :: loads) = url :: s'.upcoming loads := by
  unfold upcoming
  rw [List.map_cons, List.filter_cons_of_pos h, List.eraseDups_cons, List.filter_filter]
  refine congrArg (fun urls => url :: List.eraseDups urls) (List.filter_congr ?_)
  intro other _
  rw [hothers other, Bool.and_comm]

/-- What is no longer fresh does not become fresh again in a sweep. -/
theorem Sweep.is_fresh_eq_false (hsweep : Sweep (outcomes.after delays) s loads s' rest)
    (hunreserved : s.IsUnreserved) (hstale : s.isFresh url = false) : s'.isFresh url = false := by
  have hbefore : s.cache.entry url ≠ .idle := by
    intro hidle
    rw [is_fresh_iff.mpr hidle] at hstale
    cases hstale
  refine Session.is_fresh_eq_false fun hidle => ?_
  have hsteps := (hsweep.works hunreserved).1 url
  rw [hidle] at hsteps
  cases hentry : s.cache.entry url with
  | idle => exact hbefore hentry
  | reserved owner line => exact hunreserved url owner line hentry
  | fetching owner due line | settled outcome =>
      rw [hentry] at hsteps
      simp [Entry.steps] at hsteps

/-- A poll without an allowance issues no fetch. -/
theorem Polled.of_exhausted (hpolled : s.Polled (outcomes.after delays) client url s')
    (hunreserved : s.IsUnreserved) (hclient : client ≠ Client.loader)
    (hallowance : s.allowance = 0) :
    s'.calls = s.calls ∧ (∀ other, s'.isFresh other = s.isFresh other) ∧ s'.allowance = 0 := by
  rcases hpolled.begins hunreserved hclient with
    ⟨hcalls, hfresh, hsame, _⟩ | ⟨_, _, _, hspent⟩
  · exact ⟨hcalls, hfresh, hsame.trans hallowance⟩
  · omega

/-- Without an allowance a sweep issues no fetch. -/
theorem Sweep.of_exhausted (hsweep : Sweep (outcomes.after delays) s loads s' rest)
    (hunreserved : s.IsUnreserved) (hclients : ∀ load ∈ loads, load.1 ≠ Client.loader)
    (hallowance : s.allowance = 0) :
    s'.calls = s.calls ∧ (∀ other, s'.isFresh other = s.isFresh other) ∧ s'.allowance = 0 := by
  induction hsweep with
  | nil s => exact ⟨rfl, fun _ => rfl, hallowance⟩
  | noted log _ ih => exact ih hunreserved hclients hallowance
  | arrived outcome hpolled _ _ ih | waiting hpolled _ _ ih =>
      rw [List.forall_mem_cons] at hclients
      obtain ⟨hcalls, hfresh, hsame⟩ :=
        hpolled.of_exhausted hunreserved hclients.1 hallowance
      obtain ⟨hcalls', hfresh', hsame'⟩ :=
        ih (hunreserved.polled hpolled) hclients.2 hsame
      exact ⟨hcalls'.trans hcalls, fun other => (hfresh' other).trans (hfresh other), hsame'⟩

/-- The first poll of a sweep and the polls after it: the calls so far, followed by those to come,
stay the same. -/
theorem Polled.calls_upcoming (hpolled : s.Polled (outcomes.after delays) client url s₁)
    (hsweep : Sweep (outcomes.after delays) s₁ loads s' rest) (hunreserved : s.IsUnreserved)
    (hclients : ∀ load ∈ (client, url) :: loads, load.1 ≠ Client.loader)
    (hrest : s'.calls ++ s'.upcoming loads = s₁.calls ++ s₁.upcoming loads) :
    s'.calls ++ s'.upcoming ((client, url) :: loads) =
      s.calls ++ s.upcoming ((client, url) :: loads) := by
  rw [List.forall_mem_cons] at hclients
  have hunreserved₁ := hunreserved.polled hpolled
  rcases hpolled.begins hunreserved hclients.1 with
    ⟨hcalls, hfresh, hsame, hexhausted⟩ | ⟨hcalls, hurl, hfresh, _⟩
  · cases hurl : s.isFresh url with
    | false =>
        have hstale : s'.isFresh url = false :=
          hsweep.is_fresh_eq_false hunreserved₁ ((hfresh url).trans hurl)
        rw [upcoming_cons_of_stale hurl, upcoming_cons_of_stale hstale, hrest, hcalls,
          upcoming_congr hfresh]
    | true =>
        -- The URL waits for an allowance, and so do all after it.
        obtain ⟨hcalls', hfresh', _⟩ :=
          hsweep.of_exhausted hunreserved₁ hclients.2 (hsame.trans (hexhausted hurl))
        rw [hcalls', hcalls]
        exact congrArg (s.calls ++ ·)
          (upcoming_congr fun other => (hfresh' other).trans (hfresh other))
  · have hbegun : s₁.isFresh url = false := by
      rw [hfresh]
      simp
    have hstale : s'.isFresh url = false := hsweep.is_fresh_eq_false hunreserved₁ hbegun
    rw [upcoming_cons_of_stale hstale, upcoming_cons_of_fresh hurl hfresh, hrest, hcalls,
      List.append_assoc]
    rfl

/-- The calls so far, followed by those to come, are the same before and after a sweep. -/
theorem Sweep.calls_upcoming (hsweep : Sweep (outcomes.after delays) s loads s' rest)
    (hunreserved : s.IsUnreserved) (hclients : ∀ load ∈ loads, load.1 ≠ Client.loader) :
    s'.calls ++ s'.upcoming loads = s.calls ++ s.upcoming loads := by
  induction hsweep with
  | nil s => rfl
  | noted log _ ih => exact ih hunreserved hclients
  | arrived outcome hpolled _ hsweep ih | waiting hpolled _ hsweep ih =>
      refine hpolled.calls_upcoming hsweep hunreserved hclients ?_
      exact ih (hunreserved.polled hpolled) (List.forall_mem_cons.mp hclients).2

/-- A settled URL is not fresh. -/
theorem is_fresh_of_outcome {outcome : Loaded} (h : s.cache.outcome? url = some outcome) :
    s.isFresh url = false :=
  is_fresh_eq_false (by simp [Cache.outcome?_eq_some.mp h])

/-- Nothing is to be fetched for the loads that have left. -/
theorem Sweep.upcoming_rest (hsweep : Sweep (outcomes.after delays) s loads s' rest)
    (hunreserved : s.IsUnreserved) : s'.upcoming rest = s'.upcoming loads := by
  have hfilter : (rest.map Prod.snd).filter s'.isFresh =
      (loads.map Prod.snd).filter s'.isFresh := by
    induction hsweep with
    | nil s => rfl
    | noted log _ ih => exact ih hunreserved
    | arrived outcome hpolled houtcome hsweep ih =>
        have hunreserved' := hunreserved.polled hpolled
        have hstale := hsweep.is_fresh_eq_false hunreserved' (is_fresh_of_outcome houtcome)
        rw [ih hunreserved', List.map_cons, List.filter_cons_of_neg (by simp [hstale])]
    | waiting hpolled _ _ ih =>
        rw [List.map_cons, List.map_cons, List.filter_cons, List.filter_cons,
          ih (hunreserved.polled hpolled)]
  exact congrArg List.eraseDups hfilter

/-- The first poll of a sweep and the polls after it: every fetch costs one unit of the allowance,
and there is nothing left to fetch or nothing left of the allowance. -/
theorem Polled.allowance_spent (hpolled : s.Polled (outcomes.after delays) client url s₁)
    (hsweep : Sweep (outcomes.after delays) s₁ loads s' rest) (hunreserved : s.IsUnreserved)
    (hclients : ∀ load ∈ (client, url) :: loads, load.1 ≠ Client.loader)
    (hspent : s'.allowance + s'.calls.length = s₁.allowance + s₁.calls.length)
    (hend : s'.allowance = 0 ∨ s'.upcoming loads = []) :
    s'.allowance + s'.calls.length = s.allowance + s.calls.length ∧
      (s'.allowance = 0 ∨ s'.upcoming ((client, url) :: loads) = []) := by
  rw [List.forall_mem_cons] at hclients
  have hunreserved₁ := hunreserved.polled hpolled
  rcases hpolled.begins hunreserved hclients.1 with
    ⟨hcalls, hfresh, hsame, hexhausted⟩ | ⟨hcalls, _, hfresh, hpaid⟩
  · refine ⟨by rw [hspent, hsame, hcalls], ?_⟩
    cases hurl : s.isFresh url with
    | false =>
        have hstale : s'.isFresh url = false :=
          hsweep.is_fresh_eq_false hunreserved₁ ((hfresh url).trans hurl)
        rw [upcoming_cons_of_stale hstale]
        exact hend
    | true =>
        -- The URL is fresh and yet was not fetched, so that the allowance was used up before.
        left
        exact (hsweep.of_exhausted hunreserved₁ hclients.2 (hsame.trans (hexhausted hurl))).2.2
  · have hbegun : s₁.isFresh url = false := by
      rw [hfresh]
      simp
    have hstale : s'.isFresh url = false := hsweep.is_fresh_eq_false hunreserved₁ hbegun
    rw [upcoming_cons_of_stale hstale]
    refine ⟨?_, hend⟩
    rw [hcalls, List.length_append, List.length_singleton] at hspent
    omega

/-- Every fetch that a sweep issues costs one unit of the allowance, and the sweep does not stop
before there is nothing left to fetch or nothing left of the allowance. -/
theorem Sweep.allowance_spent (hsweep : Sweep (outcomes.after delays) s loads s' rest)
    (hunreserved : s.IsUnreserved) (hclients : ∀ load ∈ loads, load.1 ≠ Client.loader) :
    s'.allowance + s'.calls.length = s.allowance + s.calls.length ∧
      (s'.allowance = 0 ∨ s'.upcoming loads = []) := by
  induction hsweep with
  | nil s => exact ⟨rfl, .inr rfl⟩
  | noted log _ ih => exact ih hunreserved hclients
  | arrived outcome hpolled _ hsweep ih | waiting hpolled _ hsweep ih =>
      obtain ⟨hspent, hend⟩ :=
        ih (hunreserved.polled hpolled) (List.forall_mem_cons.mp hclients).2
      exact hpolled.allowance_spent hsweep hunreserved hclients hspent hend

/-! ## Courses -/

/-- What happens to loads and sessions, in whatever order loads are polled. -/
structure Tended (s : Session) (loads : List (Client × String)) (s' : Session)
    (rest : List (Client × String)) : Prop where
  unreserved : s'.IsUnreserved
  remaining : ∀ load ∈ rest, load ∈ loads
  tallied : s.IsTallied → s'.IsTallied
  calls : s.calls <+: s'.calls
  mem_calls : ∀ url ∈ s'.calls, url ∈ s.calls ∨ url ∈ loads.map Prod.snd
  settled : ∀ url outcome, s.cache.outcome? url = some outcome →
    s'.cache.outcome? url = some outcome
  arrived : ∀ load ∈ loads,
    load ∈ rest ∨ ∃ outcome, s'.cache.outcome? load.2 = some outcome

/-- Nothing happens. -/
theorem Tended.refl (hunreserved : s.IsUnreserved) : Tended s loads s loads where
  unreserved := hunreserved
  remaining := fun _ hload => hload
  tallied := id
  calls := List.prefix_refl _
  mem_calls := fun _ hurl => .inl hurl
  settled := fun _ _ h => h
  arrived := fun _ hload => .inl hload

/-- One thing after another. -/
theorem Tended.trans {loads₁ : List (Client × String)} (h : Tended s loads s₁ loads₁)
    (h₁ : Tended s₁ loads₁ s' rest) : Tended s loads s' rest where
  unreserved := h₁.unreserved
  remaining := fun load hload => h.remaining load (h₁.remaining load hload)
  tallied := fun htallied => h₁.tallied (h.tallied htallied)
  calls := h.calls.trans h₁.calls
  mem_calls := by
    intro url hurl
    rcases h₁.mem_calls url hurl with hurl | hurl
    · exact h.mem_calls url hurl
    · obtain ⟨load, hload, hsource⟩ := List.mem_map.mp hurl
      exact .inr (List.mem_map.mpr ⟨load, h.remaining load hload, hsource⟩)
  settled := fun url outcome hurl => h₁.settled url outcome (h.settled url outcome hurl)
  arrived := by
    intro load hload
    rcases h.arrived load hload with hload | ⟨outcome, houtcome⟩
    · exact h₁.arrived load hload
    · exact .inr ⟨outcome, h₁.settled load.2 outcome houtcome⟩

/-- The poll of a load, which remains unless it has arrived. -/
theorem Polled.tended (hpolled : s.Polled (outcomes.after delays) client url s')
    (hunreserved : s.IsUnreserved) (hclient : client ≠ Client.loader)
    (hrest : ∀ load ∈ rest, load = (client, url) ∨ load ∈ loads)
    (hloads : ∀ load ∈ loads, load ∈ rest)
    (harrived : (client, url) ∈ rest ∨ ∃ outcome, s'.cache.outcome? url = some outcome) :
    Tended s ((client, url) :: loads) s' rest where
  unreserved := hunreserved.polled hpolled
  remaining := fun load hload => List.mem_cons.mpr (hrest load hload)
  tallied := fun htallied => htallied.polled hpolled hunreserved hclient
  calls := hpolled.calls_prefix
  mem_calls := by
    intro other hother
    rcases hpolled.calls_eq with hcalls | ⟨hcalls, _⟩
    · rw [hcalls] at hother
      exact .inl hother
    · rw [hcalls, List.mem_append, List.mem_singleton] at hother
      rcases hother with hother | rfl
      · exact .inl hother
      · exact .inr (by simp)
  settled := by
    intro other outcome hother
    rw [Cache.outcome?_eq_some] at hother ⊢
    exact hpolled.settled_stays hother
  arrived := by
    intro load hload
    rcases List.mem_cons.mp hload with rfl | hload
    · exact harrived
    · exact .inl (hloads load hload)

/-- What happens in a sweep happens also if it is a part of a greater one. -/
theorem Tended.cons {load : Client × String} (h : Tended s loads s' rest) :
    Tended s (load :: loads) s' (load :: rest) where
  unreserved := h.unreserved
  remaining := by
    intro other hother
    rcases List.mem_cons.mp hother with rfl | hother
    · exact List.mem_cons_self
    · exact List.mem_cons_of_mem _ (h.remaining other hother)
  tallied := h.tallied
  calls := h.calls
  mem_calls := by
    intro url hurl
    rcases h.mem_calls url hurl with hurl | hurl
    · exact .inl hurl
    · exact .inr (List.mem_cons_of_mem _ hurl)
  settled := h.settled
  arrived := by
    intro other hother
    rcases List.mem_cons.mp hother with rfl | hother
    · exact .inl List.mem_cons_self
    · rcases h.arrived other hother with hother | houtcome
      · exact .inl (List.mem_cons_of_mem _ hother)
      · exact .inr houtcome

/-- What happens in a sweep. -/
theorem Sweep.tended (hsweep : Sweep (outcomes.after delays) s loads s' rest)
    (hunreserved : s.IsUnreserved) (hclients : ∀ load ∈ loads, load.1 ≠ Client.loader) :
    Tended s loads s' rest := by
  induction hsweep with
  | nil s => exact .refl hunreserved
  | @noted s s' loads rest log _ ih =>
      have h := ih hunreserved hclients
      exact ⟨h.unreserved, h.remaining, fun ht => h.tallied ⟨ht.nodup, ht.mem_calls⟩, h.calls,
        h.mem_calls, h.settled, h.arrived⟩
  | @arrived s s₁ s' client url loads rest outcome hpolled houtcome _ ih =>
      rw [List.forall_mem_cons] at hclients
      have hfirst : Tended s ((client, url) :: loads) s₁ loads :=
        hpolled.tended hunreserved hclients.1 (fun _ hload => .inr hload)
          (fun _ hload => hload) (.inr ⟨outcome, houtcome⟩)
      exact hfirst.trans (ih hfirst.unreserved hclients.2)
  | @waiting s s₁ s' client url loads rest hpolled _ _ ih =>
      rw [List.forall_mem_cons] at hclients
      have hfirst : Tended s ((client, url) :: loads) s₁ ((client, url) :: loads) :=
        hpolled.tended hunreserved hclients.1 (fun _ hload => List.mem_cons.mp hload)
          (fun _ hload => List.mem_cons_of_mem _ hload) (.inl List.mem_cons_self)
      exact hfirst.trans (ih hfirst.unreserved hclients.2).cons

/-- What happens if loads are swept in any order. -/
theorem Swept.tended (hswept : Swept (outcomes.after delays) forward s loads s' rest)
    (hunreserved : s.IsUnreserved) (hclients : ∀ load ∈ loads, load.1 ≠ Client.loader) :
    Tended s loads s' rest := by
  obtain ⟨order, remaining, horder, hremaining, hsweep, _⟩ := hswept
  have h := hsweep.tended hunreserved fun load hload => hclients load (horder.mem_iff.mp hload)
  refine ⟨h.unreserved, ?_, h.tallied, h.calls, ?_, h.settled, ?_⟩
  · exact fun load hload => horder.mem_iff.mp (h.remaining load (hremaining.mem_iff.mpr hload))
  · intro url hurl
    rcases h.mem_calls url hurl with hurl | hurl
    · exact .inl hurl
    · exact .inr ((horder.map Prod.snd).mem_iff.mp hurl)
  · intro load hload
    rcases h.arrived load (horder.mem_iff.mpr hload) with hload | houtcome
    · exact .inl (hremaining.mem_iff.mp hload)
    · exact .inr houtcome

/-- What happens in a course. -/
theorem Course.tended (hcourse : Course (outcomes.after delays) forward s loads s' rest)
    (hunreserved : s.IsUnreserved) (hclients : ∀ load ∈ loads, load.1 ≠ Client.loader) :
    Tended s loads s' rest := by
  induction hcourse with
  | refl s loads => exact .refl hunreserved
  | sweep hswept _ ih =>
      have hfirst := hswept.tended hunreserved hclients
      exact hfirst.trans (ih hfirst.unreserved fun load hload =>
        hclients load (hfirst.remaining load hload))
  | advance round _ ih =>
      have h := ih hunreserved hclients
      exact ⟨h.unreserved, h.remaining, fun ht => h.tallied ⟨ht.nodup, ht.mem_calls⟩, h.calls,
        h.mem_calls, h.settled, h.arrived⟩

/-- After loads are swept, the fetches under way belong to those that remain. -/
theorem Swept.is_attended (hswept : Swept (outcomes.after delays) forward s loads s' rest)
    (hattended : s.IsAttended loads) : s'.IsAttended rest := by
  obtain ⟨order, remaining, horder, hremaining, hsweep, _⟩ := hswept
  have horder' : s.IsAttended ([] ++ order) := hattended.perm horder.symm
  exact (hsweep.is_attended horder').perm hremaining

/-- After a course, the fetches under way belong to the loads that remain. -/
theorem Course.is_attended (hcourse : Course (outcomes.after delays) forward s loads s' rest)
    (hattended : s.IsAttended loads) : s'.IsAttended rest := by
  induction hcourse with
  | refl s loads => exact hattended
  | sweep hswept _ ih => exact ih (hswept.is_attended hattended)
  | advance round _ ih => exact ih hattended

/-- The calls so far, followed by those to come, are the same before and after a course in which
loads are swept in their order. -/
theorem Course.calls_upcoming (hcourse : Course (outcomes.after delays) forward s loads s' rest)
    (hforward : forward) (hunreserved : s.IsUnreserved)
    (hclients : ∀ load ∈ loads, load.1 ≠ Client.loader) :
    s'.calls ++ s'.upcoming rest = s.calls ++ s.upcoming loads := by
  induction hcourse with
  | refl s loads => rfl
  | sweep hswept _ ih =>
      have hfirst := hswept.tended hunreserved hclients
      obtain ⟨order, remaining, _, _, hsweep, hsame⟩ := hswept
      obtain ⟨rfl, rfl⟩ := hsame hforward
      rw [ih hfirst.unreserved fun load hload => hclients load (hfirst.remaining load hload),
        hsweep.upcoming_rest hunreserved, hsweep.calls_upcoming hunreserved hclients]
  | advance round _ ih => exact ih hunreserved hclients

/-! ## Fresh sessions -/

/-- In a fresh session nobody has taken over a fetch. -/
theorem is_unreserved_empty : Session.empty.IsUnreserved := by
  intro url owner line h
  cases h

/-- A fresh session has fetched nothing. -/
theorem is_tallied_empty : Session.empty.IsTallied := by
  refine ⟨List.nodup_nil, fun url => ?_⟩
  exact ⟨fun hurl => (List.not_mem_nil hurl).elim, nofun⟩

/-- In a fresh session all URLs are to be fetched. -/
theorem upcoming_empty (loads : List (Client × String)) :
    Session.empty.upcoming loads = (loads.map Prod.snd).eraseDups := by
  have hfresh : Session.empty.isFresh = fun _ => true := funext fun _ => rfl
  unfold upcoming
  rw [hfresh, List.filter_eq_self.mpr fun _ _ => rfl]

/-- The first sweep of a fresh session issues as many fetches as the allowance admits. -/
theorem Swept.calls_of_first
    (hswept : Swept (outcomes.after delays) True Session.empty loads s' rest)
    (hclients : ∀ load ∈ loads, load.1 ≠ Client.loader) :
    s'.calls = (loads.map Prod.snd).eraseDups.take fullAllowance := by
  obtain ⟨order, remaining, _, _, hsweep, hsame⟩ := hswept
  obtain ⟨rfl, rfl⟩ := hsame trivial
  have hcalls := hsweep.calls_upcoming is_unreserved_empty hclients
  rw [upcoming_empty] at hcalls
  change _ = (order.map Prod.snd).eraseDups at hcalls
  obtain ⟨hspent, hend⟩ := hsweep.allowance_spent is_unreserved_empty hclients
  change s'.allowance + s'.calls.length = fullAllowance + 0 at hspent
  rw [← hcalls]
  rcases hend with hexhausted | hnone
  · have hlength : s'.calls.length = fullAllowance := by omega
    rw [List.take_append_of_le_length (Nat.le_of_eq hlength.symm), ← hlength, List.take_length]
  · rw [hnone, List.append_nil, List.take_of_length_le (by omega)]

/-- Rendering from a fresh session fetches every URL once. The first fetches, as many as the
allowance of a round admits, come in order, and all come in order if all sweeps are forward. -/
theorem calls_of_course
    (hfirst : Swept (outcomes.after delays) True Session.empty loads s₁ rest)
    (hcourse : Course (outcomes.after delays) forward s₁ rest s' [])
    (hclients : ∀ load ∈ loads, load.1 ≠ Client.loader) :
    s'.calls.Perm (loads.map Prod.snd).eraseDups ∧
      s'.calls.take fullAllowance = (loads.map Prod.snd).eraseDups.take fullAllowance ∧
      (forward → s'.calls = (loads.map Prod.snd).eraseDups) := by
  have htended₁ := hfirst.tended is_unreserved_empty hclients
  have hclients₁ : ∀ load ∈ rest, load.1 ≠ Client.loader :=
    fun load hload => hclients load (htended₁.remaining load hload)
  have htended := htended₁.trans (hcourse.tended htended₁.unreserved hclients₁)
  have htallied : s'.IsTallied := htended.tallied is_tallied_empty
  have hperm : s'.calls.Perm (loads.map Prod.snd).eraseDups := by
    rw [List.perm_ext_iff_of_nodup htallied.nodup (nodup_erase_dups _)]
    intro url
    rw [List.mem_eraseDups]
    constructor
    · -- Only the URLs of loads are fetched, and a load that has an outcome had its URL fetched.
      intro hurl
      rcases htended.mem_calls url hurl with hurl | hurl
      · exact (List.not_mem_nil hurl).elim
      · exact hurl
    · intro hurl
      obtain ⟨load, hload, rfl⟩ := List.mem_map.mp hurl
      rcases htended.arrived load hload with hload | ⟨outcome, houtcome⟩
      · exact (List.not_mem_nil hload).elim
      · exact (htallied.mem_calls load.2).mpr (is_fresh_of_outcome houtcome)
  refine ⟨hperm, ?_, ?_⟩
  · have hcalls := hfirst.calls_of_first hclients
    obtain ⟨more, hmore⟩ := (hcourse.tended htended₁.unreserved hclients₁).calls
    rw [hcalls] at hmore
    have hlength := hperm.length_eq
    rw [← hmore, List.length_append, List.length_take] at hlength
    rw [← hmore]
    -- Either the first sweep has issued all fetches, or it has used up the allowance.
    by_cases hfew : (loads.map Prod.snd).eraseDups.length ≤ fullAllowance
    · have hnone : more = [] := List.eq_nil_of_length_eq_zero (by omega)
      rw [hnone, List.append_nil, List.take_take, Nat.min_self]
    · rw [List.take_append_of_le_length (by rw [List.length_take]; omega), List.take_take,
        Nat.min_self]
  · intro hforward
    have hwhole : Course (outcomes.after delays) forward Session.empty loads s' [] :=
      .sweep (hfirst.mono fun _ => trivial) hcourse
    have hcalls := hwhole.calls_upcoming hforward is_unreserved_empty hclients
    rw [upcoming_empty] at hcalls
    simpa [upcoming, Session.empty] using hcalls

end Session

end Widgetry
