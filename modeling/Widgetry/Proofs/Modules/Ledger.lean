import Widgetry.Module.Loader

/-!
# The ledger of a loader

Every requested module is outstanding, loaded or failed, and only one of these. `Loader.Balances`
says so of a loader and the failures so far, and that the loader keeps the first failure. Requests,
arrivals, failures and looks keep the balance, as long as no module crashes. What a look finds can
be read off the ledger: `check_cases`.
-/

namespace Widgetry

namespace Loader

open scoped List

/-- An item that moves from one list to another leaves the same items in both together. -/
theorem perm_move {xs ys zs : List String} {x : String} (hx : x ∈ xs) (hzs : zs ~ x :: ys) :
    xs ++ ys ~ xs.erase x ++ zs :=
  calc
    xs ++ ys ~ x :: xs.erase x ++ ys := (List.perm_cons_erase hx).append_right ys
    _ ~ xs.erase x ++ x :: ys := List.perm_middle.symm
    _ ~ xs.erase x ++ zs := hzs.symm.append_left _

/-- The outstanding modules stay outstanding when their order changes. -/
theorem perm_reorder (loader : Loader) (position rounds : Nat) :
    (loader.reorder position rounds).outstanding.Perm loader.outstanding := by
  have hpolled : (if rounds % 2 = 0 then loader.outstanding.take position
      else (loader.outstanding.take position).reverse).Perm
        (loader.outstanding.take position) := by
    split
    · exact .refl _
    · exact List.reverse_perm _
  have hsplit : (loader.outstanding.drop position ++ loader.outstanding.take position).Perm
      loader.outstanding := by
    refine List.perm_append_comm.trans ?_
    rw [List.take_append_drop]
  exact (hpolled.append_left _).trans hsplit

/-- A look at modules none of which has crashed. -/
theorem check_eq {loader : Loader} (hfailure : loader.failure = none)
    (hcrashed : loader.crashed = []) (watched : List String) :
    loader.check watched =
      if loader.isComplete then (loader, .inr (.ok ()))
      else ({ loader with unwatched := [] }, .inl (watched ++ loader.unwatched)) := by
  have hcrash : loader.crash? watched = none := by
    unfold Loader.crash?
    rw [hcrashed]
    simp
  unfold Loader.check
  rw [hfailure, hcrash]

/-- Every requested module is outstanding, loaded or among the failures, which are listed in their
order. The first of these is kept. -/
structure Balances (loader : Loader) (failures : List (String × ResourceError)) : Prop where
  requested : loader.requested ~
    loader.outstanding ++ (loader.modules.map Module.url ++ failures.map Prod.fst)
  nodup : loader.requested.Nodup
  failure : loader.failure = failures.head?.map fun failure => failureOf failure.1 failure.2
  crashed : loader.crashed = []

variable {loader : Loader} {failures : List (String × ResourceError)} {url : String}

/-- Nothing was requested of an empty loader. -/
theorem balances_empty : Loader.empty.Balances [] :=
  ⟨.refl _, List.nodup_nil, rfl, rfl⟩

/-- Where a requested module can be. -/
theorem Balances.mem_requested_iff (hbalances : loader.Balances failures) :
    url ∈ loader.requested ↔ url ∈ loader.outstanding ∨
      (∃ m ∈ loader.modules, m.url = url) ∨ ∃ e, (url, e) ∈ failures := by
  rw [hbalances.requested.mem_iff]
  simp

/-- The lists of modules in the different phases have no module twice. -/
theorem Balances.nodup_phases (h : loader.Balances failures) :
    (loader.outstanding ++ (loader.modules.map Module.url ++ failures.map Prod.fst)).Nodup :=
  h.requested.nodup_iff.mp h.nodup

/-- No URL is loaded twice. -/
theorem Balances.nodup_modules (h : loader.Balances failures) :
    (loader.modules.map Module.url).Nodup :=
  (List.nodup_append.mp (List.nodup_append.mp h.nodup_phases).2.1).1

/-- There is a failure as soon as a module has failed. -/
theorem Balances.failure_eq_none_iff (h : loader.Balances failures) :
    loader.failure = none ↔ failures = [] := by
  rw [h.failure]
  cases failures <;> simp

/-- What is requested after a request. -/
theorem mem_requested_enqueue {other : String} :
    other ∈ (loader.enqueue url).requested ↔ other ∈ loader.requested ∨ other = url := by
  unfold enqueue
  split
  · rename_i hmem
    rw [List.contains_iff_mem] at hmem
    constructor
    · exact .inl
    · rintro (hother | rfl)
      · exact hother
      · exact hmem
  · simp

/-- An outstanding module stays so in a request. -/
theorem mem_outstanding_enqueue {other : String} (hother : other ∈ loader.outstanding) :
    other ∈ (loader.enqueue url).outstanding := by
  unfold enqueue
  split
  · exact hother
  · exact List.mem_append_left _ hother

@[simp] theorem modules_enqueue : (loader.enqueue url).modules = loader.modules := by
  unfold enqueue
  split <;> rfl

/-- A request keeps the balance. -/
theorem Balances.enqueue (hbalances : loader.Balances failures) (url : String) :
    (loader.enqueue url).Balances failures := by
  unfold Loader.enqueue
  split
  · exact hbalances
  · rename_i hnew
    have hurl : url ∉ loader.requested := by simpa using hnew
    refine ⟨?_, ?_, hbalances.failure, hbalances.crashed⟩
    · show loader.requested ++ [url] ~ loader.outstanding ++ [url] ++ _
      calc
        loader.requested ++ [url] ~ url :: loader.requested := List.perm_append_comm
        _ ~ url :: (loader.outstanding ++ _) := hbalances.requested.cons url
        _ ~ loader.outstanding ++ url :: _ := List.perm_middle.symm
        _ = loader.outstanding ++ [url] ++ _ := by simp
    · show (loader.requested ++ [url]).Nodup
      refine List.nodup_append.mpr ⟨hbalances.nodup, by simp, ?_⟩
      intro other hother added hadded heq
      rw [List.mem_singleton.mp hadded] at heq
      exact hurl (heq ▸ hother)

/-- What is requested after some requests. -/
theorem mem_requested_enqueue_all {urls : List String} :
    url ∈ (loader.enqueueAll urls).requested ↔ url ∈ loader.requested ∨ url ∈ urls := by
  induction urls generalizing loader with
  | nil => simp [enqueueAll]
  | cons first urls ih =>
      show url ∈ ((loader.enqueue first).enqueueAll urls).requested ↔ _
      rw [ih, mem_requested_enqueue, List.mem_cons, or_assoc]

/-- Requests put the modules that are new to the end. They change nothing of the others. -/
theorem enqueue_all_joins (loader : Loader) (urls : List String) :
    ∃ joined, (∀ url ∈ joined, url ∈ urls) ∧
      (loader.enqueueAll urls).requested = loader.requested ++ joined ∧
      (loader.enqueueAll urls).outstanding = loader.outstanding ++ joined ∧
      (loader.enqueueAll urls).modules = loader.modules ∧
      (loader.enqueueAll urls).failure = loader.failure := by
  induction urls generalizing loader with
  | nil => exact ⟨[], nofun, (List.append_nil _).symm, (List.append_nil _).symm, rfl, rfl⟩
  | cons first urls ih =>
      obtain ⟨joined, hjoined, hrequested, houtstanding, hmodules, hfailure⟩ :=
        ih (loader.enqueue first)
      have hlater : ∀ url ∈ joined, url ∈ first :: urls :=
        fun url hurl => List.mem_cons_of_mem first (hjoined url hurl)
      have hall : loader.enqueueAll (first :: urls) = (loader.enqueue first).enqueueAll urls := rfl
      rw [hall]
      by_cases hold : loader.requested.contains first = true
      · have hsame : loader.enqueue first = loader := if_pos hold
        rw [hsame] at hrequested houtstanding hmodules hfailure
        refine ⟨joined, hlater, ?_⟩
        rw [hsame]
        exact ⟨hrequested, houtstanding, hmodules, hfailure⟩
      · have hnew : loader.enqueue first = _ := if_neg hold
        rw [hnew, List.append_assoc] at hrequested houtstanding
        rw [hnew] at hmodules hfailure
        refine ⟨first :: joined, List.forall_mem_cons.mpr ⟨List.mem_cons_self, hlater⟩, ?_⟩
        rw [hnew]
        exact ⟨hrequested, houtstanding, hmodules, hfailure⟩

/-- Requests keep the balance. -/
theorem Balances.enqueue_all (hbalances : loader.Balances failures) (urls : List String) :
    (loader.enqueueAll urls).Balances failures := by
  induction urls generalizing loader with
  | nil => exact hbalances
  | cons url urls ih => exact ih (hbalances.enqueue url)

/-- An outstanding module that is loaded keeps the balance. -/
theorem Balances.finish (hbalances : loader.Balances failures) {m : Module}
    (hurl : m.url ∈ loader.outstanding) : (loader.finish m).Balances failures where
  requested := by
    refine hbalances.requested.trans (perm_move hurl ?_)
    show (loader.modules ++ [m]).map Module.url ++ _ ~ _
    rw [List.map_append, List.append_assoc]
    exact List.perm_middle
  nodup := hbalances.nodup
  failure := hbalances.failure
  crashed := hbalances.crashed

/-- An outstanding module that fails keeps the balance, with its failure as the last one. -/
theorem Balances.failModule (hbalances : loader.Balances failures) (e : ResourceError)
    (hurl : url ∈ loader.outstanding) :
    (loader.failModule url e).Balances (failures ++ [(url, e)]) where
  requested := by
    refine hbalances.requested.trans (perm_move hurl ?_)
    show loader.modules.map Module.url ++ (failures ++ [(url, e)]).map Prod.fst ~ _
    rw [List.map_append, ← List.append_assoc]
    exact List.perm_append_comm
  nodup := hbalances.nodup
  failure := by
    show loader.failure.or (some (failureOf url e)) = _
    rw [hbalances.failure]
    cases failures <;> rfl
  crashed := hbalances.crashed

/-- The balance does not depend on the order of the outstanding modules. -/
theorem Balances.reorder (hbalances : loader.Balances failures) (position rounds : Nat) :
    (loader.reorder position rounds).Balances failures where
  requested := hbalances.requested.trans ((perm_reorder loader position rounds).symm.append_right _)
  nodup := hbalances.nodup
  failure := hbalances.failure
  crashed := hbalances.crashed

/-- Without failures, the modules are complete as soon as none is outstanding. -/
theorem Balances.is_complete_iff (hbalances : loader.Balances []) :
    loader.isComplete = true ↔ loader.outstanding = [] := by
  have hlength := hbalances.requested.length_eq
  simp only [List.map_nil, List.append_nil, List.length_append, List.length_map] at hlength
  unfold isComplete
  rw [decide_eq_true_eq, ← List.length_eq_zero_iff]
  omega

/-- What a look finds: the first failure, success if no module is outstanding, or nothing yet. At
most it watches other modules from then on. -/
theorem Balances.check_cases (hbalances : loader.Balances failures) (watched : List String) :
    (∃ url e rest, failures = (url, e) :: rest ∧
      loader.check watched = (loader, .inr (.error (failureOf url e)))) ∨
    (failures = [] ∧ loader.outstanding = [] ∧ loader.check watched = (loader, .inr (.ok ()))) ∨
    (failures = [] ∧ loader.outstanding ≠ [] ∧
      loader.check watched =
        ({ loader with unwatched := [] }, .inl (watched ++ loader.unwatched))) := by
  cases failures with
  | cons failure rest =>
      obtain ⟨url, e⟩ := failure
      refine .inl ⟨url, e, rest, rfl, ?_⟩
      unfold check
      rw [hbalances.failure]
      rfl
  | nil =>
      right
      rw [check_eq hbalances.failure hbalances.crashed]
      by_cases hnone : loader.outstanding = []
      · rw [if_pos (hbalances.is_complete_iff.mpr hnone)]
        exact .inl ⟨rfl, hnone, rfl⟩
      · rw [if_neg fun hcomplete => hnone (hbalances.is_complete_iff.mp hcomplete)]
        exact .inr ⟨rfl, hnone, rfl⟩

/-- The loaded modules among some that were all loaded are these, in their order. -/
theorem map_url_filter_map {urls : List String}
    (hloaded : ∀ url ∈ urls, ∃ m ∈ loader.modules, m.url = url) :
    (urls.filterMap loader.module?).map Module.url = urls := by
  induction urls with
  | nil => rfl
  | cons url urls ih =>
      obtain ⟨hurl, hurls⟩ := List.forall_mem_cons.mp hloaded
      cases hfind : loader.module? url with
      | none =>
          obtain ⟨m, hm, hsource⟩ := hurl
          have hnot := List.find?_eq_none.mp hfind m hm
          simp [hsource] at hnot
      | some m =>
          have hsource : m.url = url := by simpa using List.find?_some hfind
          rw [List.filterMap_cons_some hfind, List.map_cons, hsource, ih hurls]

/-- Without failures and outstanding modules, every requested module is loaded. -/
theorem Balances.mem_requested_of_none (hbalances : loader.Balances [])
    (hnone : loader.outstanding = []) :
    url ∈ loader.requested ↔ url ∈ loader.modules.map Module.url := by
  rw [hbalances.requested.mem_iff, hnone]
  simp

/-- Without failures and outstanding modules, the loaded modules are the requested ones. -/
theorem Balances.loaded_eq (hbalances : loader.Balances []) (hnone : loader.outstanding = []) :
    loader.loaded.map Module.url = loader.requested :=
  map_url_filter_map fun _ hurl =>
    List.mem_map.mp ((hbalances.mem_requested_of_none hnone).mp hurl)

end Loader

end Widgetry
