import Mathlib.Data.List.Perm.Subperm
import Widgetry.Proofs.Rendering.Progress
import Widgetry.Proofs.Startup.Requirements

/-!
# Gathering modules

`Plan.Gathers` holds of the modules of a start at any time: all that are requested are needed, the
hooks of the loaded ones have passed, and a failure means that the start comes to nothing. When no
module is outstanding and none has failed, the loaded modules are all that are needed
(`Gathers.mem_modules_iff`).

In a round the outstanding modules in front are swept as other loads are. Hooks put further modules
at the end, which may get their turn in the same round: `poll_modules_sweeps`.
-/

namespace Widgetry

namespace Hooks

variable {hooks : Hooks} {url other : String}

/-- No hook crashes. -/
def NeverCrash (hooks : Hooks) : Prop :=
  ∀ url, (hooks.hook url).ending ≠ .crashes

theorem never_crash_nil : NeverCrash [] :=
  fun _ => nofun

/-- The modules that hooks may request and nobody has requested so far. -/
def unrequested (hooks : Hooks) (loader : Loader) : List String :=
  hooks.mentioned.filter fun url => !loader.requested.contains url

/-- A hook requests modules that are mentioned. -/
theorem mem_mentioned (h : other ∈ (hooks.hook url).enqueue) : other ∈ hooks.mentioned := by
  unfold Hooks.hook at h
  cases hhook : Table.get? url hooks with
  | none =>
      rw [hhook] at h
      cases h
  | some hook =>
      rw [hhook] at h
      have hmem := Table.mem_of_get? hhook
      exact List.mem_flatMap.mpr ⟨_, hmem, h⟩

/-- Modules that join were not requested before. -/
theorem length_unrequested_le {loader loader' : Loader} {joined : List String}
    (hrequested : loader'.requested = loader.requested ++ joined)
    (hnodup : loader'.requested.Nodup) (hmentioned : ∀ url ∈ joined, url ∈ hooks.mentioned) :
    (hooks.unrequested loader').length + joined.length ≤ (hooks.unrequested loader).length := by
  rw [hrequested] at hnodup
  obtain ⟨_, hjoined, hdisjoint⟩ := List.nodup_append.mp hnodup
  have hrest : hooks.unrequested loader' =
      (hooks.unrequested loader).filter fun url => !joined.contains url := by
    unfold unrequested
    rw [List.filter_filter, hrequested]
    refine List.filter_congr fun url _ => ?_
    simp [Bool.and_comm]
  have hsubset : joined ⊆ (hooks.unrequested loader).filter fun url => joined.contains url := by
    intro url hurl
    have hnew : url ∉ loader.requested := fun hold => hdisjoint url hold url hurl rfl
    simp [unrequested, hurl, hnew, hmentioned url hurl]
  have hlength := (hjoined.subperm hsubset).length_le
  have hsplit := (List.filter_append_perm (fun url => joined.contains url)
    (hooks.unrequested loader)).length_eq
  rw [List.length_append, ← hrest] at hsplit
  omega

end Hooks

namespace Plan

/-- What holds of the modules of a start while they are gathered. -/
structure Gathers (outcomes : Outcomes) (hooks : Hooks) (registry : Registry) (plan : Plan)
    (loader : Loader) (cache : Cache) : Prop where
  balances : ∃ failures, loader.Balances failures
  requested : ∃ joined, loader.requested = plan.requested ++ joined ∧
    ∀ url ∈ joined, url ∈ hooks.mentioned
  needed : ∀ url ∈ loader.requested, plan.Needs outcomes hooks url
  loaded : ∀ m ∈ loader.modules, cache.outcome? m.url = some (.ok m.resource)
  passed : ∀ m ∈ loader.modules, (hooks.hook m.url).ending = .done ∧
    ∀ url ∈ (hooks.hook m.url).enqueue, url ∈ loader.requested
  declared : loader.failure = none →
    (registry.declareAll (hooks.declarations (loader.modules.map Module.url))).2 = .ok ()
  fails : loader.failure ≠ none → plan.Fails outcomes hooks registry

variable {outcomes : Outcomes} {delays : String → Nat} {hooks : Hooks} {registry : Registry}
  {plan : Plan} {loader : Loader} {cache cache' : Cache} {url : String}

/-- A start requests the modules that it is told to load. -/
theorem mem_requested : url ∈ plan.requested ↔ url ∈ plan.modules := by
  unfold requested
  rw [Loader.mem_requested_enqueue_all]
  simp [Loader.empty]

/-- In the beginning all requested modules are outstanding. -/
theorem gathers_start (outcomes : Outcomes) (hooks : Hooks) (registry : Registry) (plan : Plan)
    (cache : Cache) :
    plan.Gathers outcomes hooks registry (Loader.empty.enqueueAll plan.modules) cache ∧
      (Loader.empty.enqueueAll plan.modules).outstanding = plan.requested := by
  obtain ⟨joined, _, hrequested, houtstanding, hmodules, hfailure⟩ :=
    Loader.enqueue_all_joins Loader.empty plan.modules
  refine ⟨⟨⟨[], Loader.balances_empty.enqueue_all plan.modules⟩,
    ⟨[], (List.append_nil _).symm, nofun⟩, fun url hurl => .requested (mem_requested.mp hurl),
    ?_, ?_, ?_, ?_⟩, houtstanding.trans hrequested.symm⟩
  · rw [hmodules]
    exact nofun
  · rw [hmodules]
    exact nofun
  · rw [hmodules]
    exact fun _ => rfl
  · rw [hfailure]
    exact fun hne => (hne rfl).elim

/-- No module is outstanding twice. -/
theorem Gathers.nodup_outstanding (h : plan.Gathers outcomes hooks registry loader cache) :
    loader.outstanding.Nodup := by
  obtain ⟨failures, hbalances⟩ := h.balances
  exact (List.nodup_append.mp hbalances.nodup_phases).1

/-- The number of modules that may be outstanding at the same time: those requested at once, and
those that hooks mention. -/
def places (hooks : Hooks) (plan : Plan) : Nat :=
  plan.requested.length + hooks.mentioned.length

/-- There is a place for every outstanding module. -/
theorem Gathers.length_outstanding_le (h : plan.Gathers outcomes hooks registry loader cache) :
    loader.outstanding.length ≤ plan.places hooks := by
  obtain ⟨failures, hbalances⟩ := h.balances
  obtain ⟨joined, hrequested, hmentioned⟩ := h.requested
  have hlength := hbalances.requested.length_eq
  have hnodup := hbalances.nodup
  rw [hrequested] at hlength hnodup
  have hjoined := (List.nodup_append.mp hnodup).2.1
  have hle := (hjoined.subperm fun url hurl => hmentioned url hurl).length_le
  rw [List.length_append, List.length_append] at hlength
  unfold places
  omega

/-- Without a failure the balance has none. -/
theorem Gathers.balances_nil (h : plan.Gathers outcomes hooks registry loader cache)
    (hfailure : loader.failure = none) : loader.Balances [] := by
  obtain ⟨failures, hbalances⟩ := h.balances
  rw [hbalances.failure_eq_none_iff] at hfailure
  rw [← hfailure]
  exact hbalances

/-- When no module is outstanding and none has failed, every needed module was requested. -/
theorem Gathers.mem_requested_iff (h : plan.Gathers outcomes hooks registry loader cache)
    (hnone : loader.outstanding = []) (hfailure : loader.failure = none) :
    url ∈ loader.requested ↔ plan.Needs outcomes hooks url := by
  obtain ⟨joined, hrequested, _⟩ := h.requested
  constructor
  · exact h.needed url
  · -- What the hook of a loaded module requests was requested before the module counted as loaded.
    intro hneeds
    induction hneeds with
    | requested hurl =>
        rw [hrequested]
        exact List.mem_append_left _ (mem_requested.mpr hurl)
    | enqueued _ _ hother ih =>
        rw [(h.balances_nil hfailure).mem_requested_of_none hnone] at ih
        obtain ⟨m, hm, rfl⟩ := List.mem_map.mp ih
        exact (h.passed m hm).2 _ hother

/-- When no module is outstanding and none has failed, every needed module is loaded. -/
theorem Gathers.mem_modules_iff (h : plan.Gathers outcomes hooks registry loader cache)
    (hnone : loader.outstanding = []) (hfailure : loader.failure = none) :
    url ∈ loader.modules.map Module.url ↔ plan.Needs outcomes hooks url := by
  rw [← (h.balances_nil hfailure).mem_requested_of_none hnone, h.mem_requested_iff hnone hfailure]

/-- The gathered modules stay right while the cache gains outcomes. -/
theorem Gathers.mono (h : plan.Gathers outcomes hooks registry loader cache)
    (hkeeps : ∀ url outcome, cache.outcome? url = some outcome →
      cache'.outcome? url = some outcome) :
    plan.Gathers outcomes hooks registry loader cache' :=
  { h with loaded := fun m hm => hkeeps m.url _ (h.loaded m hm) }

/-- The gathered modules stay right in a poll. -/
theorem Gathers.polled {transport : Transport} {client : Client} {s s' : Session}
    (h : plan.Gathers outcomes hooks registry loader s.cache)
    (hpolled : s.Polled transport client url s') :
    plan.Gathers outcomes hooks registry loader s'.cache := by
  refine h.mono fun other outcome hother => ?_
  rw [Cache.outcome?_eq_some] at hother ⊢
  exact hpolled.settled_stays hother

/-- The order of the outstanding modules does not matter. -/
theorem Gathers.reorder (h : plan.Gathers outcomes hooks registry loader cache)
    (position rounds : Nat) :
    plan.Gathers outcomes hooks registry (loader.reorder position rounds) cache := by
  obtain ⟨failures, hbalances⟩ := h.balances
  exact ⟨⟨failures, hbalances.reorder position rounds⟩, h.requested, h.needed, h.loaded, h.passed,
    h.declared, h.fails⟩

/-- It does not matter which modules are watched. -/
theorem Gathers.watch (h : plan.Gathers outcomes hooks registry loader cache)
    (unwatched : List String) :
    plan.Gathers outcomes hooks registry { loader with unwatched := unwatched } cache := by
  obtain ⟨failures, hbalances⟩ := h.balances
  exact ⟨⟨failures, hbalances.requested, hbalances.nodup, hbalances.failure, hbalances.crashed⟩,
    h.requested, h.needed, h.loaded, h.passed, h.declared, h.fails⟩

/-- The hook of a needed module requests further modules. -/
theorem Gathers.enqueue_all (h : plan.Gathers outcomes hooks registry loader cache)
    (url : String)
    (hneeded : ∀ other ∈ (hooks.hook url).enqueue, plan.Needs outcomes hooks other) :
    plan.Gathers outcomes hooks registry (loader.enqueueAll (hooks.hook url).enqueue) cache := by
  obtain ⟨failures, hbalances⟩ := h.balances
  obtain ⟨first, hfirst, hmentioned⟩ := h.requested
  obtain ⟨joined, hjoined, hrequested, _, hmodules, hfailure⟩ :=
    loader.enqueue_all_joins (hooks.hook url).enqueue
  refine ⟨⟨failures, hbalances.enqueue_all _⟩, ⟨first ++ joined, ?_, ?_⟩, ?_, ?_, ?_, ?_, ?_⟩
  · rw [hrequested, hfirst, List.append_assoc]
  · intro other hother
    rcases List.mem_append.mp hother with hother | hother
    · exact hmentioned other hother
    · exact Hooks.mem_mentioned (hjoined other hother)
  · intro other hother
    rcases Loader.mem_requested_enqueue_all.mp hother with hother | hother
    · exact h.needed other hother
    · exact hneeded other hother
  · rw [hmodules]
    exact h.loaded
  · rw [hmodules]
    intro m hm
    obtain ⟨hdone, hasked⟩ := h.passed m hm
    refine ⟨hdone, fun other hother => ?_⟩
    exact Loader.mem_requested_enqueue_all.mpr (.inl (hasked other hother))
  · rw [hmodules, hfailure]
    exact h.declared
  · rw [hfailure]
    exact h.fails

/-- An outstanding module that passes its hook is loaded. -/
theorem Gathers.finish (h : plan.Gathers outcomes hooks registry loader cache) {m : Module}
    (hurl : m.url ∈ loader.outstanding) (hloaded : cache.outcome? m.url = some (.ok m.resource))
    (hdone : (hooks.hook m.url).ending = .done)
    (hasked : ∀ other ∈ (hooks.hook m.url).enqueue, other ∈ loader.requested)
    (hdeclared : loader.failure = none → (registry.declareAll
      (hooks.declarations ((loader.modules ++ [m]).map Module.url))).2 = .ok ()) :
    plan.Gathers outcomes hooks registry (loader.finish m) cache := by
  obtain ⟨failures, hbalances⟩ := h.balances
  refine ⟨⟨failures, hbalances.finish hurl⟩, h.requested, h.needed, ?_, ?_, hdeclared, h.fails⟩
  · intro other hother
    rcases List.mem_append.mp hother with hother | hother
    · exact h.loaded other hother
    · rw [List.mem_singleton.mp hother]
      exact hloaded
  · intro other hother
    rcases List.mem_append.mp hother with hother | hother
    · exact h.passed other hother
    · rw [List.mem_singleton.mp hother]
      exact ⟨hdone, hasked⟩

/-- An outstanding module fails, and the start with it. -/
theorem Gathers.fail_module (h : plan.Gathers outcomes hooks registry loader cache)
    (e : ResourceError) (hurl : url ∈ loader.outstanding)
    (hfails : plan.Fails outcomes hooks registry) :
    plan.Gathers outcomes hooks registry (loader.failModule url e) cache := by
  obtain ⟨failures, hbalances⟩ := h.balances
  refine ⟨⟨failures ++ [(url, e)], hbalances.failModule e hurl⟩, h.requested, h.needed, h.loaded,
    h.passed, ?_, fun _ => hfails⟩
  intro hnone
  have hsome : loader.failure.or (some (Loader.failureOf url e)) = none := hnone
  cases hfailure : loader.failure <;> simp [hfailure] at hsome

/-- An outstanding module is needed. -/
theorem Gathers.needs (h : plan.Gathers outcomes hooks registry loader cache)
    (hurl : url ∈ loader.outstanding) : plan.Needs outcomes hooks url := by
  obtain ⟨failures, hbalances⟩ := h.balances
  exact h.needed url (hbalances.mem_requested_iff.mpr (.inl hurl))

/-- If the hook of a module declares a type that is declared already, the start comes to nothing:
its hooks declare that type twice in every order. -/
theorem Gathers.fails_of_declare (h : plan.Gathers outcomes hooks registry loader cache)
    (hfailure : loader.failure = none) (hurl : url ∈ loader.outstanding) {name : String}
    {factory : Factory} {e : StructureError}
    (hdeclare : (hooks.hook url).declare = some (name, factory))
    (herror : (hooks.declared registry (loader.modules.map Module.url)).declare name factory =
      .error e) : plan.Fails outcomes hooks registry := by
  intro needed root stylesheet hassembles
  obtain ⟨failures, hbalances⟩ := h.balances
  have hphases := hbalances.nodup_phases
  rw [← List.append_assoc] at hphases
  obtain ⟨_, hloaded, hdisjoint⟩ := List.nodup_append.mp (List.nodup_append.mp hphases).1
  have hnodup : (loader.modules.map Module.url ++ [url]).Nodup := by
    refine List.nodup_append.mpr ⟨hloaded, List.nodup_singleton url, ?_⟩
    intro other hother last hlast heq
    rw [List.mem_singleton.mp hlast] at heq
    exact hdisjoint url hurl other hother heq.symm
  have hsubset : loader.modules.map Module.url ++ [url] ⊆ needed := by
    intro other hother
    rw [hassembles.complete]
    rcases List.mem_append.mp hother with hother | hother
    · refine h.needed other (hbalances.mem_requested_iff.mpr (.inr (.inl ?_)))
      exact List.mem_map.mp hother
    · rw [List.mem_singleton.mp hother]
      exact h.needs hurl
  -- The declarations of all needed modules may be made in any order, so these come first.
  obtain ⟨front, hfront, hsublist⟩ := hnodup.subperm hsubset
  obtain ⟨rest, hperm⟩ := hsublist.exists_perm_append
  have hdeclarations : (hooks.declarations needed).Perm
      ((hooks.declarations (loader.modules.map Module.url) ++ [(name, factory)]) ++
        hooks.declarations rest) := by
    have hall := (hperm.trans (hfront.append_right rest)).filterMap
      fun url => (hooks.hook url).declare
    rw [List.filterMap_append] at hall
    have hconcat := hooks.declarations_concat (loader.modules.map Module.url) url
    rw [hdeclare, Option.toList_some] at hconcat
    rw [← hconcat]
    exact hall
  obtain ⟨hdeclared, _⟩ := Registry.declare_all_perm hdeclarations hassembles.declared
  rw [List.append_assoc, Registry.declare_all_append (h.declared hfailure),
    List.singleton_append, Registry.declareAll] at hdeclared
  unfold Hooks.declared at herror
  rw [herror] at hdeclared
  cases hdeclared

end Plan

/-! ## Arrivals -/

namespace Gui

open Session

variable {outcomes : Outcomes} {delays : String → Nat} {hooks : Hooks} {registry : Registry}
  {plan : Plan} {g : Gui}

/-- A registry with the types that the hooks of the loaded modules declare. -/
def extension (hooks : Hooks) (registry : Registry) (g : Gui) : Registry :=
  hooks.declared registry (g.loader.modules.map Module.url)

/-- The registry has the types that the loaded modules declare, unless a module has failed. -/
def HasDeclared (hooks : Hooks) (registry : Registry) (g : Gui) : Prop :=
  g.loader.failure = none → g.registry = g.extension hooks registry

/-- A module leaves: those that its hook requests join the others, and all is as it should be. -/
structure Departs (outcomes : Outcomes) (hooks : Hooks) (registry : Registry) (plan : Plan)
    (g : Gui) (url : String) (joined : List String) (g' : Gui) : Prop where
  gathers : plan.Gathers outcomes hooks registry g'.loader g.session.cache
  declared : g'.HasDeclared hooks registry
  session : ∃ log, g'.session = { g.session with log := log }
  outstanding : g'.loader.outstanding = g.loader.outstanding.erase url ++ joined
  requested : g'.loader.requested = g.loader.requested ++ joined
  mentioned : ∀ other ∈ joined, other ∈ hooks.mentioned

/-- A module fails, and the start with it. -/
theorem departs_fail {url : String}
    (h : plan.Gathers outcomes hooks registry g.loader g.session.cache) (registry' : Registry)
    (e : ResourceError) (hurl : url ∈ g.loader.outstanding)
    (hfails : plan.Fails outcomes hooks registry) :
    g.Departs outcomes hooks registry plan url []
      ({ g with registry := registry' }.failModule url e) where
  gathers := h.fail_module e hurl hfails
  declared := by
    intro hnone
    have hsome : g.loader.failure.or (some (Loader.failureOf url e)) = none := hnone
    cases hfailure : g.loader.failure <;> simp [hfailure] at hsome
  session := ⟨_, rfl⟩
  outstanding := (List.append_nil _).symm
  requested := (List.append_nil _).symm
  mentioned := nofun

/-- A module that has passed its hook is loaded. -/
theorem departs_finish {m : Module} {registry' : Registry}
    (h : plan.Gathers outcomes hooks registry g.loader g.session.cache)
    (hdeclared : g.HasDeclared hooks registry) (hurl : m.url ∈ g.loader.outstanding)
    (hloaded : g.session.cache.outcome? m.url = some (.ok m.resource))
    (hdone : (hooks.hook m.url).ending = .done)
    (hasked : ∀ other ∈ (hooks.hook m.url).enqueue, other ∈ g.loader.requested)
    (hdeclare : g.registry.declareAll (hooks.hook m.url).declare.toList = (registry', .ok ())) :
    g.Departs outcomes hooks registry plan m.url []
      { g with registry := registry', loader := g.loader.finish m } := by
  have hall : g.loader.failure = none → registry.declareAll
      (hooks.declarations ((g.loader.modules ++ [m]).map Module.url)) = (registry', .ok ()) := by
    intro hnone
    have hregistry := hdeclared hnone
    unfold extension Hooks.declared at hregistry
    rw [List.map_append, List.map_singleton, hooks.declarations_concat,
      Registry.declare_all_append (h.declared hnone), ← hregistry]
    exact hdeclare
  refine ⟨h.finish hurl hloaded hdone hasked fun hnone => ?_, fun hnone => ?_, ⟨_, rfl⟩,
    (List.append_nil _).symm, (List.append_nil _).symm, nofun⟩
  · rw [hall hnone]
  · exact (congrArg Prod.fst (hall hnone)).symm

/-- A hook declares its type, or the type is declared already. -/
theorem declare_cases (g : Gui) (url : String) (declaration : Option (String × Factory)) :
    (∃ registry', g.registry.declareAll declaration.toList = (registry', .ok ()) ∧
      g.declare url declaration = .ok { g with registry := registry' }) ∨
    ∃ name factory e e', declaration = some (name, factory) ∧
      g.registry.declare name factory = .error e ∧ g.declare url declaration = .error e' := by
  cases declaration with
  | none => exact .inl ⟨g.registry, rfl, rfl⟩
  | some declared =>
      obtain ⟨name, factory⟩ := declared
      cases hdeclare : g.registry.declare name factory with
      | ok registry' =>
          refine .inl ⟨registry', ?_, ?_⟩
          · rw [Option.toList_some, Registry.declareAll, hdeclare]
            rfl
          · rw [Gui.declare, hdeclare]
      | error e =>
          refine .inr ⟨name, factory, e, .moduleLoad url e.message, rfl, hdeclare, ?_⟩
          rw [Gui.declare, hdeclare]

/-- What the hook of a module does after its requests. -/
def settle (hooks : Hooks) (g : Gui) (m : Module) : Gui :=
  match g.declare m.url (hooks.hook m.url).declare with
  | .error e => g.failModule m.url e
  | .ok g =>
      match (hooks.hook m.url).ending with
      | .done => { g with loader := g.loader.finish m }
      | .crashes => { g with loader := g.loader.crash m.url }
      | .fails e => g.failModule m.url e

/-- The hook of a module makes its requests first. -/
theorem arrive_eq (hooks : Hooks) (g : Gui) (m : Module) :
    g.arrive hooks m =
      { g with loader := g.loader.enqueueAll (hooks.hook m.url).enqueue }.settle hooks m :=
  rfl

/-- A module leaves when its hook has made its requests and does the rest. -/
theorem settle_departs {m : Module}
    (h : plan.Gathers outcomes hooks registry g.loader g.session.cache)
    (hdeclared : g.HasDeclared hooks registry) (hcrash : (hooks.hook m.url).ending ≠ .crashes)
    (hurl : m.url ∈ g.loader.outstanding)
    (hloaded : g.session.cache.outcome? m.url = some (.ok m.resource))
    (hasked : ∀ other ∈ (hooks.hook m.url).enqueue, other ∈ g.loader.requested) :
    g.Departs outcomes hooks registry plan m.url [] (g.settle hooks m) := by
  unfold settle
  rcases g.declare_cases m.url (hooks.hook m.url).declare with
    ⟨registry', hdeclare, heq⟩ | ⟨name, factory, e, e', hsome, herror, heq⟩
  · rw [heq]
    dsimp only
    cases hending : (hooks.hook m.url).ending with
    | crashes => exact (hcrash hending).elim
    | done => exact departs_finish h hdeclared hurl hloaded hending hasked hdeclare
    | fails e =>
        refine departs_fail h registry' e hurl ?_
        intro needed root stylesheet hassembles
        have hpassed := hassembles.passed m.url ((hassembles.complete _).mpr (h.needs hurl))
        rw [hending] at hpassed
        cases hpassed
  · rw [heq]
    refine departs_fail h g.registry e' hurl ?_
    by_cases hnone : g.loader.failure = none
    · rw [hdeclared hnone] at herror
      exact h.fails_of_declare hnone hurl hsome herror
    · exact h.fails hnone

/-- A module arrives and leaves, and those that its hook requests join the others. -/
theorem arrive_departs {m : Module} {fetched : Fetched}
    (h : plan.Gathers outcomes hooks registry g.loader g.session.cache)
    (hdeclared : g.HasDeclared hooks registry) (hcrash : (hooks.hook m.url).ending ≠ .crashes)
    (hurl : m.url ∈ g.loader.outstanding)
    (hloaded : g.session.cache.outcome? m.url = some (.ok m.resource))
    (hfetched : outcomes m.url = .ok fetched) :
    ∃ joined, g.Departs outcomes hooks registry plan m.url joined (g.arrive hooks m) := by
  obtain ⟨joined, hjoined, hrequested, houtstanding, hmodules, hfailure⟩ :=
    g.loader.enqueue_all_joins (hooks.hook m.url).enqueue
  have hgathers := h.enqueue_all m.url fun other hother =>
    .enqueued (h.needs hurl) hfetched hother
  -- The requests of the hook change neither the loaded modules nor the failure.
  have hdeclared' : HasDeclared hooks registry
      { g with loader := g.loader.enqueueAll (hooks.hook m.url).enqueue } := by
    intro hnone
    dsimp only at hnone ⊢
    rw [hfailure] at hnone
    unfold extension
    rw [hmodules]
    exact hdeclared hnone
  have hurl' : m.url ∈ (g.loader.enqueueAll (hooks.hook m.url).enqueue).outstanding := by
    rw [houtstanding]
    exact List.mem_append_left _ hurl
  have hdeparts := settle_departs hgathers hdeclared' hcrash hurl' hloaded fun other hother =>
    Loader.mem_requested_enqueue_all.mpr (.inr hother)
  rw [arrive_eq]
  refine ⟨joined, hdeparts.gathers, hdeparts.declared, hdeparts.session, ?_, ?_, ?_⟩
  · refine hdeparts.outstanding.trans ?_
    dsimp only
    rw [houtstanding, List.append_nil, List.erase_append_left _ hurl]
  · refine hdeparts.requested.trans ?_
    dsimp only
    rw [hrequested, List.append_nil]
  · exact fun other hother => Hooks.mem_mentioned (hjoined other hother)

/-! ## Rounds -/

/-- The loads of modules. -/
def loadsOf (urls : List String) : List (Client × String) :=
  urls.map fun url => (Client.loader, url)

/-- What a poll of an outstanding module does: the module stays, or it leaves with an outcome. -/
theorem poll_module_cases (delays : String → Nat) {url : String} (hcrash : hooks.NeverCrash)
    (hcoherent : g.session.IsCoherent outcomes)
    (h : plan.Gathers outcomes hooks registry g.loader g.session.cache)
    (hdeclared : g.HasDeclared hooks registry) (hurl : url ∈ g.loader.outstanding) :
    ∃ s, g.session.Polled (outcomes.after delays) Client.loader url s ∧
      ((s.cache.outcome? url = none ∧
          g.pollModule (outcomes.after delays) hooks url = ({ g with session := s }, true)) ∨
        ∃ outcome joined g', s.cache.outcome? url = some outcome ∧
          g.pollModule (outcomes.after delays) hooks url = (g', false) ∧
          Departs outcomes hooks registry plan { g with session := s } url joined g') := by
  have hpolled := poll_polled (outcomes.after delays) Client.loader url g.session
  have hgathers := h.polled hpolled
  have hcoherent' := hcoherent.polled hpolled
  refine ⟨_, hpolled, ?_⟩
  rw [← poll_outcome]
  have houtcome := poll_outcome (outcomes.after delays) Client.loader url g.session
  unfold pollModule
  generalize g.session.poll (outcomes.after delays) Client.loader url = polled
    at hgathers houtcome hcoherent' ⊢
  obtain ⟨s, outcome⟩ := polled
  dsimp only at hgathers houtcome hcoherent' ⊢
  cases outcome with
  | none => exact .inl ⟨rfl, rfl⟩
  | some outcome =>
      right
      have hgives := hcoherent'.faithful url outcome houtcome.symm
      cases outcome with
      | error e =>
          obtain ⟨cause, hcause, _⟩ := hgives
          refine ⟨_, [], _, rfl, rfl,
            departs_fail (g := { g with session := s }) hgathers g.registry e hurl ?_⟩
          intro needed root stylesheet hassembles
          obtain ⟨fetched, hfetched⟩ :=
            hassembles.fetched url ((hassembles.complete url).mpr (h.needs hurl))
          rw [hcause] at hfetched
          cases hfetched
      | ok resource =>
          obtain ⟨fetched, hfetched, _⟩ := hgives
          obtain ⟨joined, hdeparts⟩ := arrive_departs (g := { g with session := s })
            (m := ⟨url, resource⟩) hgathers hdeclared (hcrash url) hurl houtcome.symm hfetched
          exact ⟨_, joined, _, rfl, rfl, hdeparts⟩

/-- A module leaves its place among the outstanding ones. -/
theorem outstanding_leave {loader : Loader} {url : String} {before after : List String}
    (hnodup : loader.outstanding.Nodup)
    (houtstanding : loader.outstanding = before ++ url :: after) :
    loader.outstanding.erase url = before ++ after := by
  rw [houtstanding] at hnodup ⊢
  have hbefore : url ∉ before := by
    intro hmem
    exact (List.nodup_append.mp hnodup).2.2 url hmem url List.mem_cons_self rfl
  rw [List.erase_append_right _ hbefore, List.erase_cons_head]

/-- What polling modules comes to: all of them and those that have joined are swept, as far as the
turns reach. If any have joined, one has left. -/
structure PollsModules (outcomes : Outcomes) (delays : String → Nat) (hooks : Hooks)
    (registry : Registry) (plan : Plan) (turns : Nat) (before after : List String) (g : Gui)
    (rest joined : List String) (g' : Gui) : Prop where
  sweeps : Sweep (outcomes.after delays) g.session (loadsOf ((after ++ joined).take turns))
    g'.session (loadsOf rest)
  outstanding : g'.loader.outstanding = before ++ (rest ++ (after ++ joined).drop turns)
  gathers : plan.Gathers outcomes hooks registry g'.loader g'.session.cache
  declared : g'.HasDeclared hooks registry
  requested : g'.loader.requested = g.loader.requested ++ joined
  mentioned : ∀ url ∈ joined, url ∈ hooks.mentioned
  left : joined = [] ∨ rest.length < ((after ++ joined).take turns).length

/-- A module without an outcome remains in its place, and the modules behind it are polled. -/
theorem PollsModules.waiting {turns : Nat} {before after rest joined : List String} {url : String}
    {s : Session} {g' : Gui}
    (hpolled : g.session.Polled (outcomes.after delays) Client.loader url s)
    (hnone : s.cache.outcome? url = none)
    (hpolls : PollsModules outcomes delays hooks registry plan turns (before ++ [url]) after
      { g with session := s } rest joined g') :
    PollsModules outcomes delays hooks registry plan (turns + 1) before (url :: after) g
      (url :: rest) joined g' where
  sweeps := .waiting hpolled hnone hpolls.sweeps
  outstanding := by simpa using hpolls.outstanding
  gathers := hpolls.gathers
  declared := hpolls.declared
  requested := hpolls.requested
  mentioned := hpolls.mentioned
  left := hpolls.left.imp id Nat.succ_lt_succ

/-- A module with an outcome leaves, and the next one comes into its place. The modules that its
hook requests stand behind all others. -/
theorem PollsModules.leaving {turns : Nat} {before after rest first joined : List String}
    {url : String} {s : Session} {outcome : Loaded} {g₁ g' : Gui}
    (hpolled : g.session.Polled (outcomes.after delays) Client.loader url s)
    (houtcome : s.cache.outcome? url = some outcome)
    (hdeparts : Departs outcomes hooks registry plan { g with session := s } url first g₁)
    (hpolls : PollsModules outcomes delays hooks registry plan turns before (after ++ first) g₁
      rest joined g') :
    PollsModules outcomes delays hooks registry plan (turns + 1) before (url :: after) g rest
      (first ++ joined) g' := by
  obtain ⟨log, hlog⟩ := hdeparts.session
  have hsweeps := hpolls.sweeps
  have houtstanding := hpolls.outstanding
  rw [List.append_assoc] at hsweeps houtstanding
  rw [hlog] at hsweeps
  refine ⟨.arrived outcome hpolled houtcome (.noted log hsweeps), houtstanding, hpolls.gathers,
    hpolls.declared, ?_, ?_, .inr ?_⟩
  · rw [hpolls.requested, hdeparts.requested, List.append_assoc]
  · intro other hother
    rcases List.mem_append.mp hother with hother | hother
    · exact hdeparts.mentioned other hother
    · exact hpolls.mentioned other hother
  · have hlength := hsweeps.length_le
    unfold loadsOf at hlength
    rw [List.length_map, List.length_map] at hlength
    exact Nat.lt_succ_of_le hlength

/-- Outstanding modules are swept from a position on, as far as the turns reach. Those without an
outcome remain in their places. -/
theorem poll_modules_from_sweeps (delays : String → Nat) (turns : Nat)
    {before after : List String} (hcrash : hooks.NeverCrash)
    (hcoherent : g.session.IsCoherent outcomes)
    (h : plan.Gathers outcomes hooks registry g.loader g.session.cache)
    (hdeclared : g.HasDeclared hooks registry)
    (houtstanding : g.loader.outstanding = before ++ after) :
    ∃ g' rest joined,
      g.pollModulesFrom (outcomes.after delays) hooks turns before.length =
        (g', before.length + rest.length) ∧
      PollsModules outcomes delays hooks registry plan turns before after g rest joined g' := by
  induction turns generalizing g before after with
  | zero =>
      exact ⟨g, [], [], rfl, .nil _, by simpa using houtstanding, h, hdeclared,
        (List.append_nil _).symm, nofun, .inl rfl⟩
  | succ turns ih =>
      cases after with
      | nil =>
          have hnone : g.loader.outstanding[before.length]? = none := by
            simp [houtstanding]
          refine ⟨g, [], [], ?_, .nil _, houtstanding, h, hdeclared, (List.append_nil _).symm,
            nofun, .inl rfl⟩
          rw [pollModulesFrom, hnone]
          rfl
      | cons url after =>
          have hsome : g.loader.outstanding[before.length]? = some url := by
            simp [houtstanding]
          have hurl : url ∈ g.loader.outstanding := by
            simp [houtstanding]
          rw [pollModulesFrom, hsome]
          dsimp only
          obtain ⟨s, hpolled, ⟨hnone, hstays⟩ |
            ⟨outcome, first, g₁, houtcome, hleft, hdeparts⟩⟩ :=
              poll_module_cases delays hcrash hcoherent h hdeclared hurl
          · -- The module stays, and the next one is behind it.
            have hplaces : g.loader.outstanding = (before ++ [url]) ++ after := by
              simp [houtstanding]
            obtain ⟨g', rest, joined, hlater, hpolls⟩ := ih (g := { g with session := s })
              (hcoherent.polled hpolled) (h.polled hpolled) hdeclared hplaces
            refine ⟨g', url :: rest, joined, ?_, hpolls.waiting hpolled hnone⟩
            rw [List.length_append, List.length_singleton, Nat.add_right_comm] at hlater
            rw [hstays]
            exact hlater
          · -- The module has left, and the next one has come into its place.
            obtain ⟨log, hlog⟩ := hdeparts.session
            have hplaces : g₁.loader.outstanding = before ++ (after ++ first) := by
              rw [← List.append_assoc, ← outstanding_leave h.nodup_outstanding houtstanding]
              exact hdeparts.outstanding
            have hcoherent₁ : g₁.session.IsCoherent outcomes := by
              have hcoherent' := hcoherent.polled hpolled
              rw [hlog]
              exact ⟨hcoherent'.numbered, hcoherent'.faithful⟩
            have hgathers₁ : plan.Gathers outcomes hooks registry g₁.loader g₁.session.cache := by
              rw [hlog]
              exact hdeparts.gathers
            obtain ⟨g', rest, joined, hlater, hpolls⟩ :=
              ih hcoherent₁ hgathers₁ hdeparts.declared hplaces
            refine ⟨g', rest, first ++ joined, ?_, hpolls.leaving hpolled houtcome hdeparts⟩
            rw [hleft]
            exact hlater

/-- Outstanding modules in front are swept in a round. Those without an outcome remain in front. -/
theorem poll_modules_sweeps (delays : String → Nat) (hcrash : hooks.NeverCrash)
    (hcoherent : g.session.IsCoherent outcomes)
    (h : plan.Gathers outcomes hooks registry g.loader g.session.cache)
    (hdeclared : g.HasDeclared hooks registry) :
    ∃ g' rest joined,
      g.pollModules (outcomes.after delays) hooks = (g', rest.length) ∧
      PollsModules outcomes delays hooks registry plan turns [] g.loader.outstanding g rest joined
        g' := by
  have houtstanding : g.loader.outstanding = [] ++ g.loader.outstanding := rfl
  obtain ⟨g', rest, joined, hpolled, hpolls⟩ :=
    poll_modules_from_sweeps delays turns hcrash hcoherent h hdeclared houtstanding
  rw [List.length_nil, Nat.zero_add] at hpolled
  exact ⟨g', rest, joined, hpolled, hpolls⟩

/-- Where no module is outstanding, none is polled. -/
theorem poll_modules_of_none {transport : Transport} (hnone : g.loader.outstanding = []) :
    g.pollModules transport hooks = (g, 0) := by
  unfold pollModules turns
  rw [pollModulesFrom, hnone]
  rfl

end Gui

end Widgetry
