import Mathlib.Data.List.Basic
import Widgetry.Proofs.Startup.Pages

/-!
# The page does not depend on timing

If every fetch has a fixed outcome, a start without hooks succeeds exactly if all modules, the
structure and the stylesheet can be had and all media of the root can be played, and the page is
printed as one in which every content stands in its place: `run_refines_page`. Delays decide in
which order resources get their handles, but no handle is printed. So two starts with other delays
print the same page: `run_timing_independent`.
-/

namespace Widgetry

open Session

/-- A module as its fetch brings it. -/
def Outcomes.module? (outcomes : Outcomes) (url : String) : Option Module :=
  match outcomes.loaded url with
  | .ok resource => some ⟨url, resource⟩
  | .error _ => none

namespace Plan

/-- All modules are fetched, the root is resolved, and the stylesheet is read, without any hooks. -/
structure Prepares (outcomes : Outcomes) (registry : Registry) (plan : Plan) (root : Widget)
    (stylesheet : Stylesheet) : Prop where
  modules : ∀ url ∈ plan.requested, ∃ fetched, outcomes url = .ok fetched
  root : plan.root outcomes registry = .ok root
  stylesheet : Stylesheet.ofLoaded plan.stylesheetUrl (outcomes.loaded plan.stylesheetUrl) =
    .ok stylesheet

/-- The page of a start, with all contents in their places. -/
def page (outcomes : Outcomes) (plan : Plan) (root : Widget) (stylesheet : Stylesheet) : Page :=
  ⟨Page.titleOf plan.name, some stylesheet, plan.requested.filterMap outcomes.module?,
    root.draw outcomes.medium?⟩

variable {outcomes : Outcomes} {delays : String → Nat} {support : MediaSupport}
  {registry : Registry} {plan : Plan} {root : Widget} {stylesheet : Stylesheet} {g : Gui}
  {s : Session}

/-! ## Modules -/

/-- Without hooks, a start needs the modules that it is told to load. -/
theorem needs_iff {url : String} : plan.Needs outcomes [] url ↔ url ∈ plan.requested := by
  rw [mem_requested]
  constructor
  · intro hneeds
    cases hneeds with
    | requested hurl => exact hurl
    | enqueued _ _ hother => cases hother
  · exact .requested

/-- Without hooks, no types are declared. -/
theorem declarations_nil (urls : List String) : Hooks.declarations [] urls = [] :=
  List.filterMap_eq_nil_iff.mpr fun _ _ => rfl

/-- A start without hooks that can be assembled can be prepared. -/
theorem Assembles.prepares {needed : List String}
    (h : plan.Assembles outcomes [] registry needed root stylesheet) :
    plan.Prepares outcomes registry root stylesheet := by
  have hroot := h.root
  unfold Hooks.declared at hroot
  rw [declarations_nil] at hroot
  exact ⟨fun url hurl => h.fetched url ((h.complete url).mpr (needs_iff.mpr hurl)), hroot,
    h.stylesheet⟩

/-- A start without hooks that can be prepared can be assembled. -/
theorem Prepares.assembles (h : plan.Prepares outcomes registry root stylesheet) :
    plan.Assembles outcomes [] registry plan.requested root stylesheet := by
  refine ⟨(Loader.balances_empty.enqueue_all plan.modules).nodup, fun url => needs_iff.symm,
    h.modules, fun _ _ => rfl, ?_, ?_, h.stylesheet⟩
  · rw [declarations_nil]
    rfl
  · unfold Hooks.declared
    rw [declarations_nil]
    exact h.root

/-- How a module is printed depends on its content. -/
theorem module_element_congr {m m' : Module} (hkind : m.resource.kind = m'.resource.kind)
    (hbytes : m.resource.bytes = m'.resource.bytes) :
    Page.moduleElement m = Page.moduleElement m' := by
  unfold Page.moduleElement Module.source Resource.text Resource.dataUri
  rw [hkind, hbytes]
  cases Text.Utf8.decode m'.resource.bytes <;> rfl

/-- The loaded modules are printed as their fetches bring them. -/
theorem module_elements_eq (h : plan.Finishes outcomes [] registry g root stylesheet) :
    g.loader.loaded.map Page.moduleElement =
      (plan.requested.filterMap outcomes.module?).map Page.moduleElement := by
  obtain ⟨joined, hrequested, hmentioned⟩ := h.gathers.requested
  have hnil : joined = [] := List.eq_nil_iff_forall_not_mem.mpr fun url hurl =>
    List.not_mem_nil (hmentioned url hurl)
  rw [hnil, List.append_nil] at hrequested
  have hbalances := h.gathers.balances_nil h.failure
  unfold Loader.loaded
  rw [← hrequested, List.map_filterMap, List.map_filterMap]
  refine List.filterMap_congr fun url hurl => ?_
  rw [hbalances.mem_requested_of_none h.outstanding] at hurl
  obtain ⟨other, hother, hurl⟩ := List.mem_map.mp hurl
  cases hfind : g.loader.module? url with
  | none =>
      have hmissing := List.find?_eq_none.mp hfind other hother
      simp [hurl] at hmissing
  | some m =>
      have hm : m ∈ g.loader.modules := List.mem_of_find?_eq_some hfind
      have hsource : m.url = url := by simpa using List.find?_some hfind
      obtain ⟨fetched, hfetched, _, hkind, hbytes⟩ :=
        h.coherent.faithful m.url _ (h.gathers.loaded m hm)
      rw [hsource] at hfetched hkind
      unfold Outcomes.module? Outcomes.loaded Cache.judge Loaded.ofAnswer
      rw [hfetched]
      exact congrArg some (module_element_congr hkind hbytes)

/-! ## The body -/

/-- A body whose media are loaded has tabs if the one with all contents in place has. -/
theorem of_class_draw (hcoherent : s.IsCoherent outcomes)
    (hloaded : ∀ source ∈ root.sources,
      ∃ resource, s.cache.outcome? source = some (.ok resource)) (className : String) :
    ((root.draw s.media).ofClass className).isEmpty =
      ((root.draw outcomes.medium?).ofClass className).isEmpty := by
  rw [← rewritten_draw_inline hcoherent hloaded, Node.of_class_rewritten, List.isEmpty_map]

/-! ## Runs -/

/-- A page is printed as the one with all contents in their places. -/
theorem html_eq (h : plan.Finishes outcomes [] registry g root stylesheet)
    (hcoherent : s.IsCoherent outcomes)
    (hloaded : ∀ source ∈ root.sources,
      ∃ resource, s.cache.outcome? source = some (.ok resource)) :
    Page.html ⟨Page.titleOf plan.name, some stylesheet, g.loader.loaded, root.draw s.media⟩
        s.cache =
      (plan.page outcomes root stylesheet).html Cache.empty := by
  have hmodules := module_elements_eq h
  have hbody : (root.draw outcomes.medium?).htmlWith Cache.empty.inline =
      (root.draw outcomes.medium?).html := rfl
  unfold Page.html Page.head Page.hasTabs page
  dsimp only
  rw [hmodules, of_class_draw hcoherent hloaded, html_with_inline hcoherent hloaded, hbody]

/-- **A start refines its page.** With fixed outcomes and any delays, a start without hooks succeeds
exactly if it can be prepared and all media of its root can be played. Then its page is printed as
the one in which all contents stand in their places. -/
theorem run_refines_page (outcomes : Outcomes) (delays : String → Nat) (support : MediaSupport)
    (registry : Registry) (plan : Plan) :
    let run := Gui.run (outcomes.after delays) [] support plan ⟨.empty, registry, .empty⟩
    (∀ page, run.2 = some (.ok page) → ∃ root stylesheet,
        plan.Prepares outcomes registry root stylesheet ∧
        (∀ request ∈ root.requests, outcomes.Plays support request) ∧
        page.html run.1.session.cache = (plan.page outcomes root stylesheet).html Cache.empty) ∧
      ∀ root stylesheet, plan.Prepares outcomes registry root stylesheet →
        (∀ request ∈ root.requests, outcomes.Plays support request) →
        ∃ page, run.2 = some (.ok page) := by
  intro run
  rcases run_cases outcomes delays Hooks.never_crash_nil support registry plan with
    ⟨g, e, hanswer, hfails⟩ | ⟨g, page, prepared, root, stylesheet, hanswer, hrenders⟩
  · have hrun : run = (g, some (.error e)) := hanswer
    rw [hrun]
    refine ⟨nofun, fun root stylesheet hprepares hplays => (hfails ?_).elim⟩
    exact succeeds_iff.mpr ⟨_, root, stylesheet, hprepares.assembles, hplays⟩
  · have hrun : run = (g, some (.ok page)) := hanswer
    rw [hrun]
    refine ⟨?_, fun _ _ _ _ => ⟨page, rfl⟩⟩
    intro other hother
    cases hother
    refine ⟨root, stylesheet, hrenders.finishes.assembles.prepares, hrenders.plays, ?_⟩
    rw [hrenders.page_eq]
    exact html_eq hrenders.finishes hrenders.coherent hrenders.loaded

/-- **The page does not depend on timing.** Two starts without hooks that differ in nothing but the
delays of their fetches succeed alike, and print the same page. -/
theorem run_timing_independent (outcomes : Outcomes) (support : MediaSupport) (registry : Registry)
    (plan : Plan) (delays delays' : String → Nat) :
    let run := Gui.run (outcomes.after delays) [] support plan ⟨.empty, registry, .empty⟩
    let run' := Gui.run (outcomes.after delays') [] support plan ⟨.empty, registry, .empty⟩
    ((∃ page, run.2 = some (.ok page)) ↔ ∃ page, run'.2 = some (.ok page)) ∧
      ∀ page page', run.2 = some (.ok page) → run'.2 = some (.ok page') →
        page.html run.1.session.cache = page'.html run'.1.session.cache := by
  intro run run'
  obtain ⟨hsound, hcomplete⟩ := run_refines_page outcomes delays support registry plan
  obtain ⟨hsound', hcomplete'⟩ := run_refines_page outcomes delays' support registry plan
  refine ⟨⟨?_, ?_⟩, ?_⟩
  · intro hsucceeds
    obtain ⟨page, hpage⟩ := hsucceeds
    obtain ⟨root, stylesheet, hprepares, hplays, _⟩ := hsound page hpage
    exact hcomplete' root stylesheet hprepares hplays
  · intro hsucceeds
    obtain ⟨page, hpage⟩ := hsucceeds
    obtain ⟨root, stylesheet, hprepares, hplays, _⟩ := hsound' page hpage
    exact hcomplete root stylesheet hprepares hplays
  · intro page page' hpage hpage'
    obtain ⟨root, stylesheet, hprepares, _, hhtml⟩ := hsound page hpage
    obtain ⟨root', stylesheet', hprepares', _, hhtml'⟩ := hsound' page' hpage'
    obtain rfl : root = root' := Except.ok.inj (hprepares.root.symm.trans hprepares'.root)
    obtain rfl : stylesheet = stylesheet' :=
      Except.ok.inj (hprepares.stylesheet.symm.trans hprepares'.stylesheet)
    exact hhtml.trans hhtml'.symm

end Plan

end Widgetry
