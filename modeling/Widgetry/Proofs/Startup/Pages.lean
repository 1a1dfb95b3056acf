import Widgetry.Proofs.Rendering.Refinement
import Widgetry.Proofs.Rendering.Termination
import Widgetry.Proofs.Startup.Completion
import Widgetry.Proofs.Widgets.Parts

/-!
# The page of a start is whole or tells of a failure

A start whose hooks do not crash always has an answer, and the right one: `run_cases`. If it
succeeds, its page has all that was needed. If it fails, nothing of it remains but the message. The
two kinds of pages are told apart by a title that a user interface may have too, and by the class of
the body, which is the type name of the root. No core widget has the type name `error`, so that they
cannot be confused: `page_is_whole_or_error`.
-/

namespace Widgetry

open Session

/-! ## Runs -/

namespace Plan

/-- What a start needs is there, and its root can be rendered. -/
def Succeeds (outcomes : Outcomes) (hooks : Hooks) (support : MediaSupport) (registry : Registry)
    (plan : Plan) : Prop :=
  ∃ needed root stylesheet drawn,
    plan.Assembles outcomes hooks registry needed root stylesheet ∧
      root.renderDirect outcomes support = .ok drawn

/-- A start that has gathered and resolved all has rendered its root too. -/
structure Renders (outcomes : Outcomes) (hooks : Hooks) (support : MediaSupport)
    (registry : Registry) (plan : Plan) (prepared : Gui) (root : Widget) (stylesheet : Stylesheet)
    (s : Session) (page : Page) : Prop where
  finishes : plan.Finishes outcomes hooks registry prepared root stylesheet
  plays : ∀ request ∈ root.requests, outcomes.Plays support request
  coherent : s.IsCoherent outcomes
  loaded : ∀ source ∈ root.sources, ∃ resource, s.cache.outcome? source = some (.ok resource)
  page_eq : page = ⟨Page.titleOf plan.name, some stylesheet, prepared.loader.loaded,
    root.draw s.media⟩

variable {outcomes : Outcomes} {hooks : Hooks} {support : MediaSupport} {registry : Registry}
  {plan : Plan} {prepared : Gui} {root : Widget} {stylesheet : Stylesheet} {s : Session}
  {page : Page}

/-- A root whose media can be played is rendered directly. -/
theorem succeeds_iff :
    plan.Succeeds outcomes hooks support registry ↔ ∃ needed root stylesheet,
      plan.Assembles outcomes hooks registry needed root stylesheet ∧
        ∀ request ∈ root.requests, outcomes.Plays support request := by
  unfold Succeeds
  constructor
  · rintro ⟨needed, root, stylesheet, drawn, hassembles, hdrawn⟩
    exact ⟨needed, root, stylesheet, hassembles,
      ((Widget.render_direct_eq_ok root drawn).mp hdrawn).1⟩
  · rintro ⟨needed, root, stylesheet, hassembles, hplays⟩
    exact ⟨needed, root, stylesheet, _, hassembles,
      (Widget.render_direct_eq_ok root _).mpr ⟨hplays, rfl⟩⟩

/-- **A start has an answer, and the right one.** Whatever the delays, it succeeds exactly if what
it needs is there and its root can be rendered. -/
theorem run_cases (outcomes : Outcomes) (delays : String → Nat) (hcrash : hooks.NeverCrash)
    (support : MediaSupport) (registry : Registry) (plan : Plan) :
    (∃ g e, Gui.run (outcomes.after delays) hooks support plan ⟨.empty, registry, .empty⟩ =
        (g, some (.error e)) ∧ ¬ plan.Succeeds outcomes hooks support registry) ∨
    ∃ g page prepared root stylesheet,
      Gui.run (outcomes.after delays) hooks support plan ⟨.empty, registry, .empty⟩ =
        (g, some (.ok page)) ∧
      plan.Renders outcomes hooks support registry prepared root stylesheet g.session page := by
  rw [succeeds_iff]
  unfold Gui.run
  obtain ⟨g, answer, hprepare, hanswers⟩ := prepare_answers outcomes delays hcrash registry plan
  rw [hprepare]
  cases answer with
  | error e =>
      refine .inl ⟨g, e, rfl, ?_⟩
      rintro ⟨needed, root, stylesheet, hassembles, _⟩
      exact hanswers needed root stylesheet hassembles
  | ok prepared =>
      obtain ⟨root, stylesheet⟩ := prepared
      have hfinishes : plan.Finishes outcomes hooks registry g root stylesheet := hanswers
      obtain ⟨s, body, hrender⟩ :=
        render_answers outcomes delays support hfinishes.quiet root
      dsimp only
      rw [hrender]
      cases body with
      | error e =>
          -- The root of every other order is the same one, and rendering it would have succeeded.
          refine .inl ⟨_, e, rfl, ?_⟩
          rintro ⟨needed, other, _, hassembles, hplays⟩
          obtain ⟨hsame, _⟩ := hassembles.unique hfinishes.assembles
          rw [← hsame] at hplays
          obtain ⟨_, _, s', hcompletes, _⟩ :=
            render_completes delays hfinishes.coherent hfinishes.quiet hplays
          rw [hcompletes] at hrender
          cases hrender
      | ok drawn =>
          have hplays := plays_of_render hfinishes.coherent hrender
          obtain ⟨s₁, rest, s', hcompletes, hcoherent, hfirst, hcourse⟩ :=
            render_completes delays hfinishes.coherent hfinishes.quiet hplays
          rw [hcompletes] at hrender
          cases hrender
          exact .inr ⟨_, _, g, root, stylesheet, rfl, hfinishes, hplays, hcoherent,
            (loaded_of_course hfinishes.quiet hplays hcoherent hfirst hcourse).2, rfl⟩

/-- A start that has rendered its root succeeds. -/
theorem Renders.succeeds
    (h : plan.Renders outcomes hooks support registry prepared root stylesheet s page) :
    plan.Succeeds outcomes hooks support registry :=
  succeeds_iff.mpr ⟨_, root, stylesheet, h.finishes.assembles, h.plays⟩

end Plan

/-! ## The root -/

/-- Content leaves the kind and the class of a node. -/
theorem Textual.apply_kind_class (content : Textual) (node : Node) :
    (content.apply node).kind = node.kind ∧ (content.apply node).className = node.className := by
  unfold Textual.apply
  cases content.vertical <;> cases content.color <;> exact ⟨rfl, rfl⟩

/-- The selected tab leaves the kind and the class of a node. -/
theorem Tabs.select_kind_class (node : Node) (name : String) :
    (Tabs.select node name).kind = node.kind ∧
      (Tabs.select node name).className = node.className := by
  unfold Tabs.select Tabs.select?
  split
  · split <;> exact ⟨rfl, rfl⟩
  · exact ⟨rfl, rfl⟩

/-- A node is drawn with the kind and the type name of its frame. -/
theorem Frame.draw_kind_class (media : Media) (frame : Frame) (children : List Node) :
    (frame.draw media children).kind = frame.kind ∧
      (frame.draw media children).className = some frame.typeName := by
  cases frame with
  | void | container | layout | custom => exact ⟨rfl, rfl⟩
  | text content | banner content => exact content.apply_kind_class _
  | image source contain =>
      rw [Frame.draw]
      cases contain <;> cases media source <;> exact ⟨rfl, rfl⟩
  | video source contain =>
      rw [Frame.draw]
      cases contain <;> cases media source <;> exact ⟨rfl, rfl⟩
  | audio source =>
      rw [Frame.draw]
      cases media source <;> exact ⟨rfl, rfl⟩
  | tabs side names =>
      cases names with
      | nil => exact ⟨rfl, rfl⟩
      | cons name names => exact Tabs.select_kind_class _ name

/-- The frame that a factory reads has the type name of the factory. -/
theorem Factory.type_name_of_outline {factory : Factory} {fields : Fields}
    {chain : List Identifier} {found : Outline}
    (h : factory.outline fields chain = .ok found) :
    found.frame.typeName = factory.typeName := by
  cases Factory.yields_of_outline h <;> rfl

namespace Registry

variable {registry : Registry} {typeName : String}

/-- No declared type has a type name. -/
def Lacks (registry : Registry) (typeName : String) : Prop :=
  ∀ name factory, registry.factory? name = some factory → factory.typeName ≠ typeName

/-- A resolved widget has the type name of a declared type. -/
theorem Lacks.resolve (h : registry.Lacks typeName) {document : Document} {id : Identifier}
    {widget : Widget} (hresolve : registry.resolve document id = .ok widget) :
    widget.typeName ≠ typeName := by
  unfold Registry.resolve at hresolve
  cases hdepth : registry.maxDepth with
  | zero =>
      rw [hdepth, resolve_below_zero] at hresolve
      split at hresolve <;> cases hresolve
  | succ budget =>
      rw [hdepth, resolve_below_succ] at hresolve
      split at hresolve
      · cases hresolve
      · obtain ⟨found, houtline, hrest⟩ := bind_eq_ok.mp hresolve
        obtain ⟨children, _, hwidget⟩ := bind_eq_ok.mp hrest
        cases hwidget
        obtain ⟨⟨factory, fields⟩, hlookup, hfound⟩ := bind_eq_ok.mp houtline
        rw [map_error_eq_ok] at hlookup
        obtain ⟨record, name, _, _, hfactory, _⟩ := lookup_eq_ok hlookup
        show found.frame.typeName ≠ typeName
        rw [Factory.type_name_of_outline hfound]
        exact h name factory hfactory

/-- Declarations without a type name do not bring it in. -/
theorem Lacks.declare_all (h : registry.Lacks typeName) {declarations : List (String × Factory)}
    (hdeclared : (registry.declareAll declarations).2 = .ok ())
    (hnew : ∀ declaration ∈ declarations, declaration.2.typeName ≠ typeName) :
    (registry.declareAll declarations).1.Lacks typeName := by
  intro name factory hfactory
  rcases (factory?_declare_all hdeclared).mp hfactory with hold | hmem
  · exact h name factory hold
  · exact hnew _ hmem

/-- A document that is received leaves the declared types. -/
theorem Lacks.receive (h : registry.Lacks typeName) {url : String}
    {answer : Except FetchError Fetched} {received : Registry} {document : Document}
    (hreceive : registry.receive url answer = .ok (received, document)) :
    received.Lacks typeName := by
  unfold Registry.receive at hreceive
  split at hreceive
  · cases hreceive
  · split at hreceive
    · cases hreceive
    · cases hreceive
      unfold Registry.setDocument
      split <;> exact h

/-- No core widget has the type name of the page of a failure. -/
theorem core_lacks_error (maxDepth : Nat) : (Registry.core maxDepth).Lacks "error" := by
  refine Lacks.declare_all ?_ ?_ ?_
  · intro name factory hfactory
    cases hfactory
  · rfl
  · intro declaration hmem
    simp only [Factory.core, List.mem_cons, List.not_mem_nil, or_false] at hmem
    rcases hmem with rfl | rfl | rfl | rfl | rfl | rfl | rfl | rfl | rfl | rfl <;> decide

end Registry

/-! ## Pages -/

/-- The page has nothing but the message of a failure. -/
structure Page.TellsOnly (page : Page) (e : Error) : Prop where
  stylesheet : page.stylesheet = none
  modules : page.modules = []
  text : page.body.textContent = "SSS" ++ e.message

/-- The page of a failure. -/
theorem Page.of_error_tells_only (e : Error) : (Page.ofError e).TellsOnly e :=
  ⟨rfl, rfl, rfl⟩

namespace Plan

/-- The page of a start has its title, the stylesheet, all needed modules as they were fetched, and
a body of the kind and the type name of the root. -/
structure IsWhole (outcomes : Outcomes) (hooks : Hooks) (registry : Registry) (plan : Plan)
    (root : Widget) (page : Page) : Prop where
  title : page.title = Page.titleOf plan.name
  assembles : ∃ stylesheet, page.stylesheet = some stylesheet ∧
    plan.Assembles outcomes hooks registry (page.modules.map Module.url) root stylesheet
  modules : ∀ m ∈ page.modules, ∃ fetched, outcomes m.url = .ok fetched ∧
    m.resource.bytes = fetched.bytes ∧ m.resource.kind = ContentKind.detect m.url fetched.type
  kind : page.body.kind = root.frame.kind
  className : page.body.className = some root.typeName

variable {outcomes : Outcomes} {hooks : Hooks} {support : MediaSupport} {registry : Registry}
  {plan : Plan} {prepared : Gui} {root : Widget} {stylesheet : Stylesheet} {s : Session}
  {page : Page} {typeName : String}

/-- The page of a start that has rendered its root is whole. -/
theorem Renders.is_whole
    (h : plan.Renders outcomes hooks support registry prepared root stylesheet s page) :
    plan.IsWhole outcomes hooks registry root page := by
  obtain ⟨hassembles, hcoherent, _, hgathers, hnone, hfailure⟩ := h.finishes
  have hbalances := hgathers.balances_nil hfailure
  have hurls := hbalances.loaded_eq hnone
  rw [h.page_eq]
  refine ⟨rfl, ⟨stylesheet, rfl, ?_⟩, ?_, ?_, ?_⟩
  · rw [hurls]
    exact (hassembles.perm hbalances.nodup fun url => hgathers.mem_requested_iff hnone hfailure).2
  · intro m hm
    obtain ⟨url, _, hfind⟩ := List.mem_filterMap.mp hm
    have hloaded := hgathers.loaded m (List.mem_of_find?_eq_some hfind)
    obtain ⟨fetched, hfetched, _, hkind, hbytes⟩ := hcoherent.faithful m.url _ hloaded
    exact ⟨fetched, hfetched, hbytes, hkind⟩
  · cases root
    exact (Frame.draw_kind_class _ _ _).1
  · cases root
    exact (Frame.draw_kind_class _ _ _).2

/-- The root of a start has the type name of a declared type. -/
theorem root_type_name_ne (h : registry.Lacks typeName)
    (hroot : plan.root outcomes registry = .ok root) : root.typeName ≠ typeName := by
  unfold Plan.root at hroot
  cases hdocument : registry.document with
  | some document =>
      rw [hdocument] at hroot
      exact h.resolve hroot
  | none =>
      rw [hdocument] at hroot
      dsimp only at hroot
      split at hroot
      · cases hroot
      · rename_i received document hreceive
        exact (h.receive hreceive).resolve hroot

/-- A page that is whole does not tell of a failure, whatever its title. -/
theorem IsWhole.is_error_eq_false (h : plan.IsWhole outcomes hooks registry root page)
    (hregistry : registry.Lacks "error")
    (hhooks : ∀ url name factory, (hooks.hook url).declare = some (name, factory) →
      factory.typeName ≠ "error") : page.isError = false := by
  obtain ⟨stylesheet, _, hassembles⟩ := h.assembles
  have hlacks : (hooks.declared registry (page.modules.map Module.url)).Lacks "error" := by
    refine hregistry.declare_all hassembles.declared fun declaration hmem => ?_
    obtain ⟨url, _, hdeclare⟩ := List.mem_filterMap.mp hmem
    exact hhooks url declaration.1 declaration.2 hdeclare
  have hname := root_type_name_ne hlacks hassembles.root
  unfold Page.isError
  rw [h.className]
  simp [hname]

/-- **No partial user interface.** Whatever its name, its hooks and the outcomes and delays of its
fetches, a start whose hooks do not crash has an answer and a page. It succeeds exactly if every
module that it needs is fetched and passes its hook, the structure is fetched, read and resolved,
the stylesheet is fetched and read, and the root can be rendered. The page tells of a failure
exactly if the start fails, and then has nothing but the message. Otherwise it is the page of the
start and is whole. This holds of all registries and hooks without a type of the name `error`. -/
theorem page_is_whole_or_error (outcomes : Outcomes) (delays : String → Nat) (hooks : Hooks)
    (support : MediaSupport) (registry : Registry) (plan : Plan) (hcrash : hooks.NeverCrash)
    (hregistry : registry.Lacks "error")
    (hhooks : ∀ url name factory, (hooks.hook url).declare = some (name, factory) →
      factory.typeName ≠ "error") :
    let start : Gui := ⟨.empty, registry, .empty⟩
    ∃ answer page,
      (start.run (outcomes.after delays) hooks support plan).2 = some answer ∧
      (start.page (outcomes.after delays) hooks support plan).2 = some page ∧
      ((∃ shown, answer = .ok shown) ↔ plan.Succeeds outcomes hooks support registry) ∧
      (page.isError = true ↔ ∃ e, answer = .error e) ∧
      (∀ e, answer = .error e → page.TellsOnly e) ∧
      ∀ shown, answer = .ok shown → page = shown ∧
        ∃ root, plan.IsWhole outcomes hooks registry root page := by
  intro start
  unfold Gui.page
  rcases run_cases outcomes delays hcrash support registry plan with
    ⟨g, e, hrun, hfails⟩ | ⟨g, page, prepared, root, stylesheet, hrun, hrenders⟩
  · rw [hrun]
    refine ⟨.error e, Page.ofError e, rfl, rfl, ?_, ?_, ?_, nofun⟩
    · exact ⟨nofun, fun hsucceeds => (hfails hsucceeds).elim⟩
    · exact ⟨fun _ => ⟨e, rfl⟩, fun _ => rfl⟩
    · intro cause hcause
      cases hcause
      exact Page.of_error_tells_only e
  · rw [hrun]
    have hwhole := hrenders.is_whole
    refine ⟨.ok page, page, rfl, rfl, ?_, ?_, nofun, ?_⟩
    · exact ⟨fun _ => hrenders.succeeds, fun _ => ⟨page, rfl⟩⟩
    · rw [hwhole.is_error_eq_false hregistry hhooks]
      exact ⟨nofun, nofun⟩
    · intro shown hshown
      cases hshown
      exact ⟨rfl, root, hwhole⟩

/-- A module requests a library, which declares the type of the only widget. -/
def badgeHooks : Hooks :=
  [("app.js", ⟨["lib.js"], none, .done⟩), ("lib.js", ⟨[], some ("badge", .text), .done⟩)]

/-- A registry of the core widgets with a document of one widget, whose type is not among them. -/
def badgeRegistry : Registry :=
  { Registry.core 3 with
    document := some ⟨.list [⟨0, [("text", .string "ready")]⟩], ["badge"], .index 0⟩ }

/-- A user interface whose title is that of the page of a failure. -/
def badgePlan : Plan :=
  ⟨" Error ", "structure.json", "style.css", ["app.js"], 3⟩

/-- All fetches bring an empty text. -/
def badgeOutcomes : Outcomes := fun _ => .ok ⟨[], none⟩

/-- The hooks of the example do not crash. -/
theorem badge_hooks_never_crash : badgeHooks.NeverCrash := by
  intro url
  unfold Hooks.hook badgeHooks
  simp only [Table.get?]
  intro hcrash
  split at hcrash
  · cases hcrash
  · split at hcrash <;> cases hcrash

/-- The hooks of the example declare no type of the name `error`. -/
theorem badge_hooks_declare {url name : String} {factory : Factory}
    (h : (badgeHooks.hook url).declare = some (name, factory)) : factory.typeName ≠ "error" := by
  unfold Hooks.hook badgeHooks at h
  simp only [Table.get?] at h
  split at h
  · cases h
  · split at h
    · cases h
      decide
    · cases h

/-- The example needs the library that its module requests. -/
theorem badge_needs {url : String} :
    url ∈ ["app.js", "lib.js"] ↔ badgePlan.Needs badgeOutcomes badgeHooks url := by
  have happ : badgePlan.Needs badgeOutcomes badgeHooks "app.js" := .requested List.mem_cons_self
  constructor
  · intro hurl
    rcases List.mem_cons.mp hurl with rfl | hurl
    · exact happ
    · rw [List.mem_singleton.mp hurl]
      exact .enqueued happ rfl List.mem_cons_self
  · intro hneeds
    induction hneeds with
    | requested hurl =>
        rw [List.mem_singleton.mp hurl]
        exact List.mem_cons_self
    | enqueued _ _ hother ih =>
        rcases List.mem_cons.mp ih with rfl | hurl
        · rw [List.mem_singleton.mp hother]
          exact List.mem_cons_of_mem _ List.mem_cons_self
        · rw [List.mem_singleton.mp hurl] at hother
          cases hother

/-- The example has all that it needs. -/
theorem badge_assembles : ∃ stylesheet, badgePlan.Assembles badgeOutcomes badgeHooks badgeRegistry
    ["app.js", "lib.js"] (.node (.text ⟨"ready", .left, none, none⟩) []) stylesheet :=
  ⟨_, by decide, fun _ => badge_needs, fun _ _ => ⟨_, rfl⟩,
    List.forall_mem_cons.mpr ⟨rfl, List.forall_mem_cons.mpr ⟨rfl, nofun⟩⟩, rfl, rfl, rfl⟩

/-- The example has the title of the page of a failure, but its page is whole. -/
theorem page_is_whole_or_error_badge :
    badgeHooks.NeverCrash ∧ badgeRegistry.Lacks "error" ∧
    Page.titleOf badgePlan.name = Page.errorTitle ∧
    ∃ page, (Gui.page (badgeOutcomes.after fun _ => 0) badgeHooks Family.support badgePlan
        ⟨.empty, badgeRegistry, .empty⟩).2 = some page ∧
      page.isError = false ∧ page.body.className = some "text" := by
  have hregistry : badgeRegistry.Lacks "error" := Registry.core_lacks_error 3
  obtain ⟨stylesheet, hassembles⟩ := badge_assembles
  obtain ⟨answer, page, _, hpage, hsucceeds, herror, _, hwhole⟩ :=
    page_is_whole_or_error badgeOutcomes (fun _ => 0) badgeHooks Family.support badgeRegistry
      badgePlan badge_hooks_never_crash hregistry fun _ _ _ => badge_hooks_declare
  obtain ⟨shown, rfl⟩ := hsucceeds.mpr ⟨_, _, stylesheet, _, hassembles, rfl⟩
  obtain ⟨_, root, hroot⟩ := hwhole shown rfl
  obtain ⟨_, _, hother⟩ := hroot.assembles
  refine ⟨badge_hooks_never_crash, hregistry, rfl, page, hpage, ?_, ?_⟩
  · rw [Bool.eq_false_iff]
    intro htrue
    obtain ⟨e, he⟩ := herror.mp htrue
    cases he
  · rw [hroot.className, (hassembles.unique hother).1]
    rfl

end Plan

end Widgetry
