import Widgetry.Proofs.Fetching.Outcomes
import Widgetry.Proofs.Modules.Ledger
import Widgetry.Proofs.Registry.Runs
import Widgetry.Startup

/-!
# What a start requires

Every fetch has a fixed outcome. `Plan.Needs` tells the modules that a start needs: those that it is
told to load, and those that the hooks of fetched ones request. `Plan.Assembles` says what the start
comes to, without speaking of the cache or of time: all needed modules are there and have passed
their hooks, the root is resolved with the widget types that the hooks have declared, and the
stylesheet is read.

In which order hooks declare their types is left open there. It does not matter, because
declarations in another order give a registry that agrees in all types: `declare_all_perm`.
-/

namespace Widgetry

namespace Registry

/-- Two registries have the same widget types, the same document and the same longest chain. -/
structure Agrees (registry other : Registry) : Prop where
  factories : ∀ name, other.factory? name = registry.factory? name
  document : other.document = registry.document
  maxDepth : other.maxDepth = registry.maxDepth

variable {registry other : Registry} {declarations others : List (String × Factory)}

/-- Registries that agree look records up alike. -/
theorem Agrees.outline (h : registry.Agrees other) (document : Document) (id : Identifier)
    (chain : List Identifier) :
    other.outline document id chain = registry.outline document id chain := by
  unfold Registry.outline lookup
  cases document.record? id with
  | none => rfl
  | some record =>
      dsimp only
      cases document.types[record.typeIndex]? with
      | none => rfl
      | some name =>
          dsimp only
          rw [h.factories name]

/-- Registries that agree resolve alike. -/
theorem Agrees.resolve (h : registry.Agrees other) (document : Document) (id : Identifier) :
    other.resolve document id = registry.resolve document id := by
  have hbelow : ∀ budget ancestry id, other.resolveBelow document budget ancestry id =
      registry.resolveBelow document budget ancestry id := by
    intro budget
    induction budget with
    | zero =>
        intro ancestry id
        rw [resolve_below_zero, resolve_below_zero]
    | succ budget ih =>
        intro ancestry id
        rw [resolve_below_succ, resolve_below_succ, h.outline, funext (ih _)]
  unfold Registry.resolve
  rw [h.maxDepth]
  exact hbelow _ _ _

/-- Declarations leave the document and the longest chain. -/
theorem declare_all_keeps (registry : Registry) (declarations : List (String × Factory)) :
    (registry.declareAll declarations).1.document = registry.document ∧
      (registry.declareAll declarations).1.maxDepth = registry.maxDepth := by
  induction declarations generalizing registry with
  | nil => exact ⟨rfl, rfl⟩
  | cons declaration rest ih =>
      rw [declareAll]
      cases hdeclare : registry.declare declaration.1 declaration.2 with
      | error e => exact ⟨rfl, rfl⟩
      | ok declared =>
          obtain ⟨_, rfl⟩ := declare_eq_ok_iff.mp hdeclare
          exact ih _

/-- Declarations succeed if their names are new and different. -/
theorem declare_all_eq_ok :
    (registry.declareAll declarations).2 = .ok () ↔
      (declarations.map Prod.fst).Nodup ∧
        ∀ declaration ∈ declarations, registry.factory? declaration.1 = none := by
  induction declarations generalizing registry with
  | nil => simp [declareAll]
  | cons declaration rest ih =>
      rw [declareAll, List.map_cons, List.nodup_cons, List.forall_mem_cons]
      cases hdeclare : registry.declare declaration.1 declaration.2 with
      | error e =>
          have hold : registry.factory? declaration.1 ≠ none := by
            intro hnew
            rw [declare_eq_ok_iff.mpr ⟨hnew, rfl⟩] at hdeclare
            cases hdeclare
          simp [hold]
      | ok declared =>
          obtain ⟨hnew, _⟩ := declare_eq_ok_iff.mp hdeclare
          dsimp only
          rw [ih]
          simp only [factory?_declare hdeclare]
          constructor
          · intro hrest
            refine ⟨⟨fun hmem => ?_, hrest.1⟩, hnew, fun next hnext => ?_⟩
            · obtain ⟨next, hnext, hname⟩ := List.mem_map.mp hmem
              have hnone := hrest.2 next hnext
              rw [if_pos hname] at hnone
              cases hnone
            · have hnone := hrest.2 next hnext
              split at hnone
              · cases hnone
              · exact hnone
          · intro hall
            refine ⟨hall.1.2, fun next hnext => ?_⟩
            rw [if_neg]
            · exact hall.2.2 next hnext
            · intro hname
              exact hall.1.1 (List.mem_map.mpr ⟨next, hnext, hname⟩)

/-- Declarations add their types to those that are there. -/
theorem factory?_declare_all (h : (registry.declareAll declarations).2 = .ok ()) {name : String}
    {factory : Factory} :
    (registry.declareAll declarations).1.factory? name = some factory ↔
      registry.factory? name = some factory ∨ (name, factory) ∈ declarations := by
  induction declarations generalizing registry with
  | nil => simp [declareAll]
  | cons declaration rest ih =>
      rw [declareAll] at h ⊢
      cases hdeclare : registry.declare declaration.1 declaration.2 with
      | error e =>
          rw [hdeclare] at h
          cases h
      | ok declared =>
          rw [hdeclare] at h
          obtain ⟨hnew, _⟩ := declare_eq_ok_iff.mp hdeclare
          rw [ih h, factory?_declare hdeclare, List.mem_cons, ← or_assoc]
          refine or_congr_left ?_
          split
          · rename_i hname
            rw [hname, hnew, Option.some.injEq, Prod.ext_iff]
            simp [eq_comm]
          · rename_i hname
            simp [Prod.ext_iff, hname]

/-- Declarations in another order succeed too and give a registry that agrees. -/
theorem declare_all_perm (hperm : declarations.Perm others)
    (h : (registry.declareAll declarations).2 = .ok ()) :
    (registry.declareAll others).2 = .ok () ∧
      (registry.declareAll declarations).1.Agrees (registry.declareAll others).1 := by
  have hothers : (registry.declareAll others).2 = .ok () := by
    rw [declare_all_eq_ok] at h ⊢
    refine ⟨(hperm.map Prod.fst).nodup_iff.mp h.1, fun declaration hmem => ?_⟩
    exact h.2 declaration (hperm.mem_iff.mpr hmem)
  obtain ⟨hdocument, hdepth⟩ := registry.declare_all_keeps declarations
  obtain ⟨hdocument', hdepth'⟩ := registry.declare_all_keeps others
  refine ⟨hothers, ⟨fun name => ?_, hdocument'.trans hdocument.symm, hdepth'.trans hdepth.symm⟩⟩
  refine Option.ext fun factory => ?_
  rw [factory?_declare_all hothers, factory?_declare_all h, hperm.mem_iff]

/-- Declarations go on where others have succeeded. -/
theorem declare_all_append (h : (registry.declareAll declarations).2 = .ok ())
    (others : List (String × Factory)) :
    registry.declareAll (declarations ++ others) =
      (registry.declareAll declarations).1.declareAll others := by
  induction declarations generalizing registry with
  | nil => rfl
  | cons declaration rest ih =>
      rw [declareAll] at h
      rw [List.cons_append, declareAll, declareAll]
      cases hdeclare : registry.declare declaration.1 declaration.2 with
      | error e =>
          rw [hdeclare] at h
          cases h
      | ok declared =>
          rw [hdeclare] at h
          exact ih h

end Registry

namespace Hooks

/-- The widget types that the hooks of some modules declare. -/
def declarations (hooks : Hooks) (urls : List String) : List (String × Factory) :=
  urls.filterMap fun url => (hooks.hook url).declare

/-- A registry after the hooks of some modules have declared their types. -/
def declared (hooks : Hooks) (registry : Registry) (urls : List String) : Registry :=
  (registry.declareAll (hooks.declarations urls)).1

/-- The types that the hook of one more module declares come last. -/
theorem declarations_concat (hooks : Hooks) (urls : List String) (url : String) :
    hooks.declarations (urls ++ [url]) =
      hooks.declarations urls ++ (hooks.hook url).declare.toList := by
  unfold declarations
  rw [List.filterMap_append]
  cases hdeclare : (hooks.hook url).declare <;> simp [hdeclare]

end Hooks

/-- What the load of a URL comes to in an empty cache. -/
def Outcomes.loaded (outcomes : Outcomes) (url : String) : Loaded :=
  Cache.empty.judge url (outcomes url)

namespace Plan

/-- The modules that a start requests at once. -/
def requested (plan : Plan) : List String :=
  (Loader.empty.enqueueAll plan.modules).requested

/-- The modules that a start needs: those that it requests at once, and those that the hooks of
fetched ones request. -/
inductive Needs (outcomes : Outcomes) (hooks : Hooks) (plan : Plan) : String → Prop where
  | requested {url} : url ∈ plan.modules → Needs outcomes hooks plan url
  | enqueued {url other fetched} : Needs outcomes hooks plan url → outcomes url = .ok fetched →
      other ∈ (hooks.hook url).enqueue → Needs outcomes hooks plan other

/-- The root that a start resolves, from the document that is there or from the one it fetches. -/
def root (outcomes : Outcomes) (registry : Registry) (plan : Plan) : Except Error Widget :=
  match registry.document with
  | some document => registry.resolve document document.root
  | none =>
      match registry.receive plan.structureUrl (outcomes plan.structureUrl) with
      | .error e => .error (.structure e)
      | .ok (registry, document) => registry.resolve document document.root

/-- The needed modules, in some order, are all fetched and pass their hooks, the types that these
declare are new, the root is resolved with them, and the stylesheet is read. -/
structure Assembles (outcomes : Outcomes) (hooks : Hooks) (registry : Registry) (plan : Plan)
    (needed : List String) (root : Widget) (stylesheet : Stylesheet) : Prop where
  nodup : needed.Nodup
  complete : ∀ url, url ∈ needed ↔ plan.Needs outcomes hooks url
  fetched : ∀ url ∈ needed, ∃ fetched, outcomes url = .ok fetched
  passed : ∀ url ∈ needed, (hooks.hook url).ending = .done
  declared : (registry.declareAll (hooks.declarations needed)).2 = .ok ()
  root : plan.root outcomes (hooks.declared registry needed) = .ok root
  stylesheet : Stylesheet.ofLoaded plan.stylesheetUrl (outcomes.loaded plan.stylesheetUrl) =
    .ok stylesheet

/-- A start comes to nothing. -/
def Fails (outcomes : Outcomes) (hooks : Hooks) (registry : Registry) (plan : Plan) : Prop :=
  ∀ needed root stylesheet, ¬ plan.Assembles outcomes hooks registry needed root stylesheet

variable {outcomes : Outcomes} {hooks : Hooks} {registry other : Registry} {plan : Plan}
  {needed others : List String} {root root' : Widget} {stylesheet stylesheet' : Stylesheet}

/-- Registries that agree give the same root. -/
theorem root_congr (h : registry.Agrees other) :
    plan.root outcomes other = plan.root outcomes registry := by
  unfold Plan.root
  rw [h.document]
  cases hdocument : registry.document with
  | some document => exact h.resolve document document.root
  | none =>
      dsimp only
      unfold Registry.receive
      cases outcomes plan.structureUrl with
      | error e => rfl
      | ok fetched =>
          dsimp only
          cases Document.ofBytes fetched.bytes with
          | error fault => rfl
          | ok document =>
              dsimp only
              refine Registry.Agrees.resolve ?_ document document.root
              unfold Registry.setDocument
              rw [h.document, hdocument]
              exact ⟨h.factories, rfl, h.maxDepth⟩

/-- The needed modules in another order. -/
theorem Assembles.perm (h : plan.Assembles outcomes hooks registry needed root stylesheet)
    (hnodup : others.Nodup) (hothers : ∀ url, url ∈ others ↔ plan.Needs outcomes hooks url) :
    needed.Perm others ∧ plan.Assembles outcomes hooks registry others root stylesheet := by
  have hperm : needed.Perm others := by
    rw [List.perm_ext_iff_of_nodup h.nodup hnodup]
    intro url
    rw [h.complete, hothers]
  obtain ⟨hdeclared, hagrees⟩ := Registry.declare_all_perm (hperm.filterMap _) h.declared
  refine ⟨hperm, hnodup, hothers, ?_, ?_, hdeclared, ?_, h.stylesheet⟩
  · exact fun url hurl => h.fetched url (hperm.mem_iff.mpr hurl)
  · exact fun url hurl => h.passed url (hperm.mem_iff.mpr hurl)
  · rw [← h.root]
    exact root_congr hagrees

/-- A start comes to one root and one stylesheet. -/
theorem Assembles.unique (h : plan.Assembles outcomes hooks registry needed root stylesheet)
    (h' : plan.Assembles outcomes hooks registry others root' stylesheet') :
    root' = root ∧ stylesheet' = stylesheet := by
  obtain ⟨_, hothers⟩ := h.perm h'.nodup h'.complete
  have hroot := hothers.root
  have hstylesheet := hothers.stylesheet
  rw [h'.root] at hroot
  rw [h'.stylesheet] at hstylesheet
  exact ⟨Except.ok.inj hroot, Except.ok.inj hstylesheet⟩

end Plan

end Widgetry
