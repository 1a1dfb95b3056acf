import Mathlib.Data.List.Chain
import Widgetry.Proofs.Resolution.Evaluation
import Widgetry.Proofs.Resolution.Reading
import Widgetry.Proofs.Table

/-!
# Resolution is unfolding

The references of a document form a graph on canonical identifiers, which may have cycles and may
point nowhere. `Registry.Unfolds` is the unfolding of this graph into a tree of widgets. The main
theorem, `resolve_ok_iff_valid_and_shallow`, says that resolution always ends, that it succeeds
exactly if everything within reach is valid and no path of references is longer than the budget,
and that the tree it gives is the unfolding.
-/

namespace Widgetry.Registry

/-- All declared widgets depend on their fields alone. The core widgets are such. -/
def IsLocal (registry : Registry) : Prop :=
  ∀ name factory, registry.factory? name = some factory → factory.IsLocal

/-- The frame and the slots of the widget that an identifier addresses. -/
def read? (registry : Registry) (document : Document) (id : Identifier) :
    Option (Frame × List (Option Identifier)) := do
  let record ← document.record? id
  let name ← document.types[record.typeIndex]?
  let factory ← registry.factory? name
  factory.read? record.fields

/-- The identifier has a record, the record has a declared type, and its own fields pass the checks
of that type. -/
def IsValid (registry : Registry) (document : Document) (id : Identifier) : Prop :=
  ∃ record name factory, document.record? id = some record ∧
    document.types[record.typeIndex]? = some name ∧ registry.factory? name = some factory ∧
    (factory.read? record.fields).isSome

/-- The widgets that the record of an identifier names, if its type is known. -/
def references (registry : Registry) (document : Document) (id : Identifier) :
    List Identifier :=
  match document.record? id with
  | none => []
  | some record =>
      match document.types[record.typeIndex]?.bind registry.factory? with
      | none => []
      | some factory => factory.references record.fields

/-- One canonical identifier refers to another. -/
def Refers (registry : Registry) (document : Document) (id other : Identifier) : Prop :=
  ∃ reference ∈ registry.references document id, document.canonical reference = other

/-- An identifier leads to another over any number of references. -/
def Reaches (registry : Registry) (document : Document) (id other : Identifier) : Prop :=
  Relation.ReflTransGen (registry.Refers document) (document.canonical id) other

/-- A path of references that starts at an identifier. It may pass an identifier repeatedly. -/
def IsPath (registry : Registry) (document : Document) (id : Identifier)
    (path : List Identifier) : Prop :=
  path.head? = some (document.canonical id) ∧ path.IsChain (registry.Refers document)

/-- The references within reach of an identifier contain a cycle. -/
def HasCycle (registry : Registry) (document : Document) (id : Identifier) : Prop :=
  ∃ other, registry.Reaches document id other ∧
    Relation.TransGen (registry.Refers document) other other

mutual

/-- `Unfolds id widget` says that `widget` is the tree of frames that unfolds from `id`. -/
inductive Unfolds (registry : Registry) (document : Document) :
    Identifier → Widget → Prop where
  | node (id frame objects children) :
      registry.read? document (document.canonical id) = some (frame, objects) →
      UnfoldsAll registry document objects children →
      Unfolds registry document id (.node frame children)

/-- `UnfoldsAll objects widgets` says that `widgets` unfold from what slots refer to, with a void
widget in each slot that refers to none. -/
inductive UnfoldsAll (registry : Registry) (document : Document) :
    List (Option Identifier) → List Widget → Prop where
  | nil : UnfoldsAll registry document [] []
  | empty (objects widgets) :
      UnfoldsAll registry document objects widgets →
      UnfoldsAll registry document (none :: objects) (.void :: widgets)
  | filled (id objects widget widgets) :
      Unfolds registry document id widget →
      UnfoldsAll registry document objects widgets →
      UnfoldsAll registry document (some id :: objects) (widget :: widgets)

end

variable {registry : Registry} {document : Document}

/-- Valid identifiers are those that can be read. -/
theorem is_valid_iff {id : Identifier} :
    registry.IsValid document id ↔ ∃ frame objects,
      registry.read? document id = some (frame, objects) := by
  simp only [IsValid, read?, Option.bind_eq_bind, Option.bind_eq_some_iff, Option.isSome_iff_exists,
    Prod.exists]
  constructor
  · rintro ⟨record, name, factory, hrecord, hname, hfactory, frame, objects, hread⟩
    exact ⟨frame, objects, record, hrecord, name, hname, factory, hfactory, hread⟩
  · rintro ⟨frame, objects, record, hrecord, name, hname, factory, hfactory, hread⟩
    exact ⟨record, name, factory, hrecord, hname, hfactory, frame, objects, hread⟩

/-- An identifier that can be read refers to what its slots refer to. -/
theorem refers_iff {id other : Identifier} {frame : Frame} {objects : List (Option Identifier)}
    (hread : registry.read? document id = some (frame, objects)) :
    registry.Refers document id other ↔
      ∃ reference, some reference ∈ objects ∧ document.canonical reference = other := by
  simp only [read?, Option.bind_eq_bind, Option.bind_eq_some_iff] at hread
  obtain ⟨record, hrecord, name, hname, factory, hfactory, hread⟩ := hread
  have hreferences : registry.references document id = objects.flatMap Option.toList := by
    simp only [references, hrecord, hname, Option.bind_some, hfactory]
    exact Factory.references_eq hread
  simp only [Refers, hreferences, List.mem_flatMap, Option.mem_toList, exists_eq_right]

/-- What is found of an identifier: the factory of its type and the fields of its record. -/
theorem lookup_eq_ok {id : Identifier} {factory : Factory} {fields : Fields}
    (h : registry.lookup document id = .ok (factory, fields)) :
    ∃ record name, document.record? id = some record ∧
      document.types[record.typeIndex]? = some name ∧ registry.factory? name = some factory ∧
      record.fields = fields := by
  unfold lookup at h
  cases hrecord : document.record? id with
  | none => simp [hrecord] at h
  | some record =>
      cases hname : document.types[record.typeIndex]? with
      | none => simp [hrecord, hname] at h
      | some name =>
          cases hfactory : registry.factory? name with
          | none => simp [hrecord, hname, hfactory] at h
          | some declared =>
              simp only [hrecord, hname, hfactory, Except.ok.injEq, Prod.mk.injEq] at h
              obtain ⟨rfl, rfl⟩ := h
              exact ⟨record, name, rfl, hname, hfactory, rfl⟩

/-- The outline of a widget is faultless if its record can be read. -/
theorem outline_eq_ok (hlocal : registry.IsLocal) {id : Identifier} {chain : List Identifier}
    {frame : Frame} {objects : List (Option Identifier)} :
    registry.outline document id chain = .ok ⟨frame, objects.map .ok⟩ ↔
      registry.read? document id = some (frame, objects) := by
  simp only [outline, lookup, read?, Option.bind_eq_bind]
  cases hrecord : document.record? id with
  | none => simp [bind, Except.bind, map_error_error]
  | some record =>
      cases hname : document.types[record.typeIndex]? with
      | none => simp [hname, bind, Except.bind, map_error_error]
      | some name =>
          cases hfactory : registry.factory? name with
          | none => simp [hname, hfactory, bind, Except.bind, map_error_error]
          | some factory =>
              simp only [hname, hfactory, Option.bind_some, map_error_ok, bind, Except.bind]
              rw [hlocal name factory hfactory, Factory.outline_eq_ok_iff]

/-! ## What resolution tells about a document -/

/-- A widget fits a slot: it is what the slot refers to, or void if the slot refers to none. -/
def Fits (resolve : Identifier → Except Error Widget) : Option Identifier → Widget → Prop
  | none, widget => widget = .void
  | some id, widget => resolve id = .ok widget

/-- Slots can be filled if all are faultless and each has a widget that fits. -/
theorem fill_eq_ok {resolve : Identifier → Except Error Widget} {slots : List Slot}
    {widgets : List Widget} :
    fill resolve slots = .ok widgets ↔
      ∃ objects, slots = objects.map .ok ∧ List.Forall₂ (Fits resolve) objects widgets := by
  induction slots generalizing widgets with
  | nil =>
      constructor
      · intro h
        cases h
        exact ⟨[], rfl, .nil⟩
      · rintro ⟨objects, hslots, hfits⟩
        cases objects with
        | nil =>
            cases hfits
            rfl
        | cons object objects => simp at hslots
  | cons slot slots ih =>
      constructor
      · intro h
        rcases slot with e | _ | id
        · cases h
        · rw [fill, bind_eq_ok] at h
          obtain ⟨rest, hrest, heq⟩ := h
          cases heq
          obtain ⟨objects, rfl, hfits⟩ := ih.mp hrest
          exact ⟨none :: objects, rfl, .cons rfl hfits⟩
        · simp only [fill, bind_eq_ok] at h
          obtain ⟨widget, hwidget, rest, hrest, heq⟩ := h
          cases heq
          obtain ⟨objects, rfl, hfits⟩ := ih.mp hrest
          exact ⟨some id :: objects, rfl, .cons hwidget hfits⟩
      · rintro ⟨objects, hslots, hfits⟩
        cases hfits with
        | nil => simp at hslots
        | @cons object widget objects rest hwidget hrest =>
            simp only [List.map_cons, List.cons.injEq] at hslots
            obtain ⟨rfl, rfl⟩ := hslots
            have hrest := ih.mpr ⟨objects, rfl, hrest⟩
            cases object with
            | none =>
                cases hwidget
                rw [fill, hrest]
                rfl
            | some id =>
                rw [fill, (hwidget : resolve id = .ok widget), hrest]
                rfl

/-- Resolution succeeds with a level left, a new identifier, a readable record and widgets that fit
its slots. -/
theorem resolve_below_eq_ok (hlocal : registry.IsLocal) {budget : Nat}
    {ancestry : List Identifier} {id : Identifier} {widget : Widget} :
    registry.resolveBelow document budget ancestry id = .ok widget ↔
      ∃ below frame objects children, budget = below + 1 ∧ document.canonical id ∉ ancestry ∧
        registry.read? document (document.canonical id) = some (frame, objects) ∧
        List.Forall₂ (Fits (registry.resolveBelow document below
          (ancestry ++ [document.canonical id]))) objects children ∧
        widget = .node frame children := by
  cases budget with
  | zero =>
      rw [resolve_below_zero]
      split <;> simp
  | succ budget =>
      rw [resolve_below_succ]
      split
      · rename_i hcycle
        simp [hcycle]
      · rename_i hnew
        simp only [bind_eq_ok, fill_eq_ok]
        constructor
        · rintro ⟨⟨frame, slots⟩, houtline, children, ⟨objects, rfl, hfits⟩, heq⟩
          cases heq
          exact ⟨budget, frame, objects, children, rfl, hnew,
            (outline_eq_ok hlocal).mp houtline, hfits, rfl⟩
        · rintro ⟨below, frame, objects, children, hbudget, _, hread, hfits, rfl⟩
          cases hbudget
          exact ⟨_, (outline_eq_ok hlocal).mpr hread, children, ⟨objects, rfl, hfits⟩, rfl⟩

/-- Widgets that fit slots unfold from them, if that holds of every widget that `resolve` gives. -/
theorem unfolds_all_of_fits {resolve : Identifier → Except Error Widget}
    (hresolve : ∀ id widget, resolve id = .ok widget → registry.Unfolds document id widget)
    {objects : List (Option Identifier)} {widgets : List Widget}
    (h : List.Forall₂ (Fits resolve) objects widgets) :
    registry.UnfoldsAll document objects widgets := by
  induction h with
  | nil => exact .nil
  | @cons object widget objects widgets hwidget _ ih =>
      cases object with
      | none =>
          cases hwidget
          exact .empty objects widgets ih
      | some id => exact .filled id objects widget widgets (hresolve id widget hwidget) ih

/-- A slot that refers to a widget has one that fits. -/
theorem exists_of_fits {resolve : Identifier → Except Error Widget}
    {objects : List (Option Identifier)} {widgets : List Widget}
    (h : List.Forall₂ (Fits resolve) objects widgets) {id : Identifier}
    (hid : some id ∈ objects) : ∃ widget, resolve id = .ok widget := by
  induction h with
  | nil => cases hid
  | @cons object widget _ _ hwidget _ ih =>
      rcases List.mem_cons.mp hid with rfl | hid
      · exact ⟨widget, hwidget⟩
      · exact ih hid

/-- What resolution gives unfolds from its identifier. -/
theorem unfolds_of_resolve_below (hlocal : registry.IsLocal) {budget : Nat}
    {ancestry : List Identifier} {id : Identifier} {widget : Widget}
    (h : registry.resolveBelow document budget ancestry id = .ok widget) :
    registry.Unfolds document id widget := by
  induction budget generalizing ancestry id widget with
  | zero =>
      obtain ⟨_, _, _, _, hbudget, _⟩ := (resolve_below_eq_ok hlocal).mp h
      cases hbudget
  | succ budget ih =>
      obtain ⟨_, frame, objects, children, hbudget, _, hread, hfits, rfl⟩ :=
        (resolve_below_eq_ok hlocal).mp h
      cases hbudget
      exact .node id frame objects children hread
        (unfolds_all_of_fits (fun _ _ hchild => ih hchild) hfits)

/-- Everything within reach of a resolved identifier is valid. -/
theorem valid_of_resolve_below (hlocal : registry.IsLocal) {budget : Nat}
    {ancestry : List Identifier} {id other : Identifier} {widget : Widget}
    (h : registry.resolveBelow document budget ancestry id = .ok widget)
    (hother : registry.Reaches document id other) : registry.IsValid document other := by
  induction budget generalizing ancestry id widget with
  | zero =>
      obtain ⟨_, _, _, _, hbudget, _⟩ := (resolve_below_eq_ok hlocal).mp h
      cases hbudget
  | succ budget ih =>
      obtain ⟨_, frame, objects, children, hbudget, _, hread, hfits, rfl⟩ :=
        (resolve_below_eq_ok hlocal).mp h
      cases hbudget
      rcases Relation.ReflTransGen.cases_head hother with rfl | ⟨next, hnext, hother⟩
      · exact is_valid_iff.mpr ⟨frame, objects, hread⟩
      · obtain ⟨reference, hreference, rfl⟩ := (refers_iff hread).mp hnext
        obtain ⟨child, hchild⟩ := exists_of_fits hfits hreference
        exact ih hchild hother

/-- No path from a resolved identifier is longer than the budget. -/
theorem path_length_le_of_resolve_below (hlocal : registry.IsLocal) {budget : Nat}
    {ancestry : List Identifier} {id : Identifier} {widget : Widget}
    (h : registry.resolveBelow document budget ancestry id = .ok widget)
    {path : List Identifier} (hpath : registry.IsPath document id path) :
    path.length ≤ budget := by
  induction budget generalizing ancestry id widget path with
  | zero =>
      obtain ⟨_, _, _, _, hbudget, _⟩ := (resolve_below_eq_ok hlocal).mp h
      cases hbudget
  | succ budget ih =>
      obtain ⟨_, frame, objects, children, hbudget, _, hread, hfits, rfl⟩ :=
        (resolve_below_eq_ok hlocal).mp h
      cases hbudget
      obtain ⟨hhead, hchain⟩ := hpath
      match path with
      | [] => simp
      | [_] => simp
      | first :: next :: rest =>
          cases hhead
          rw [List.isChain_cons_cons] at hchain
          obtain ⟨reference, hreference, rfl⟩ := (refers_iff hread).mp hchain.1
          obtain ⟨child, hchild⟩ := exists_of_fits hfits hreference
          have hrest := ih hchild ⟨rfl, hchain.2⟩
          simpa using hrest

/-! ## What a document tells about resolution -/

/-- A path of `n` or more identifiers starts at a canonical identifier. -/
def HasPath (registry : Registry) (document : Document) (n : Nat) (id : Identifier) : Prop :=
  ∃ path : List Identifier, path.head? = some id ∧ path.IsChain (registry.Refers document) ∧
    n ≤ path.length

/-- A reference in front of a path makes it longer. -/
theorem has_path_of_refers {id next : Identifier} {n : Nat}
    (hnext : registry.Refers document id next) (h : registry.HasPath document n next) :
    registry.HasPath document (n + 1) id := by
  obtain ⟨path, hhead, hchain, hlength⟩ := h
  refine ⟨id :: path, rfl, hchain.cons ?_, by simpa using hlength⟩
  intro first hfirst
  rw [hhead, Option.mem_some_iff] at hfirst
  exact hfirst ▸ hnext

/-- Paths from an identifier within reach can be prolonged backward. -/
theorem has_path_of_reaches {id other : Identifier} {n : Nat}
    (h : Relation.ReflTransGen (registry.Refers document) id other)
    (hlong : registry.HasPath document n other) : registry.HasPath document n id := by
  induction h using Relation.ReflTransGen.head_induction_on with
  | refl => exact hlong
  | head hnext _ ih =>
      obtain ⟨path, hhead, hchain, hlength⟩ := has_path_of_refers hnext ih
      exact ⟨path, hhead, hchain, by omega⟩

/-- Going around a cycle again and again gives paths of every length. -/
theorem has_path_of_cycle {id next : Identifier} (hnext : registry.Refers document id next)
    (hback : Relation.ReflTransGen (registry.Refers document) next id) (n : Nat) :
    registry.HasPath document n id := by
  induction n with
  | zero => exact ⟨[id], rfl, .singleton id, Nat.zero_le _⟩
  | succ n ih => exact has_path_of_refers hnext (has_path_of_reaches hback ih)

/-- A path can be prolonged by a reference from its end. -/
theorem is_path_concat {root id next : Identifier} {ancestry : List Identifier}
    (hpath : registry.IsPath document root (ancestry ++ [id]))
    (hnext : registry.Refers document id next) :
    registry.IsPath document root (ancestry ++ [id] ++ [next]) := by
  refine ⟨?_, hpath.2.append (.singleton _) ?_⟩
  · rw [← hpath.1]
    cases ancestry <;> rfl
  · intro last hlast first hfirst
    rw [List.getLast?_concat, Option.mem_some_iff] at hlast
    rw [List.head?_cons, Option.mem_some_iff] at hfirst
    exact hlast ▸ hfirst ▸ hnext

/-- The last identifier of a path is within reach of its start. -/
theorem reaches_of_path {root id : Identifier} {ancestry : List Identifier}
    (hpath : registry.IsPath document root (ancestry ++ [id])) :
    registry.Reaches document root id := by
  obtain ⟨hhead, hchain⟩ := hpath
  cases ancestry with
  | nil =>
      cases hhead
      exact .refl
  | cons first rest =>
      cases hhead
      exact List.relationReflTransGen_of_exists_isChain_cons _ hchain (by simp)

/-- A path that comes back to an identifier on it goes around a cycle. -/
theorem has_cycle_of_path {root id : Identifier} {ancestry : List Identifier}
    (hpath : registry.IsPath document root (ancestry ++ [id])) (hmem : id ∈ ancestry) :
    registry.HasCycle document root := by
  refine ⟨id, reaches_of_path hpath, ?_⟩
  obtain ⟨before, between, rfl⟩ := List.append_of_mem hmem
  -- From its first occurrence on, the path leaves `id` and comes back.
  have hloop : (id :: (between ++ [id])).IsChain (registry.Refers document) := by
    refine hpath.2.suffix ⟨before, ?_⟩
    simp
  cases between with
  | nil => exact .single (List.isChain_cons_cons.mp hloop).1
  | cons next rest =>
      obtain ⟨hnext, hrest⟩ := List.isChain_cons_cons.mp hloop
      exact .head' hnext (List.relationReflTransGen_of_exists_isChain_cons _ hrest (by simp))

/-- If all paths from a root are bounded, there is no cycle within its reach. -/
theorem not_has_cycle_of_bounded {root : Identifier} {bound : Nat}
    (hbound : ∀ path, registry.IsPath document root path → path.length ≤ bound) :
    ¬ registry.HasCycle document root := by
  rintro ⟨id, hreach, hloop⟩
  obtain ⟨next, hnext, hback⟩ := Relation.TransGen.head'_iff.mp hloop
  obtain ⟨path, hstart, hpath, hlength⟩ :=
    has_path_of_reaches hreach (has_path_of_cycle hnext hback (bound + 1))
  have := hbound path ⟨hstart, hpath⟩
  omega

/-- Slots that refer to resolvable widgets only can be filled. -/
theorem exists_fits {resolve : Identifier → Except Error Widget}
    {objects : List (Option Identifier)}
    (h : ∀ id, some id ∈ objects → ∃ widget, resolve id = .ok widget) :
    ∃ widgets, List.Forall₂ (Fits resolve) objects widgets := by
  induction objects with
  | nil => exact ⟨[], .nil⟩
  | cons object objects ih =>
      obtain ⟨widgets, hfits⟩ := ih fun id hid => h id (List.mem_cons_of_mem _ hid)
      cases object with
      | none => exact ⟨.void :: widgets, .cons rfl hfits⟩
      | some id =>
          obtain ⟨widget, hwidget⟩ := h id List.mem_cons_self
          exact ⟨widget :: widgets, .cons hwidget hfits⟩

/-- Below every path from a root, resolution succeeds if everything within reach of the root is
valid and no path from it is longer than the budget. -/
theorem exists_resolve_below (hlocal : registry.IsLocal) {root : Identifier}
    (hvalid : ∀ other, registry.Reaches document root other → registry.IsValid document other)
    (hbound : ∀ path, registry.IsPath document root path → path.length ≤ registry.maxDepth)
    {budget : Nat} {ancestry : List Identifier} {id : Identifier}
    (hbudget : registry.maxDepth = ancestry.length + budget)
    (hpath : registry.IsPath document root (ancestry ++ [document.canonical id])) :
    ∃ widget, registry.resolveBelow document budget ancestry id = .ok widget := by
  -- The budget is what the path from the root has left of the longest chain.
  induction budget generalizing ancestry id with
  | zero =>
      have hlength := hbound _ hpath
      rw [List.length_append, List.length_singleton] at hlength
      omega
  | succ budget ih =>
      obtain ⟨frame, objects, hread⟩ := is_valid_iff.mp (hvalid _ (reaches_of_path hpath))
      have hresolve : ∀ reference, some reference ∈ objects →
          ∃ widget, registry.resolveBelow document budget
            (ancestry ++ [document.canonical id]) reference = .ok widget := by
        intro reference hreference
        apply ih
        · rw [List.length_append, List.length_singleton]
          omega
        · exact is_path_concat hpath ((refers_iff hread).mpr ⟨reference, hreference, rfl⟩)
      obtain ⟨children, hfits⟩ := exists_fits hresolve
      have hnew : document.canonical id ∉ ancestry := fun hmem =>
        not_has_cycle_of_bounded hbound (has_cycle_of_path hpath hmem)
      exact ⟨.node frame children, (resolve_below_eq_ok hlocal).mpr ⟨budget, frame, objects,
        children, rfl, hnew, hread, hfits, rfl⟩⟩

/-! ## The unfolding is unique -/

mutual

/-- At most one widget unfolds from an identifier. -/
theorem unfolds_unique {id : Identifier} {widget other : Widget}
    (h : registry.Unfolds document id widget) (hother : registry.Unfolds document id other) :
    other = widget := by
  cases h with
  | node _ frame objects children hread hchildren =>
      cases hother with
      | node _ frame' objects' children' hread' hchildren' =>
          rw [hread, Option.some.injEq, Prod.mk.injEq] at hread'
          obtain ⟨rfl, rfl⟩ := hread'
          rw [unfolds_all_unique hchildren hchildren']

/-- At most one list of widgets unfolds from what slots refer to. -/
theorem unfolds_all_unique {objects : List (Option Identifier)} {widgets others : List Widget}
    (h : registry.UnfoldsAll document objects widgets)
    (hothers : registry.UnfoldsAll document objects others) : others = widgets := by
  cases h with
  | nil =>
      cases hothers
      rfl
  | empty objects widgets hrest =>
      cases hothers with
      | empty _ others hrest' => rw [unfolds_all_unique hrest hrest']
  | filled id objects widget widgets hwidget hrest =>
      cases hothers with
      | filled _ _ other others hwidget' hrest' =>
          rw [unfolds_unique hwidget hwidget', unfolds_all_unique hrest hrest']

end

/-- Resolution always ends. It succeeds exactly if every identifier within reach is valid and no
path of references has more identifiers than the longest chain allows, and it then gives the
unfolding of the document. -/
theorem resolve_ok_iff_valid_and_shallow (registry : Registry) (document : Document)
    (id : Identifier) (hlocal : registry.IsLocal) :
    (∀ result, registry.Resolves document [] id result ↔ result = registry.resolve document id) ∧
    ((∃ widget, registry.resolve document id = .ok widget) ↔
      (∀ other, registry.Reaches document id other → registry.IsValid document other) ∧
        ∀ path, registry.IsPath document id path → path.length ≤ registry.maxDepth) ∧
    ∀ widget, registry.resolve document id = .ok widget →
      registry.Unfolds document id widget ∧
        ∀ other, registry.Unfolds document id other → other = widget := by
  refine ⟨fun result => resolves_iff, ⟨?_, ?_⟩, ?_⟩
  · rintro ⟨widget, hwidget⟩
    exact ⟨fun other => valid_of_resolve_below hlocal hwidget,
      fun path => path_length_le_of_resolve_below hlocal hwidget⟩
  · rintro ⟨hvalid, hbound⟩
    exact exists_resolve_below hlocal hvalid hbound (by simp) ⟨rfl, .singleton _⟩
  · intro widget hwidget
    have hunfolds := unfolds_of_resolve_below hlocal hwidget
    exact ⟨hunfolds, fun other => unfolds_unique hunfolds⟩

/-! ## The core widgets are local -/

/-- A declaration adds one name and keeps the others. -/
theorem factory?_declare {registry declared : Registry} {name : String} {factory : Factory}
    (h : registry.declare name factory = .ok declared) (other : String) :
    declared.factory? other = if other = name then some factory else registry.factory? other := by
  unfold declare at h
  split at h
  · cases h
  · cases h
    exact Table.get?_insert name other factory registry.declarations

/-- Declaring local widgets keeps a registry local. -/
theorem is_local_declare_all {registry : Registry} (hlocal : registry.IsLocal)
    {declarations : List (String × Factory)}
    (h : ∀ declaration ∈ declarations, declaration.2.IsLocal) :
    (registry.declareAll declarations).1.IsLocal := by
  induction declarations generalizing registry with
  | nil => exact hlocal
  | cons declaration rest ih =>
      obtain ⟨name, factory⟩ := declaration
      rw [declareAll]
      cases hdeclare : registry.declare name factory with
      | error e => exact hlocal
      | ok declared =>
          apply ih
          · intro other found hfound
            rw [factory?_declare hdeclare] at hfound
            split at hfound
            · cases hfound
              exact h (name, factory) List.mem_cons_self
            · exact hlocal other found hfound
          · intro declaration hmem
            exact h declaration (List.mem_cons_of_mem _ hmem)

/-- A registry of the core widgets is local. -/
theorem core_is_local (maxDepth : Nat) : (Registry.core maxDepth).IsLocal := by
  apply is_local_declare_all
  · intro name factory h
    cases h
  · intro declaration hmem
    apply Factory.is_local_of_not_custom
    intro type htype
    simp only [Factory.core, List.mem_cons, List.not_mem_nil, or_false] at hmem
    rcases hmem with rfl | rfl | rfl | rfl | rfl | rfl | rfl | rfl | rfl | rfl <;> cases htype

/-- A container around a layout of two slots, of which one holds the void widget under an alias of
its identifier and the other one is unused. -/
def nestedDocument : Document where
  records := .list [
    ⟨0, [("object", .integer 1), ("title", .string "outer")]⟩,
    ⟨1, [("columns", .array [.integer 1, .integer 2]),
      ("items", .array [.object [("object", .string "2")]]), ("rows", .array [.integer 1])]⟩,
    ⟨2, []⟩]
  types := ["container", "layout", "void"]
  root := .index 0

/-- Three levels are enough for `nestedDocument`, so no path in it is longer. -/
theorem resolve_ok_iff_valid_and_shallow_nested :
    (Registry.core 3).IsLocal ∧
    (∃ widget, (Registry.core 3).resolve nestedDocument (.index 0) = .ok widget) ∧
    ∀ path, (Registry.core 3).IsPath nestedDocument (.index 0) path → path.length ≤ 3 := by
  have hresolve : ∃ widget, (Registry.core 3).resolve nestedDocument (.index 0) = .ok widget :=
    ⟨_, rfl⟩
  have htheorem := resolve_ok_iff_valid_and_shallow (Registry.core 3) nestedDocument (.index 0)
    (core_is_local 3)
  exact ⟨core_is_local 3, hresolve, (htheorem.2.1.mp hresolve).2⟩

end Widgetry.Registry
