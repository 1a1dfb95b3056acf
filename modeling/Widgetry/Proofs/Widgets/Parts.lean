import Widgetry.Proofs.Resolution.Unfolding

/-!
# Parts of resolved widgets

The parts of a widget are the widget itself and all widgets below it. Each part of a resolved widget
is void or comes from the outline of some record, with a widget for each slot. So what holds of all
outlines holds of all parts: `forall_parts_of_resolve_below`. In particular every part has as many
children as its frame has room for, and the names of tabs are those that a record declares:
`parts_of_resolve`.
-/

namespace Widgetry

/-- The number of children of a frame. For custom widgets it is left to their types. -/
def Frame.arity? : Frame → Option Nat
  | .container _ => some 1
  | .layout columns rows => some (columns.length * rows.length)
  | .tabs _ names => some names.length
  | .custom _ _ _ => none
  | _ => some 0

namespace Widget

mutual

/-- A widget and the widgets below it. -/
def parts : Widget → List Widget
  | node frame children => node frame children :: partsOf children

/-- Some widgets and the widgets below them. -/
def partsOf : List Widget → List Widget
  | [] => []
  | widget :: rest => parts widget ++ partsOf rest

end

/-- The widget has as many children as its frame has room for. -/
def IsFull (widget : Widget) : Prop :=
  ∀ arity, widget.frame.arity? = some arity → widget.children.length = arity

end Widget

/-- A record of the document declares tabs of these names. -/
def Document.DeclaresTabs (document : Document) (side : Side) (names : List String) : Prop :=
  ∃ id record objects, document.record? id = some record ∧
    Factory.tabs.read? record.fields = some (.tabs side names, objects)

/-! ## The shape of outlines -/

namespace Factory

/-- The outlines that a factory can yield: the form of the frame, and the number of slots. -/
inductive Yields : Factory → Outline → Prop where
  | void : Yields .void ⟨.void, []⟩
  | text (content) : Yields .text ⟨.text content, []⟩
  | banner (content) : Yields .banner ⟨.banner content, []⟩
  | image (source contain) : Yields .image ⟨.image source contain, []⟩
  | video (source contain) : Yields .video ⟨.video source contain, []⟩
  | audio (source) : Yields .audio ⟨.audio source, []⟩
  | container (title slot) : Yields .container ⟨.container title, [slot]⟩
  | layout (columns rows slots) :
      slots.length = columns.length * rows.length →
      Yields .layout ⟨.layout columns rows, slots⟩
  | tabs (side names slots) : Yields .tabs ⟨.tabs side names, slots⟩
  | custom (type content slots) :
      Yields (.custom type) ⟨.custom type.typeName type.kind content, slots⟩

variable {factory : Factory} {fields : Fields} {chain : List Identifier}

/-- A widget without slots yields its frame. -/
theorem leaf_eq_ok_iff {content : Except ConfigError Frame} {found : Outline} :
    leaf content = .ok found ↔ ∃ frame, content = .ok frame ∧ ⟨frame, []⟩ = found := by
  cases content <;> simp [leaf]

/-- A layout has a slot for each of its items. -/
theorem length_layout_slots (c : Configuration) (position : Nat) (items : List Json) :
    (layoutSlots c position items).length = items.length := by
  induction items generalizing position with
  | nil => rfl
  | cons item items ih => rw [layoutSlots, List.length_cons, List.length_cons, ih]

/-- The outline of a factory has one of the shapes that it can yield. -/
theorem yields_of_outline {found : Outline} (h : factory.outline fields chain = .ok found) :
    factory.Yields found := by
  cases factory with
  | void =>
      cases h
      exact .void
  | text =>
      obtain ⟨frame, hframe, rfl⟩ := leaf_eq_ok_iff.mp h
      obtain ⟨content, _, rfl⟩ := map_eq_ok.mp hframe
      exact .text content
  | banner =>
      obtain ⟨frame, hframe, rfl⟩ := leaf_eq_ok_iff.mp h
      obtain ⟨content, _, rfl⟩ := map_eq_ok.mp hframe
      exact .banner content
  | image =>
      obtain ⟨frame, hframe, rfl⟩ := leaf_eq_ok_iff.mp h
      simp only [bind_eq_ok, Except.ok.injEq] at hframe
      obtain ⟨source, _, contain, _, rfl⟩ := hframe
      exact .image source contain
  | video =>
      obtain ⟨frame, hframe, rfl⟩ := leaf_eq_ok_iff.mp h
      simp only [bind_eq_ok, Except.ok.injEq] at hframe
      obtain ⟨source, _, contain, _, rfl⟩ := hframe
      exact .video source contain
  | audio =>
      obtain ⟨frame, hframe, rfl⟩ := leaf_eq_ok_iff.mp h
      obtain ⟨source, _, rfl⟩ := map_eq_ok.mp hframe
      exact .audio source
  | container =>
      simp only [outline, map_error_eq_ok, containerOutline, bind_eq_ok, Except.ok.injEq] at h
      obtain ⟨title, _, object, _, rfl⟩ := h
      exact .container title (.ok object)
  | layout =>
      simp only [outline, layoutOutline, bind_eq_ok] at h
      obtain ⟨columns, _, rows, _, value, _, h⟩ := h
      split at h
      next items =>
        split at h
        next => cases h
        next hcapacity =>
          cases h
          refine .layout columns rows _ ?_
          rw [List.length_append, length_layout_slots, List.length_replicate]
          omega
      next => cases h
  | tabs =>
      simp only [outline, map_error_eq_ok, tabsOutline, bind_eq_ok, Except.ok.injEq] at h
      obtain ⟨side, _, items, _, rfl⟩ := h
      exact .tabs (side.getD .top) _ _
  | custom type =>
      unfold outline at h
      dsimp only at h
      split at h
      next content slots _ =>
        cases h
        exact .custom type content slots
      next => cases h

/-- Tabs are read from fields with a slot for each name. There is at least one name, and none occurs
twice. -/
theorem tabs_of_read? {side : Side} {names : List String} {objects : List (Option Identifier)}
    (h : Factory.tabs.read? fields = some (.tabs side names, objects)) :
    objects.length = names.length ∧ names ≠ [] ∧ names.Nodup := by
  simp only [read?, readTabs?, Option.bind_eq_bind, Option.bind_eq_some_iff] at h
  obtain ⟨_, _, items, _, tabs, htabs, h⟩ := h
  split at h
  next hvalid =>
    cases h
    refine ⟨by rw [List.length_map, List.length_map], ?_, hvalid.2⟩
    -- There are items, and each of them gives a name.
    intro hnone
    cases items with
    | nil => exact hvalid.1 rfl
    | cons item items =>
        obtain ⟨tab, rest, _, _, rfl⟩ := map_m_cons_eq_some.mp htabs
        cases hnone
  next => cases h

/-- Faultless tabs are what can be read from the fields. -/
theorem read?_of_tabs {side : Side} {names : List String} {objects : List (Option Identifier)}
    (h : factory.outline fields chain = .ok ⟨.tabs side names, objects.map .ok⟩) :
    Factory.tabs.read? fields = some (.tabs side names, objects) := by
  cases yields_of_outline h with
  | tabs _ _ _ => exact outline_eq_ok_iff.mp h

/-- Apart from tabs, all outlines have as many slots as their frames have room for. -/
theorem Yields.length_slots {found : Outline} {arity : Nat} (h : factory.Yields found)
    (harity : found.frame.arity? = some arity) :
    (∃ side names, found.frame = .tabs side names) ∨ found.slots.length = arity := by
  cases h with
  | void | text | banner | image | video | audio | container =>
      cases harity
      exact .inr rfl
  | layout columns rows slots hcapacity =>
      cases harity
      exact .inr hcapacity
  | tabs side names slots => exact .inl ⟨side, names, rfl⟩
  | custom type content slots => cases harity

/-- A faultless outline has as many slots as its frame has room for. -/
theorem length_of_outline {frame : Frame} {objects : List (Option Identifier)} {arity : Nat}
    (h : factory.outline fields chain = .ok ⟨frame, objects.map .ok⟩)
    (harity : frame.arity? = some arity) : objects.length = arity := by
  rcases (yields_of_outline h).length_slots harity with ⟨side, names, htabs⟩ | hlength
  · -- Items of tabs can have faults, and only without them there is a name for each slot.
    obtain rfl : frame = .tabs side names := htabs
    cases harity
    exact (tabs_of_read? (read?_of_tabs h)).1
  · rw [← hlength]
    exact (List.length_map _).symm

end Factory

/-! ## Parts -/

namespace Registry

variable {registry : Registry} {document : Document} {p : Widget → Prop} {budget : Nat}
  {ancestry : List Identifier} {id : Identifier} {widget : Widget}

/-- What holds of the parts of all widgets that fit slots holds of their parts together. -/
theorem forall_parts_of_fits (hvoid : p .void) {resolve : Identifier → Except Error Widget}
    (hresolve : ∀ id widget, resolve id = .ok widget → ∀ part ∈ widget.parts, p part)
    {objects : List (Option Identifier)} {widgets : List Widget}
    (h : List.Forall₂ (Fits resolve) objects widgets) :
    ∀ part ∈ Widget.partsOf widgets, p part := by
  induction h with
  | nil =>
      intro part hpart
      rw [Widget.partsOf] at hpart
      cases hpart
  | @cons object widget objects widgets hwidget _ ih =>
      rw [Widget.partsOf, List.forall_mem_append]
      refine ⟨?_, ih⟩
      cases object with
      | none =>
          obtain rfl : widget = .void := hwidget
          rw [Widget.void, Widget.parts, Widget.partsOf, List.forall_mem_singleton]
          exact hvoid
      | some id => exact hresolve id widget hwidget

/-- What holds of the void widget and of all faultless outlines with a widget for each slot holds of
all parts of a resolved widget. -/
theorem forall_parts_of_resolve_below (hvoid : p .void)
    (hnode : ∀ id chain frame (objects : List (Option Identifier)) children,
      registry.outline document id chain = .ok ⟨frame, objects.map .ok⟩ →
      objects.length = children.length → p (.node frame children))
    (h : registry.resolveBelow document budget ancestry id = .ok widget) :
    ∀ part ∈ widget.parts, p part := by
  induction budget generalizing ancestry id widget with
  | zero =>
      rw [resolve_below_zero] at h
      split at h <;> cases h
  | succ budget ih =>
      rw [resolve_below_succ] at h
      split at h
      · cases h
      · simp only [bind_eq_ok, fill_eq_ok] at h
        obtain ⟨⟨frame, slots⟩, houtline, children, ⟨objects, rfl, hfits⟩, hwidget⟩ := h
        cases hwidget
        rw [Widget.parts, List.forall_mem_cons]
        exact ⟨hnode _ _ frame objects children houtline hfits.length_eq,
          forall_parts_of_fits hvoid (fun child found hchild => ih hchild) hfits⟩

/-- Every part of a resolved widget is full, and tabs among them have names that a record
declares. -/
theorem parts_of_resolve (h : registry.resolve document id = .ok widget) :
    ∀ part ∈ widget.parts, part.IsFull ∧
      ∀ side names, part.frame = .tabs side names → document.DeclaresTabs side names := by
  refine forall_parts_of_resolve_below ?_ ?_ h
  · refine ⟨fun arity harity => ?_, fun side names htabs => ?_⟩
    · cases harity
      rfl
    · cases htabs
  · intro reference chain frame objects children houtline hlength
    simp only [outline, bind_eq_ok, map_error_eq_ok] at houtline
    obtain ⟨⟨factory, fields⟩, hlookup, houtline⟩ := houtline
    obtain ⟨record, name, hrecord, _, _, rfl⟩ := lookup_eq_ok hlookup
    refine ⟨fun arity harity => ?_, fun side names htabs => ?_⟩
    · rw [← Factory.length_of_outline houtline harity]
      exact hlength.symm
    · obtain rfl : frame = .tabs side names := htabs
      exact ⟨reference, record, objects, hrecord, Factory.read?_of_tabs houtline⟩

end Registry

end Widgetry
