import Mathlib.Data.List.Nodup
import Widgetry.Proofs.Results
import Widgetry.Registry

/-!
# What the fields of a widget say

`Factory.read?` gives the frame of a widget and the widgets it refers to, from its fields alone and
without regard to the order in which faults come up. `outline_eq_ok_iff` shows that a factory gives
a faultless outline exactly for the fields that can be read so. `Factory.references` lists the
widgets that fields refer to, be the fields faultless or not.
-/

namespace Widgetry

namespace Factory

/-- The text of a field that is a string or a number. -/
def labelOf? (field : String) (fields : Fields) : Option String :=
  (Table.get? field fields).bind Configuration.labelText?

/-- What the field `object` refers to: a widget, or no widget if it is null. -/
def objectOf? (fields : Fields) : Option (Option Identifier) :=
  (Table.get? "object" fields).bind fun value =>
    if value.isNull then some none else (Identifier.ofJson? value).map some

/-- The items of a widget. -/
def itemsOf? (fields : Fields) : Option (List Json) :=
  match Table.get? "items" fields with
  | some (.array items) => some items
  | _ => none

/-- What an item of a layout refers to. -/
def layoutItem? : Json → Option (Option Identifier)
  | .object fields => objectOf? fields
  | _ => none

/-- The name of an item of a tabs widget, and what the item refers to. -/
def tabItem? : Json → Option (String × Option Identifier)
  | .object fields => do
      let name ← labelOf? "name" fields
      let object ← objectOf? fields
      some (name, object)
  | _ => none

/-- The frame and the slots of a layout. Its items fill the first slots, and the others are
empty. -/
def readLayout? (c : Configuration) : Option (Frame × List (Option Identifier)) := do
  let columns ← (c.positiveNumbers "columns").toOption
  let rows ← (c.positiveNumbers "rows").toOption
  let items ← itemsOf? c.fields
  let objects ← items.mapM layoutItem?
  if items.length ≤ columns.length * rows.length then
    some (.layout columns rows,
      objects ++ List.replicate (columns.length * rows.length - items.length) none)
  else none

/-- The frame and the slots of a tabs widget. It has at least one tab, and no name occurs twice. -/
def readTabs? (c : Configuration) : Option (Frame × List (Option Identifier)) := do
  let side ← (c.optional "position" (Json.choice? Side.ofName?)
    "one of top, right, bottom, left").toOption
  let items ← itemsOf? c.fields
  let tabs ← items.mapM tabItem?
  if items ≠ [] ∧ (tabs.map Prod.fst).Nodup then
    some (.tabs (side.getD .top) (tabs.map Prod.fst), tabs.map Prod.snd)
  else none

/-- The frame of a widget without slots. -/
def readLeaf? (frame : Except ConfigError Frame) : Option (Frame × List (Option Identifier)) :=
  frame.toOption.map fun frame => (frame, [])

/-- The frame and the slots that the fields of a widget describe, if they pass all its checks. -/
def read? (factory : Factory) (fields : Fields) : Option (Frame × List (Option Identifier)) :=
  let c := Configuration.ofFields factory.typeName fields
  match factory with
  | .void => some (.void, [])
  | .text => readLeaf? (.text <$> Textual.configure c .left)
  | .banner => readLeaf? (.banner <$> Textual.configure c .center)
  | .image => readLeaf? (do .ok (.image (← source c) (← contain c)))
  | .video => readLeaf? (do .ok (.video (← source c) (← contain c)))
  | .audio => readLeaf? (.audio <$> source c)
  | .container => do
      let title ← labelOf? "title" fields
      let object ← objectOf? fields
      some (.container title, [object])
  | .layout => readLayout? c
  | .tabs => readTabs? c
  | .custom type => do
      let (content, slots) ← (type.outline c []).toOption
      let objects ← slots.mapM Except.toOption
      some (.custom type.typeName type.kind content, objects)

/-- The widget that the field `object` names. A null or malformed field names none. -/
def objectReferences (fields : Fields) : List Identifier :=
  ((Table.get? "object" fields).bind Identifier.ofJson?).toList

/-- The widget that an item names. -/
def itemReferences : Json → List Identifier
  | .object fields => objectReferences fields
  | _ => []

/-- The widgets that the fields of a widget name: the `object` of a container, and the `object` of
each item of a layout or tabs widget. -/
def references (factory : Factory) (fields : Fields) : List Identifier :=
  match factory with
  | .container => objectReferences fields
  | .layout => ((itemsOf? fields).getD []).flatMap itemReferences
  | .tabs => ((itemsOf? fields).getD []).flatMap itemReferences
  | .custom type =>
      match type.outline (Configuration.ofFields type.typeName fields) [] with
      | .ok (_, slots) => slots.flatMap fun slot => (slot.toOption.bind id).toList
      | .error _ => []
  | _ => []

/-- The widgets of a factory depend on their fields alone, and not on the chain of identifiers
above them. -/
def IsLocal (factory : Factory) : Prop :=
  ∀ fields chain, factory.outline fields chain = factory.outline fields []

/-- Only custom types can look at the chain of identifiers. -/
theorem is_local_of_not_custom {factory : Factory} (h : ∀ type, factory ≠ .custom type) :
    factory.IsLocal := by
  intro fields chain
  cases factory with
  | custom type => exact absurd rfl (h type)
  | _ => rfl

/-! ## Fields -/

/-- A required field is present and not null. -/
theorem require_eq_ok {c : Configuration} {field : String} {value : Json} :
    c.require field = .ok value ↔
      Table.get? field c.fields = some value ∧ value.isNull = false := by
  unfold Configuration.require Configuration.get?
  cases hvalue : Table.get? field c.fields with
  | none => simp
  | some found =>
      cases hnull : found.isNull with
      | true =>
          simp only [Option.filter, hnull]
          simp
          rintro rfl
          exact hnull
      | false =>
          simp only [Option.filter, hnull]
          simp
          rintro rfl
          exact hnull

/-- A label is read from a string or a number. -/
theorem label_eq_ok {c : Configuration} {field text : String} :
    c.label field = .ok text ↔ labelOf? field c.fields = some text := by
  simp only [Configuration.label, bind_eq_ok, require_eq_ok, labelOf?, Option.bind_eq_some_iff]
  constructor
  · rintro ⟨value, ⟨hvalue, _⟩, htext⟩
    refine ⟨value, hvalue, ?_⟩
    cases hlabel : Configuration.labelText? value <;> simp_all
  · rintro ⟨value, hvalue, htext⟩
    refine ⟨value, ⟨hvalue, ?_⟩, by simp [htext]⟩
    cases value <;> simp_all [Configuration.labelText?, Json.isNull]

/-- A reference is read from null, an integer or a string. -/
theorem reference_eq_ok {c : Configuration} {object : Option Identifier} :
    c.reference "object" = .ok object ↔ objectOf? c.fields = some object := by
  unfold Configuration.reference objectOf?
  cases hvalue : Table.get? "object" c.fields with
  | none => simp
  | some value =>
      cases hnull : value.isNull with
      | true => simp [hnull]
      | false => cases hid : Identifier.ofJson? value <;> simp [hnull, hid]

/-- The items of a widget are required to be an array. -/
theorem require_items_eq_ok {c : Configuration} {items : List Json} :
    c.require "items" = .ok (.array items) ↔ itemsOf? c.fields = some items := by
  rw [require_eq_ok, itemsOf?]
  cases hvalue : Table.get? "items" c.fields with
  | none => simp
  | some value => cases value <;> simp [Json.isNull]

/-- An array field has at least one item. -/
theorem array_items_eq_ok {c : Configuration} {items : List Json} :
    c.array "items" = .ok items ↔ itemsOf? c.fields = some items ∧ items ≠ [] := by
  rw [← require_items_eq_ok, Configuration.array, bind_eq_ok]
  constructor
  · rintro ⟨value, hvalue, hitems⟩
    cases value with
    | array list =>
        cases list with
        | nil => simp at hitems
        | cons item list =>
            cases hitems
            exact ⟨hvalue, by simp⟩
    | _ => simp at hitems
  · rintro ⟨hitems, hne⟩
    refine ⟨_, hitems, ?_⟩
    cases items with
    | nil => exact absurd rfl hne
    | cons item items => rfl

/-! ## Items -/

/-- The slot of an item of a layout is faultless if the item can be read. -/
theorem layout_slot_eq_ok {c : Configuration} {position : Nat} {item : Json}
    {object : Option Identifier} :
    layoutSlot c position item = .ok object ↔ layoutItem? item = some object := by
  cases item with
  | object fields =>
      simp only [layoutSlot, Configuration.nested, bind, Except.bind, layoutItem?]
      exact reference_eq_ok
  | _ => simp [layoutSlot, Configuration.nested, bind, Except.bind, layoutItem?]

/-- The slots of the items of a layout are faultless if all items can be read. -/
theorem layout_slots_eq_map_ok {c : Configuration} {position : Nat} {items : List Json}
    {objects : List (Option Identifier)} :
    layoutSlots c position items = objects.map .ok ↔ items.mapM layoutItem? = some objects := by
  induction items generalizing position objects with
  | nil => cases objects <;> simp [layoutSlots]
  | cons item items ih =>
      rw [map_m_cons_eq_some]
      cases objects with
      | nil => simp [layoutSlots]
      | cons object objects =>
          simp only [layoutSlots, List.map_cons, List.cons.injEq, layout_slot_eq_ok, ih]
          constructor
          · rintro ⟨hobject, hobjects⟩
            exact ⟨object, objects, hobject, hobjects, rfl, rfl⟩
          · rintro ⟨_, _, hobject, hobjects, rfl, rfl⟩
            exact ⟨hobject, hobjects⟩

/-- An item of a tabs widget is faultless if it can be read and its name is new. -/
theorem tab_eq_ok {c : Configuration} {seen : List String} {position : Nat} {item : Json}
    {name : String} {object : Option Identifier} :
    tab c seen position item = .ok (name, object) ↔
      tabItem? item = some (name, object) ∧ name ∉ seen := by
  cases item with
  | object fields =>
      simp only [tab, Configuration.nested, tabItem?, bind_eq_ok, Except.ok.injEq,
        exists_eq_left', Option.bind_eq_bind, Option.bind_eq_some_iff, label_eq_ok]
      constructor
      · rintro ⟨found, hname, hrest⟩
        split at hrest
        · cases hrest
        · rename_i hnew
          obtain ⟨reference, hobject, heq⟩ := bind_eq_ok.mp hrest
          cases heq
          exact ⟨⟨name, hname, object, reference_eq_ok.mp hobject, rfl⟩, by simpa using hnew⟩
      · rintro ⟨⟨found, hname, reference, hobject, heq⟩, hnew⟩
        cases heq
        refine ⟨name, hname, ?_⟩
        rw [if_neg (by simpa using hnew), bind_eq_ok]
        exact ⟨object, reference_eq_ok.mpr hobject, rfl⟩
  | _ => simp [tab, Configuration.nested, bind, Except.bind, tabItem?]

/-- The items of a tabs widget are faultless if all can be read, no name occurs twice, and none was
seen before. -/
theorem tab_items_eq_map_ok {c : Configuration} {seen : List String} {position : Nat}
    {items : List Json} {tabs : List (String × Option Identifier)} :
    tabItems c seen position items = tabs.map .ok ↔
      items.mapM tabItem? = some tabs ∧ (tabs.map Prod.fst).Nodup ∧
        ∀ name ∈ tabs.map Prod.fst, name ∉ seen := by
  induction items generalizing seen position tabs with
  | nil => cases tabs <;> simp [tabItems]
  | cons item items ih =>
      rw [map_m_cons_eq_some, tabItems]
      cases htab : tab c seen position item with
      | error e =>
          cases tabs with
          | nil => simp
          | cons found tabs =>
              constructor
              · intro h
                simp at h
              · rintro ⟨⟨_, _, hitem, _, heq⟩, _, hnew⟩
                cases heq
                have hok : tab c seen position item = .ok found :=
                  tab_eq_ok.mpr ⟨hitem, hnew _ (by simp)⟩
                rw [htab] at hok
                cases hok
      | ok found =>
          obtain ⟨name, object⟩ := found
          obtain ⟨hitem, hnew⟩ := tab_eq_ok.mp htab
          cases tabs with
          | nil => simp
          | cons next tabs =>
              simp only [List.map_cons, List.cons.injEq, Except.ok.injEq, ih, hitem,
                Option.some.injEq, List.nodup_cons, List.mem_append, List.mem_singleton,
                List.forall_mem_cons, not_or]
              constructor
              · rintro ⟨rfl, hitems, hnodup, hseen⟩
                exact ⟨⟨_, _, rfl, hitems, rfl, rfl⟩,
                  ⟨fun h => (hseen _ h).2 rfl, hnodup⟩, hnew, fun other h => (hseen other h).1⟩
              · rintro ⟨⟨_, _, rfl, hitems, rfl, rfl⟩, ⟨hfresh, hnodup⟩, _, hseen⟩
                refine ⟨rfl, hitems, hnodup, fun other h => ⟨hseen other h, ?_⟩⟩
                rintro rfl
                exact hfresh h

/-! ## Outlines -/

/-- The outline of a widget without slots is faultless if its frame is. -/
theorem leaf_eq_ok {content : Except ConfigError Frame} {frame : Frame}
    {objects : List (Option Identifier)} :
    leaf content = .ok ⟨frame, objects.map .ok⟩ ↔
      readLeaf? content = some (frame, objects) := by
  cases content with
  | error e => simp [leaf, readLeaf?, Except.toOption]
  | ok found => simp [leaf, readLeaf?, Except.toOption, eq_comm]

/-- The outline of a container is faultless if its fields can be read. -/
theorem container_outline_eq_ok {c : Configuration} {frame : Frame}
    {objects : List (Option Identifier)} :
    containerOutline c = .ok ⟨frame, objects.map .ok⟩ ↔
      ∃ title object, labelOf? "title" c.fields = some title ∧
        objectOf? c.fields = some object ∧ frame = .container title ∧ objects = [object] := by
  simp only [containerOutline, bind_eq_ok, label_eq_ok, reference_eq_ok, Except.ok.injEq,
    Outline.mk.injEq]
  constructor
  · rintro ⟨title, htitle, object, hobject, rfl, hslots⟩
    refine ⟨title, object, htitle, hobject, rfl, ?_⟩
    cases objects with
    | nil => simp at hslots
    | cons first rest => simp_all
  · rintro ⟨title, object, htitle, hobject, rfl, rfl⟩
    exact ⟨title, htitle, object, hobject, rfl, rfl⟩

/-- The slots of a layout are faultless if those of its items are. -/
theorem layout_slots_padded {c : Configuration} {items : List Json} {padding : Nat}
    {objects : List (Option Identifier)} :
    layoutSlots c 0 items ++ List.replicate padding (.ok none) = objects.map .ok ↔
      ∃ found, items.mapM layoutItem? = some found ∧
        objects = found ++ List.replicate padding none := by
  constructor
  · intro h
    obtain ⟨found, rest, rfl, hfound, hrest⟩ := List.map_eq_append_iff.mp h.symm
    refine ⟨found, layout_slots_eq_map_ok.mp hfound.symm, ?_⟩
    congr 1
    have hinjective : Function.Injective (Except.ok : _ → Slot) := fun _ _ => Except.ok.inj
    apply hinjective.list_map
    simpa using hrest
  · rintro ⟨found, hitems, rfl⟩
    rw [layout_slots_eq_map_ok.mpr hitems]
    simp

/-- The outline of a layout is faultless if its fields can be read. -/
theorem layout_outline_eq_ok {c : Configuration} {frame : Frame}
    {objects : List (Option Identifier)} :
    layoutOutline c = .ok ⟨frame, objects.map .ok⟩ ↔ readLayout? c = some (frame, objects) := by
  simp only [layoutOutline, readLayout?, bind_eq_ok, map_error_eq_ok, Option.bind_eq_bind,
    Option.bind_eq_some_iff, to_option_eq_some]
  refine exists_congr fun columns => and_congr_right fun hcolumns =>
    exists_congr fun rows => and_congr_right fun hrows => ?_
  constructor
  · rintro ⟨value, hvalue, h⟩
    cases value with
    | array items =>
        have hitems := require_items_eq_ok.mp hvalue
        simp only at h
        split at h
        · cases h
        · rename_i hle
          simp only [Except.ok.injEq, Outline.mk.injEq] at h
          obtain ⟨found, hfound, rfl⟩ := layout_slots_padded.mp h.2
          exact ⟨items, hitems, found, hfound, by simp [Nat.not_lt.mp hle, h.1]⟩
    | _ => cases h
  · rintro ⟨items, hitems, found, hfound, h⟩
    refine ⟨.array items, require_items_eq_ok.mpr hitems, ?_⟩
    split at h
    · rename_i hle
      cases h
      simp only [Nat.not_lt.mpr hle, if_false]
      rw [layout_slots_padded.mpr ⟨found, hfound, rfl⟩]
    · cases h

/-- Items of a tabs widget whose slots are faultless are faultless themselves. -/
theorem tabs_of_slots {found : List (Except ConfigError (String × Option Identifier))}
    {objects : List (Option Identifier)}
    (h : found.map (Except.map Prod.snd) = objects.map .ok) :
    ∃ tabs : List (String × Option Identifier), found = tabs.map .ok ∧
      objects = tabs.map Prod.snd := by
  induction found generalizing objects with
  | nil =>
      cases objects with
      | nil => exact ⟨[], rfl, rfl⟩
      | cons object objects => simp at h
  | cons first found ih =>
      cases objects with
      | nil => simp at h
      | cons object objects =>
          simp only [List.map_cons, List.cons.injEq] at h
          obtain ⟨tab, rfl, rfl⟩ := map_eq_ok.mp h.1
          obtain ⟨tabs, rfl, rfl⟩ := ih h.2
          exact ⟨tab :: tabs, rfl, rfl⟩

/-- The names of faultless items. -/
theorem filter_map_tab_name (tabs : List (String × Option Identifier)) :
    (tabs.map .ok).filterMap tabName? = tabs.map Prod.fst := by
  induction tabs with
  | nil => rfl
  | cons tab tabs ih => simpa [tabName?] using ih

/-- The outline of a tabs widget is faultless if its fields can be read. -/
theorem tabs_outline_eq_ok {c : Configuration} {frame : Frame}
    {objects : List (Option Identifier)} :
    tabsOutline c = .ok ⟨frame, objects.map .ok⟩ ↔ readTabs? c = some (frame, objects) := by
  simp only [tabsOutline, readTabs?, bind_eq_ok, array_items_eq_ok, Option.bind_eq_bind,
    Option.bind_eq_some_iff, to_option_eq_some, Except.ok.injEq, Outline.mk.injEq]
  refine exists_congr fun side => and_congr_right fun hside => ?_
  constructor
  · rintro ⟨items, ⟨hitems, hne⟩, rfl, hslots⟩
    obtain ⟨tabs, hfound, rfl⟩ := tabs_of_slots hslots
    obtain ⟨htabs, hnodup, _⟩ := tab_items_eq_map_ok.mp hfound
    refine ⟨items, hitems, tabs, htabs, ?_⟩
    rw [hfound, filter_map_tab_name, if_pos ⟨hne, hnodup⟩]
  · rintro ⟨items, hitems, tabs, htabs, h⟩
    split at h
    · rename_i hvalid
      cases h
      have hfound : tabItems c [] 0 items = tabs.map .ok :=
        tab_items_eq_map_ok.mpr ⟨htabs, hvalid.2, fun _ _ => List.not_mem_nil⟩
      refine ⟨items, ⟨hitems, hvalid.1⟩, ?_, ?_⟩
      · rw [hfound, filter_map_tab_name]
      · rw [hfound]
        simp [Except.map]
    · cases h

/-- Slots are faultless if each of them has a reference, be it to no widget. -/
theorem slots_eq_map_ok {slots : List Slot} {objects : List (Option Identifier)} :
    slots = objects.map .ok ↔ slots.mapM Except.toOption = some objects := by
  induction slots generalizing objects with
  | nil => cases objects <;> simp
  | cons slot slots ih =>
      rw [map_m_cons_eq_some]
      cases objects with
      | nil => simp
      | cons object objects =>
          simp only [List.map_cons, List.cons.injEq, ih, to_option_eq_some]
          constructor
          · rintro ⟨hslot, hslots⟩
            exact ⟨object, objects, hslot, hslots, rfl, rfl⟩
          · rintro ⟨_, _, hslot, hslots, rfl, rfl⟩
            exact ⟨hslot, hslots⟩

/-- A factory gives a faultless outline exactly for the fields that can be read. -/
theorem outline_eq_ok_iff {factory : Factory} {fields : Fields} {frame : Frame}
    {objects : List (Option Identifier)} :
    factory.outline fields [] = .ok ⟨frame, objects.map .ok⟩ ↔
      factory.read? fields = some (frame, objects) := by
  cases factory with
  | void => simp [outline, read?, eq_comm]
  | text | banner | image | video | audio => exact leaf_eq_ok
  | container =>
      simp only [outline, read?, map_error_eq_ok, container_outline_eq_ok, Option.bind_eq_bind,
        Option.bind_eq_some_iff, Option.some.injEq, Prod.mk.injEq]
      constructor
      · rintro ⟨title, object, htitle, hobject, rfl, rfl⟩
        exact ⟨title, htitle, object, hobject, rfl, rfl⟩
      · rintro ⟨title, htitle, object, hobject, rfl, rfl⟩
        exact ⟨title, object, htitle, hobject, rfl, rfl⟩
  | layout => exact layout_outline_eq_ok
  | tabs =>
      simp only [outline, read?, map_error_eq_ok]
      exact tabs_outline_eq_ok
  | custom type =>
      simp only [outline, read?, Factory.typeName]
      cases type.outline (Configuration.ofFields type.typeName fields) [] with
      | error e => simp [Except.toOption]
      | ok found =>
          simp only [Except.toOption, Except.ok.injEq, Outline.mk.injEq, slots_eq_map_ok,
            Option.bind_eq_bind, Option.bind_some, Option.bind_eq_some_iff, Option.some.injEq,
            Prod.mk.injEq]
          constructor
          · rintro ⟨rfl, hslots⟩
            exact ⟨objects, hslots, rfl, rfl⟩
          · rintro ⟨_, hslots, rfl, rfl⟩
            exact ⟨rfl, hslots⟩

/-! ## References -/

/-- A readable `object` names the widget that it refers to. -/
theorem object_references_eq {fields : Fields} {object : Option Identifier}
    (h : objectOf? fields = some object) : objectReferences fields = object.toList := by
  obtain ⟨value, hvalue, hobject⟩ := Option.bind_eq_some_iff.mp h
  unfold objectReferences
  rw [hvalue, Option.bind_some]
  cases value with
  | null =>
      simp only [Json.isNull, if_true, Option.some.injEq] at hobject
      subst hobject
      rfl
  | _ =>
      simp only [Json.isNull, Bool.false_eq_true, if_false, Option.map_eq_some_iff] at hobject
      obtain ⟨id, hid, rfl⟩ := hobject
      rw [hid]

/-- Readable items of a layout name the widgets that they refer to. -/
theorem layout_references_eq {items : List Json} {objects : List (Option Identifier)}
    (h : items.mapM layoutItem? = some objects) :
    items.flatMap itemReferences = objects.flatMap Option.toList := by
  induction items generalizing objects with
  | nil =>
      cases h
      rfl
  | cons item items ih =>
      obtain ⟨object, rest, hitem, hrest, rfl⟩ := map_m_cons_eq_some.mp h
      cases item with
      | object fields =>
          rw [List.flatMap_cons, List.flatMap_cons, ih hrest, itemReferences,
            object_references_eq hitem]
      | _ => cases hitem

/-- An item of a tabs widget that can be read can be read as an item of a layout. -/
theorem layout_item_of_tab {item : Json} {tab : String × Option Identifier}
    (h : tabItem? item = some tab) : layoutItem? item = some tab.2 := by
  cases item with
  | object fields =>
      simp only [tabItem?, Option.bind_eq_bind, Option.bind_eq_some_iff, Option.some.injEq] at h
      obtain ⟨_, _, _, hobject, rfl⟩ := h
      exact hobject
  | _ => cases h

/-- Readable items of a tabs widget are readable as items of a layout. -/
theorem layout_items_of_tabs {items : List Json} {tabs : List (String × Option Identifier)}
    (h : items.mapM tabItem? = some tabs) :
    items.mapM layoutItem? = some (tabs.map Prod.snd) := by
  induction items generalizing tabs with
  | nil =>
      cases h
      rfl
  | cons item items ih =>
      obtain ⟨tab, rest, hitem, hrest, rfl⟩ := map_m_cons_eq_some.mp h
      exact map_m_cons_eq_some.mpr
        ⟨tab.2, rest.map Prod.snd, layout_item_of_tab hitem, ih hrest, rfl⟩

/-- Fields that can be read name exactly the widgets in their slots. -/
theorem references_eq {factory : Factory} {fields : Fields} {frame : Frame}
    {objects : List (Option Identifier)} (h : factory.read? fields = some (frame, objects)) :
    factory.references fields = objects.flatMap Option.toList := by
  cases factory with
  | void =>
      cases h
      rfl
  | text | banner | image | video | audio =>
      obtain ⟨_, _, heq⟩ := Option.map_eq_some_iff.mp h
      cases heq
      rfl
  | container =>
      simp only [read?, Option.bind_eq_bind, Option.bind_eq_some_iff, Option.some.injEq,
        Prod.mk.injEq] at h
      obtain ⟨title, _, object, hobject, _, rfl⟩ := h
      simpa [references] using object_references_eq hobject
  | layout =>
      simp only [read?, readLayout?, Option.bind_eq_bind, Option.bind_eq_some_iff] at h
      obtain ⟨columns, _, rows, _, items, hitems, found, hfound, h⟩ := h
      split at h
      · cases h
        simp only [references, Configuration.ofFields] at hitems ⊢
        rw [hitems, Option.getD_some, layout_references_eq hfound]
        simp
      · cases h
  | tabs =>
      simp only [read?, readTabs?, Option.bind_eq_bind, Option.bind_eq_some_iff] at h
      obtain ⟨side, _, items, hitems, tabs, htabs, h⟩ := h
      split at h
      · cases h
        simp only [references, Configuration.ofFields] at hitems ⊢
        rw [hitems, Option.getD_some, layout_references_eq (layout_items_of_tabs htabs)]
      · cases h
  | custom type =>
      simp only [read?, Option.bind_eq_bind, Option.bind_eq_some_iff, to_option_eq_some,
        Option.some.injEq, Prod.mk.injEq, Factory.typeName] at h
      obtain ⟨⟨content, slots⟩, hfound, found, hslots, _, rfl⟩ := h
      simp only [references, hfound]
      have hslots : slots = found.map .ok := slots_eq_map_ok.mpr hslots
      rw [hslots, List.flatMap_map]
      rfl

end Factory

end Widgetry
