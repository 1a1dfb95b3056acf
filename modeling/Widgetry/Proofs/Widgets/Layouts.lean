import Widgetry.Proofs.Checking.Checks
import Widgetry.Proofs.Rendering.Repetition
import Widgetry.Proofs.Resolution.Unfolding

/-!
# Layouts

A layout has a slot for each pair of a column and a row. Its items take the first slots, and the
slots that are left show a hidden node. More items than slots are an error, whatever the items are.
`layouts_show_items_in_order` says this of the node that is drawn after all media have arrived, in
whatever order they arrive.

An error of a widget in a slot can be of the same kind. It is told apart by its numbers: each error
of this kind names fewer slots than items (`lt_of_capacity`).
-/

namespace Widgetry

/-- The node of an empty slot. -/
def Node.hidden : Node :=
  ⟨.block, some "void", [("hidden", "")], [("display", "none")], none, []⟩

/-- Widgets are drawn one by one. -/
theorem Widget.draw_all_eq_map (media : Media) (widgets : List Widget) :
    drawAll media widgets = widgets.map (draw media) := by
  induction widgets with
  | nil => rw [drawAll, List.map_nil]
  | cons widget rest ih => rw [drawAll, List.map_cons, ih]

theorem Widget.draw_void (media : Media) : void.draw media = .hidden := by
  rw [void, draw]
  rfl

/-- A layout draws a child in each slot and nothing else. -/
theorem Widget.children_draw_layout (media : Media) (columns rows : List Binary64)
    (children : List Widget) :
    ((node (.layout columns rows) children).draw media).children = children.map (draw media) := by
  rw [draw, draw_all_eq_map]
  exact List.nil_append _

namespace Factory

/-- A field gives the tracks of a grid: one or more numbers, all of them greater than zero. -/
def HasTracks (fields : Fields) (field : String) (count : Nat) : Prop :=
  ∃ sizes, Table.get? field fields = some (.array sizes) ∧ sizes.length = count ∧ 0 < count ∧
    ∀ size ∈ sizes, ∃ x, size.binary64? = some x ∧ x.isPositive = true

/-- The fields of a layout: its columns, its rows, and an array of any items. -/
structure IsGrid (fields : Fields) (columns rows : Nat) (items : List Json) : Prop where
  columns : HasTracks fields "columns" columns
  rows : HasTracks fields "rows" rows
  items : Table.get? "items" fields = some (.array items)

/-- `ShowsItem renders item shown` says that `shown` is the node of an item: that of the widget it
refers to, or the hidden node if it refers to none. -/
inductive ShowsItem (renders : Identifier → Node → Prop) : Json → Node → Prop where
  | empty (members) :
      Table.get? "object" members = some .null → ShowsItem renders (.object members) .hidden
  | filled (members value reference shown) :
      Table.get? "object" members = some value → Identifier.ofJson? value = some reference →
      renders reference shown → ShowsItem renders (.object members) shown

variable {fields : Fields} {columns rows : Nat} {items : List Json} {chain : List Identifier}

/-! ## The room of a layout -/

/-- Items that are numbers greater than zero are read as such. -/
theorem positive_items_succeeds {c : Configuration} {field : String} {position : Nat}
    {sizes : List Json}
    (hsizes : ∀ size ∈ sizes, ∃ x, size.binary64? = some x ∧ x.isPositive = true) :
    ∃ xs, c.positiveItems field position sizes = .ok xs := by
  induction sizes generalizing position with
  | nil => exact ⟨[], rfl⟩
  | cons size rest ih =>
      rw [List.forall_mem_cons] at hsizes
      obtain ⟨⟨x, hx, hpositive⟩, hrest⟩ := hsizes
      obtain ⟨xs, hxs⟩ := ih hrest
      refine ⟨x :: xs, ?_⟩
      rw [Configuration.positiveItems, hx, Option.filter_some, if_pos hpositive]
      dsimp only
      rw [hxs]
      rfl

/-- An array with at least one item is read as such. -/
theorem array_eq_ok_of_get? {c : Configuration} {field : String} {list : List Json}
    (hget : Table.get? field c.fields = some (.array list)) (hpos : 0 < list.length) :
    c.array field = .ok list := by
  have hrequire : c.require field = .ok (.array list) := require_eq_ok.mpr ⟨hget, rfl⟩
  unfold Configuration.array
  rw [hrequire]
  cases list with
  | nil => cases hpos
  | cons item rest => rfl

/-- The tracks of a grid are read as numbers. -/
theorem HasTracks.positive_numbers {field : String} {count : Nat}
    (h : HasTracks fields field count) (widget : String) :
    ∃ xs, (Configuration.ofFields widget fields).positiveNumbers field = .ok xs ∧
      xs.length = count := by
  obtain ⟨sizes, hget, rfl, hpos, hsizes⟩ := h
  obtain ⟨xs, hxs⟩ := positive_items_succeeds hsizes
  refine ⟨xs, ?_, length_of_positive_items hxs⟩
  unfold Configuration.positiveNumbers
  rw [array_eq_ok_of_get? hget hpos]
  exact hxs

/-- A layout is read if it has room for its items. -/
theorem IsGrid.outline_eq (h : IsGrid fields columns rows items) (chain : List Identifier) :
    ∃ xs ys, layout.outline fields chain =
      if columns * rows < items.length then .error (.capacity (columns * rows) items.length)
      else .ok ⟨.layout xs ys, layoutSlots (.ofFields "layout" fields) 0 items ++
        List.replicate (columns * rows - items.length) (.ok none)⟩ := by
  obtain ⟨xs, hxs, rfl⟩ := h.columns.positive_numbers "layout"
  obtain ⟨ys, hys, rfl⟩ := h.rows.positive_numbers "layout"
  have hitems : layoutItems (.ofFields "layout" fields) = .ok items := by
    unfold layoutItems
    rw [require_eq_ok.mpr ⟨h.items, rfl⟩]
    rfl
  refine ⟨xs, ys, ?_⟩
  change layoutOutline (.ofFields "layout" fields) = _
  rw [layout_outline_eq, hxs, hys, hitems]
  rfl

/-! ## Errors about room -/

/-- A factory complains about room only if there are fewer slots than items. -/
theorem lt_of_outline {factory : Factory} {slots count : Nat}
    (h : factory.outline fields chain = .error (.capacity slots count)) : slots < count := by
  cases factory with
  | void => cases h
  | text | banner | image | video | audio =>
      unfold outline leaf at h
      dsimp only at h
      split at h <;> cases h
  | container | tabs =>
      obtain ⟨e, _, he⟩ := map_error_eq_error.mp h
      cases he
  | layout =>
      change layoutOutline _ = _ at h
      simp only [layout_outline_eq, bind_eq_error, map_error_eq_error] at h
      rcases h with ⟨e, _, he⟩ | ⟨xs, _, ⟨e, _, he⟩ | ⟨ys, _, ⟨e, _, he⟩ | ⟨list, _, h⟩⟩⟩
      · cases he
      · cases he
      · cases he
      · split at h
        · cases h
          assumption
        · cases h
  | custom type =>
      unfold outline at h
      dsimp only at h
      split at h <;> cases h

end Factory

namespace Registry

variable {registry : Registry} {document : Document} {budget : Nat} {ancestry : List Identifier}
  {id : Identifier}

theorem lt_of_fill {resolve : Identifier → Except Error Widget} {slots : List Slot}
    {room count : Nat}
    (hresolve : ∀ id, resolve id = .error (.capacity room count) → room < count)
    (h : fill resolve slots = .error (.capacity room count)) : room < count := by
  induction slots with
  | nil => cases h
  | cons slot slots ih =>
      rcases slot with e | _ | id
      · cases h
      · rcases bind_eq_error.mp h with h | ⟨rest, _, h⟩
        · exact ih h
        · cases h
      · rcases bind_eq_error.mp h with h | ⟨widget, _, h⟩
        · exact hresolve id h
        · rcases bind_eq_error.mp h with h | ⟨rest, _, h⟩
          · exact ih h
          · cases h

/-- Every error about room names fewer slots than items. -/
theorem lt_of_capacity {room count : Nat}
    (h : registry.resolveBelow document budget ancestry id = .error (.capacity room count)) :
    room < count := by
  induction budget generalizing ancestry id with
  | zero =>
      rw [resolve_below_zero] at h
      split at h <;> cases h
  | succ budget ih =>
      rw [resolve_below_succ] at h
      split at h
      · cases h
      · -- The widget itself complains, or one in its slots does, and that is resolved with less.
        rcases bind_eq_error.mp h with houtline | ⟨outline, _, h⟩
        · rcases bind_eq_error.mp houtline with hlookup | ⟨⟨factory, fields⟩, _, houtline⟩
          · obtain ⟨e, _, he⟩ := map_error_eq_error.mp hlookup
            cases he
          · exact Factory.lt_of_outline houtline
        · rcases bind_eq_error.mp h with hfill | ⟨children, _, h⟩
          · exact lt_of_fill (fun child hchild => ih hchild) hfill
          · cases h

/-! ## Slots -/

variable {fields : Fields} {columns rows : Nat} {items : List Json}

/-- A layout that is not among its own ancestors is resolved slot by slot, if it has room for its
items. -/
theorem resolve_below_layout (hnew : document.canonical id ∉ ancestry)
    (hlookup : registry.lookup document (document.canonical id) = .ok (.layout, fields))
    (hgrid : Factory.IsGrid fields columns rows items) :
    ∃ xs ys, registry.resolveBelow document (budget + 1) ancestry id =
      if columns * rows < items.length then .error (.capacity (columns * rows) items.length)
      else
        fill (registry.resolveBelow document budget (ancestry ++ [document.canonical id]))
            (Factory.layoutSlots (.ofFields "layout" fields) 0 items ++
              List.replicate (columns * rows - items.length) (.ok none)) >>= fun children =>
          .ok (.node (.layout xs ys) children) := by
  obtain ⟨xs, ys, houtline⟩ := hgrid.outline_eq (ancestry ++ [document.canonical id])
  refine ⟨xs, ys, ?_⟩
  rw [resolve_below_succ, if_neg hnew]
  unfold outline
  rw [hlookup]
  change (Factory.layout.outline fields (ancestry ++ [document.canonical id]) >>= _) = _
  rw [houtline]
  split <;> rfl

/-- A layout is rejected for its room if there are more items than slots, and never for that of a
widget in one of its slots with the same numbers. -/
theorem resolve_below_layout_eq_capacity (hnew : document.canonical id ∉ ancestry)
    (hlookup : registry.lookup document (document.canonical id) = .ok (.layout, fields))
    (hgrid : Factory.IsGrid fields columns rows items) :
    registry.resolveBelow document (budget + 1) ancestry id =
        .error (.capacity (columns * rows) items.length) ↔ columns * rows < items.length := by
  refine ⟨lt_of_capacity, fun hfull => ?_⟩
  obtain ⟨xs, ys, hresolve⟩ := resolve_below_layout hnew hlookup hgrid
  rw [hresolve, if_pos hfull]

/-- The children of a resolved layout fit what its items refer to, and then empty slots. -/
theorem children_of_layout {widget : Widget} (hnew : document.canonical id ∉ ancestry)
    (hlookup : registry.lookup document (document.canonical id) = .ok (.layout, fields))
    (hgrid : Factory.IsGrid fields columns rows items)
    (h : registry.resolveBelow document (budget + 1) ancestry id = .ok widget) :
    ∃ xs ys children objects, widget = .node (.layout xs ys) children ∧
      items.length ≤ columns * rows ∧
      List.Forall₂ (fun item object => Factory.layoutItem? item = some object) items objects ∧
      List.Forall₂
        (Fits (registry.resolveBelow document budget (ancestry ++ [document.canonical id])))
        (objects ++ List.replicate (columns * rows - items.length) none) children := by
  obtain ⟨xs, ys, hresolve⟩ := resolve_below_layout hnew hlookup hgrid
  rw [hresolve] at h
  split at h
  · cases h
  · rename_i hroom
    obtain ⟨children, hchildren, h⟩ := bind_eq_ok.mp h
    cases h
    obtain ⟨slots, hslots, hfits⟩ := fill_eq_ok.mp hchildren
    obtain ⟨objects, hobjects, rfl⟩ := Factory.layout_slots_padded.mp hslots
    exact ⟨xs, ys, children, objects, rfl, Nat.not_lt.mp hroom,
      forall₂_of_map_m_eq_some hobjects, hfits⟩

/-- An item shows the widget that fits it. -/
theorem shows_item_of_fits {resolve : Identifier → Except Error Widget} {media : Media}
    {renders : Identifier → Node → Prop} {item : Json} {object : Option Identifier}
    {child : Widget} (hitem : Factory.layoutItem? item = some object)
    (hfits : Fits resolve object child)
    (hrenders : ∀ reference, resolve reference = .ok child → renders reference (child.draw media)) :
    Factory.ShowsItem renders item (child.draw media) := by
  cases item with
  | object members =>
      obtain ⟨value, hvalue, hobject⟩ := Option.bind_eq_some_iff.mp hitem
      split at hobject
      · rename_i hnull
        cases hobject
        obtain rfl : child = .void := hfits
        have hempty : value = .null := by
          cases value with
          | null => rfl
          | _ => cases hnull
        rw [Widget.draw_void]
        exact .empty members (hempty ▸ hvalue)
      · obtain ⟨reference, hreference, rfl⟩ := Option.map_eq_some_iff.mp hobject
        exact .filled members value reference _ hvalue hreference (hrenders reference hfits)
  | _ => cases hitem

/-- **A layout shows its items in order.** A layout with columns, rows and items is rejected for its
room exactly if there are more items than slots. Otherwise, if it is resolved and rendered, its node
has a child for each slot: first the nodes of the items, each rendered as it is on its own, and then
hidden nodes. -/
theorem layouts_show_items_in_order (registry : Registry) (document : Document) (budget : Nat)
    (ancestry : List Identifier) (id : Identifier) (fields : Fields) (columns rows : Nat)
    (items : List Json) (hnew : document.canonical id ∉ ancestry)
    (hlookup : registry.lookup document (document.canonical id) = .ok (.layout, fields))
    (hgrid : Factory.IsGrid fields columns rows items) :
    (registry.resolveBelow document (budget + 1) ancestry id =
        .error (.capacity (columns * rows) items.length) ↔ columns * rows < items.length) ∧
      ∀ widget, registry.resolveBelow document (budget + 1) ancestry id = .ok widget →
        ∀ outcomes delays support (s s' : Session) drawn, s.IsCoherent outcomes → s.IsQuiet →
          s.render (outcomes.after delays) support widget = (s', some (.ok drawn)) →
          drawn.children.length = columns * rows ∧
          (∀ (i : Nat) item, items[i]? = some item → ∃ shown, drawn.children[i]? = some shown ∧
            Factory.ShowsItem (fun reference shown => ∃ child,
              registry.resolveBelow document budget (ancestry ++ [document.canonical id])
                reference = .ok child ∧ s'.Renders outcomes support child shown) item shown) ∧
          ∀ i : Nat, items.length ≤ i → i < columns * rows →
            drawn.children[i]? = some .hidden := by
  refine ⟨resolve_below_layout_eq_capacity hnew hlookup hgrid, ?_⟩
  intro widget hwidget outcomes delays support s s' drawn hcoherent hquiet hrender
  obtain ⟨xs, ys, children, objects, rfl, hroom, hobjects, hfits⟩ :=
    children_of_layout hnew hlookup hgrid hwidget
  obtain ⟨rfl, hholds⟩ := Session.holds_of_render hcoherent hquiet hrender
  rw [Widget.children_draw_layout]
  have hlength := hobjects.length_eq
  refine ⟨?_, ?_, ?_⟩
  · rw [List.length_map, ← hfits.length_eq, List.length_append, List.length_replicate,
      ← hlength]
    omega
  · -- The slot of an item lies before the empty ones, so its child is what the item refers to.
    intro i item hitem
    obtain ⟨object, hobject, hread⟩ := exists_of_forall₂ hobjects hitem
    obtain ⟨child, hchild, hfit⟩ := exists_of_forall₂ hfits
      ((List.getElem?_append_left (List.getElem?_eq_some_iff.mp hobject).1).trans hobject)
    refine ⟨child.draw s'.media, ?_, shows_item_of_fits hread hfit fun reference hreference => ?_⟩
    · rw [List.getElem?_map, hchild]
      rfl
    · exact ⟨child, hreference, (hholds.child rfl (List.mem_of_getElem? hchild)).renders⟩
  · -- Every later slot is empty, and only a void widget fits it.
    intro i hi hlt
    have hempty : (objects ++ List.replicate (columns * rows - items.length) none)[i]? =
        some none := by
      rw [List.getElem?_append_right (by omega), List.getElem?_replicate, if_pos (by omega)]
    obtain ⟨child, hchild, hfit⟩ := exists_of_forall₂ hfits hempty
    obtain rfl : child = .void := hfit
    rw [List.getElem?_map, hchild, Option.map_some, Widget.draw_void]

/-- The fields of a layout with four slots, the second of which has an image. -/
def sparseFields : Fields :=
  [("columns", .array [.integer 2, .integer 1]),
    ("items", .array [.object [("object", .null)], .object [("object", .integer 1)]]),
    ("rows", .array [.integer 1, .integer 1])]

/-- The layout of `sparseFields` with its image. -/
def sparseDocument : Document where
  records := .list [⟨0, sparseFields⟩, ⟨1, [("source", .string "cat.png")]⟩]
  types := ["layout", "image"]
  root := .index 0

/-- The layout of `sparseDocument` has room for its items. It is rendered with hidden nodes in all
slots but the second, which has the image. -/
theorem layouts_show_items_in_order_sparse :
    Factory.IsGrid sparseFields 2 2
        [.object [("object", .null)], .object [("object", .integer 1)]] ∧
      (core 4).resolveBelow sparseDocument 4 [] (.index 0) ≠ .error (.capacity 4 2) ∧
      ∃ widget s' drawn image child,
        (core 4).resolveBelow sparseDocument 4 [] (.index 0) = .ok widget ∧
        Session.empty.render (Outcomes.after (fun _ => .ok ⟨[], none⟩) fun _ => 3)
          (fun _ _ => .maybe) widget = (s', some (.ok drawn)) ∧
        drawn.children.length = 4 ∧ drawn.children[0]? = some .hidden ∧
        drawn.children[1]? = some image ∧ drawn.children[2]? = some .hidden ∧
        drawn.children[3]? = some .hidden ∧
        (core 4).resolveBelow sparseDocument 3 [.index 0] (.index 1) = .ok child ∧
        s'.Renders (fun _ => .ok ⟨[], none⟩) (fun _ _ => .maybe) child image := by
  have hpositive : ∀ i : Int, i = 1 ∨ i = 2 →
      ∃ x, (Json.integer i).binary64? = some x ∧ x.isPositive = true := by
    rintro i (rfl | rfl)
    · exact ⟨_, rfl, rfl⟩
    · exact ⟨_, rfl, rfl⟩
  have hgrid : Factory.IsGrid sparseFields 2 2
      [.object [("object", .null)], .object [("object", .integer 1)]] := by
    refine ⟨⟨_, rfl, rfl, Nat.two_pos, ?_⟩, ⟨_, rfl, rfl, Nat.two_pos, ?_⟩, rfl⟩
    · simp [hpositive]
    · simp [hpositive]
  obtain ⟨hcapacity, hslots⟩ := layouts_show_items_in_order (core 4) sparseDocument 3 [] (.index 0)
    sparseFields 2 2 _ List.not_mem_nil rfl hgrid
  obtain ⟨widget, hwidget⟩ :
      ∃ widget, (core 4).resolveBelow sparseDocument 4 [] (.index 0) = .ok widget := ⟨_, rfl⟩
  have hplays : ∀ request ∈ widget.requests,
      Outcomes.Plays (fun _ => .ok ⟨[], none⟩) (fun _ _ => .maybe) request :=
    fun request _ => ⟨⟨[], none⟩, rfl, by simp⟩
  obtain ⟨_, _, s', hrender, _⟩ := Session.render_completes (fun _ => 3)
    Session.is_coherent_empty Session.is_quiet_empty hplays
  obtain ⟨hlength, hitems, hrest⟩ := hslots widget hwidget _ _ _ _ _ _
    Session.is_coherent_empty Session.is_quiet_empty hrender
  obtain ⟨first, hfirst, hempty⟩ := hitems 0 _ rfl
  obtain ⟨image, himage, hfilled⟩ := hitems 1 _ rfl
  cases hempty with
  | filled _ _ _ _ hvalue hreference _ =>
      cases hvalue
      cases hreference
  | empty _ _ =>
      cases hfilled with
      | empty _ hvalue => cases hvalue
      | filled _ _ _ _ hvalue hreference hrenders =>
          cases hvalue
          cases hreference
          obtain ⟨child, hchild, hrenders⟩ := hrenders
          exact ⟨hgrid, fun h => absurd (hcapacity.mp h) (by decide), widget, s', _, image, child,
            hwidget, hrender, hlength, hfirst, himage, hrest 2 (by decide) (by decide),
            hrest 3 (by decide) (by decide), hchild, hrenders⟩

end Registry

end Widgetry
