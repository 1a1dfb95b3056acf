import Widgetry.Widget.Frame

/-!
# Factories

A factory reads a configuration into an outline: the frame of a widget and the slots that remain
to be resolved. Slots are checked one after another, each just before its widget is resolved, so an
outline keeps the faults of slots in place instead of failing as a whole.
-/

namespace Widgetry

/-- A slot: a reference to a widget, no widget, or a fault that comes up when the slot's turn has
come. -/
abbrev Slot := Except ConfigError (Option Identifier)

/-- The frame of a widget with the slots to be resolved into its children. -/
structure Outline where
  frame : Frame
  slots : List Slot

/-- A widget type beyond the core ones. Its outline may depend on the chain of identifiers that
leads to the widget, itself included. -/
structure CustomType where
  typeName : String
  kind : Kind
  outline : Configuration → List Identifier → Except ConfigError (String × List Slot)

/-- What a declared name creates (`WidgetFactory`). -/
inductive Factory where
  | void
  | text
  | banner
  | image
  | video
  | audio
  | container
  | layout
  | tabs
  | custom (type : CustomType)

namespace Factory

/-- The type name of the created widgets. -/
def typeName : Factory → String
  | .void => "void"
  | .text => "text"
  | .banner => "banner"
  | .image => "image"
  | .video => "video"
  | .audio => "audio"
  | .container => "container"
  | .layout => "layout"
  | .tabs => "tabs"
  | .custom type => type.typeName

/-- The source of a medium without the blanks around it (`configure_source`). -/
def source (c : Configuration) : Except ConfigError String := do
  match ← c.require "source" with
  | .string url =>
      if Text.isBlankText url then .error (c.error "source" .empty) else .ok (Text.trim url)
  | _ => .error (c.error "source" .notString)

/-- How a visual medium fills its box (`configure_contain`). -/
def contain (c : Configuration) : Except ConfigError (Option Contain) :=
  c.optional "contain" (Json.choice? Contain.ofName?) "either fit or fill"

/-- The slot of an item of a layout. -/
def layoutSlot (c : Configuration) (position : Nat) (item : Json) : Slot := do
  let item ← c.nested (itemPath "items" position) item
  item.reference "object"

/-- The slots of the items of a layout, the first of them at `position`. -/
def layoutSlots (c : Configuration) : (position : Nat) → List Json → List Slot
  | _, [] => []
  | position, item :: items => layoutSlot c position item :: layoutSlots c (position + 1) items

/-- Read a layout (`LayoutWidget::configure`). Unused slots are empty. -/
def layoutOutline (c : Configuration) : Except Error Outline := do
  let columns ← (c.positiveNumbers "columns").mapError .config
  let rows ← (c.positiveNumbers "rows").mapError .config
  match ← (c.require "items").mapError .config with
  | .array items =>
      let capacity := columns.length * rows.length
      if capacity < items.length then .error (.capacity capacity items.length)
      else
        .ok ⟨.layout columns rows,
          layoutSlots c 0 items ++ List.replicate (capacity - items.length) (.ok none)⟩
  | _ => .error (.config (c.error "items" .notArray))

/-- An item of a tabs widget after tabs of the names `seen`: its name and its reference. -/
def tab (c : Configuration) (seen : List String) (position : Nat) (item : Json) :
    Except ConfigError (String × Option Identifier) := do
  let item ← c.nested (itemPath "items" position) item
  let name ← item.label "name"
  if seen.contains name then .error (item.error "name" (.duplicateTab name))
  else
    let reference ← item.reference "object"
    .ok (name, reference)

/-- The items of a tabs widget up to and including the first faulty one. -/
def tabItems (c : Configuration) :
    (seen : List String) → (position : Nat) → List Json →
      List (Except ConfigError (String × Option Identifier))
  | _, _, [] => []
  | seen, position, item :: items =>
      match tab c seen position item with
      | .error e => [.error e]
      | .ok (name, reference) =>
          .ok (name, reference) :: tabItems c (seen ++ [name]) (position + 1) items

/-- The name of a faultless item. -/
def tabName? : Except ConfigError (String × Option Identifier) → Option String
  | .ok (name, _) => some name
  | .error _ => none

/-- Read a tabs widget (`TabsWidget::configure`). -/
def tabsOutline (c : Configuration) : Except ConfigError Outline := do
  let side ← c.optional "position" (Json.choice? Side.ofName?) "one of top, right, bottom, left"
  let items := tabItems c [] 0 (← c.array "items")
  .ok ⟨.tabs (side.getD .top) (items.filterMap tabName?), items.map (Except.map Prod.snd)⟩

/-- Read a container (`ContainerWidget::configure`). -/
def containerOutline (c : Configuration) : Except ConfigError Outline := do
  let title ← c.label "title"
  let reference ← c.reference "object"
  .ok ⟨.container title, [.ok reference]⟩

/-- Read a widget that has no slots. -/
def leaf (frame : Except ConfigError Frame) : Except Error Outline :=
  match frame with
  | .ok frame => .ok ⟨frame, []⟩
  | .error e => .error (.config e)

/-- Read a configuration at the end of a chain of identifiers (`Widget::configure`). -/
def outline (factory : Factory) (fields : Fields) (chain : List Identifier) :
    Except Error Outline :=
  let c := Configuration.ofFields factory.typeName fields
  match factory with
  | .void => .ok ⟨.void, []⟩
  | .text => leaf (.text <$> Textual.configure c .left)
  | .banner => leaf (.banner <$> Textual.configure c .center)
  | .image => leaf (do .ok (.image (← source c) (← contain c)))
  | .video => leaf (do .ok (.video (← source c) (← contain c)))
  | .audio => leaf (.audio <$> source c)
  | .container => (containerOutline c).mapError .config
  | .layout => layoutOutline c
  | .tabs => (tabsOutline c).mapError .config
  | .custom type =>
      match type.outline c chain with
      | .ok (content, slots) => .ok ⟨.custom type.typeName type.kind content, slots⟩
      | .error e => .error (.config e)

/-- The core widget types in the order of their declaration. -/
def core : List (String × Factory) :=
  [("null", .void), ("void", .void), ("layout", .layout), ("container", .container),
    ("tabs", .tabs), ("banner", .banner), ("text", .text), ("image", .image),
    ("video", .video), ("audio", .audio)]

end Factory

end Widgetry
