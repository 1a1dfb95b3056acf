import Widgetry.Widget.Textual

/-!
# Widgets

A configured widget is a tree. Its frame is what the widget's own fields say; its children are the
widgets that it refers to. A void frame stands wherever a reference is null or a slot is unused.
-/

namespace Widgetry

/-- The side of the panels on which the bar of a tabs widget lies (`TabPosition`). -/
inductive Side where
  | top
  | right
  | bottom
  | left
  deriving Repr, DecidableEq, Inhabited

namespace Side

/-- The name of a side. -/
def name : Side → String
  | .top => "top"
  | .right => "right"
  | .bottom => "bottom"
  | .left => "left"

/-- The side with a given name. -/
def ofName? (name : String) : Option Side :=
  match name with
  | "top" => some .top
  | "right" => some .right
  | "bottom" => some .bottom
  | "left" => some .left
  | _ => none

end Side

/-- How a visual medium fills its box. -/
inductive Contain where
  | fit
  | fill
  deriving Repr, DecidableEq, Inhabited

namespace Contain

/-- The name of a way to fill a box. -/
def name : Contain → String
  | .fit => "fit"
  | .fill => "fill"

/-- The way to fill a box with a given name. -/
def ofName? (name : String) : Option Contain :=
  match name with
  | "fit" => some .fit
  | "fill" => some .fill
  | _ => none

end Contain

/-- The part of a widget that its own fields determine. -/
inductive Frame where
  | void
  | text (content : Textual)
  | banner (content : Textual)
  | image (source : String) (contain : Option Contain)
  | video (source : String) (contain : Option Contain)
  | audio (source : String)
  | container (title : String)
  | layout (columns rows : List Binary64)
  | tabs (side : Side) (names : List String)
  | custom (typeName : String) (kind : Kind) (text : String)
  deriving Repr, Inhabited

namespace Frame

/-- The type name of a widget, which is also the class of its node. -/
def typeName : Frame → String
  | .void => "void"
  | .text _ => "text"
  | .banner _ => "banner"
  | .image _ _ => "image"
  | .video _ _ => "video"
  | .audio _ => "audio"
  | .container _ => "container"
  | .layout _ _ => "layout"
  | .tabs _ _ => "tabs"
  | .custom typeName _ _ => typeName

/-- The kind of the node of a widget. -/
def kind : Frame → Kind
  | .void => .block
  | .text _ => .inline
  | .banner _ => .heading
  | .image _ _ => .image
  | .video _ _ => .video
  | .audio _ => .audio
  | .container _ => .fieldset
  | .layout _ _ => .block
  | .tabs _ _ => .block
  | .custom _ kind _ => kind

end Frame

/-- A configured widget (`ConfiguredWidget`). -/
inductive Widget where
  | node (frame : Frame) (children : List Widget)
  deriving Repr, Inhabited

namespace Widget

/-- The widget's own part. -/
def frame : Widget → Frame
  | node frame _ => frame

/-- The widgets in its slots. -/
def children : Widget → List Widget
  | node _ children => children

/-- The type name of a widget (`ConfiguredWidget::type_name`). -/
def typeName (widget : Widget) : String :=
  widget.frame.typeName

/-- The widget of an empty slot (`ConfiguredWidget::placeholder`). -/
def void : Widget :=
  node .void []

/-- A short description of a widget (`ConfiguredWidget::fmt`). -/
def description (widget : Widget) : String :=
  "ConfiguredWidget \x7b type: \"" ++ widget.typeName ++ "\", .. \x7d"

end Widget

end Widgetry
