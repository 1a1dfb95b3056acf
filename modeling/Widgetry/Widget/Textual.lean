import Widgetry.Html.Node
import Widgetry.Widget.Color
import Widgetry.Widget.Configuration

/-!
# Textual content

The content of texts and banners: a text, its alignment, and an optional colour. The node carries
them as its text and as custom properties of its style.
-/

namespace Widgetry

/-- Horizontal alignments (`HorizontalAlign`). -/
inductive Horizontal where
  | left
  | right
  | center
  | justify
  deriving Repr, DecidableEq, Inhabited

namespace Horizontal

/-- The name of an alignment. -/
def name : Horizontal → String
  | .left => "left"
  | .right => "right"
  | .center => "center"
  | .justify => "justify"

/-- The alignment with a given name. -/
def ofName? (name : String) : Option Horizontal :=
  match name with
  | "left" => some .left
  | "right" => some .right
  | "center" => some .center
  | "justify" => some .justify
  | _ => none

end Horizontal

/-- Vertical alignments (`VerticalAlign`). -/
inductive Vertical where
  | top
  | center
  | bottom
  deriving Repr, DecidableEq, Inhabited

namespace Vertical

/-- The name of an alignment. -/
def name : Vertical → String
  | .top => "top"
  | .center => "center"
  | .bottom => "bottom"

/-- The alignment with a given name. -/
def ofName? (name : String) : Option Vertical :=
  match name with
  | "top" => some .top
  | "center" => some .center
  | "bottom" => some .bottom
  | _ => none

end Vertical

/-- A configured alignment (`AlignSpec`). What is left open takes the default of the widget. -/
structure Alignment where
  horizontal : Option Horizontal
  vertical : Option Vertical
  deriving Repr, DecidableEq, Inhabited

namespace Alignment

/-- A member of an alignment pair: absent, null or a choice. -/
def member? {α : Type} (ofName? : String → Option α) : Option Json → Option (Option α)
  | none => some none
  | some .null => some none
  | some value => (value.choice? ofName?).map some

/-- Read an alignment: a horizontal one, or an object with either or both. -/
def ofJson? (value : Json) : Option Alignment :=
  match value.choice? Horizontal.ofName? with
  | some h => some ⟨some h, none⟩
  | none =>
      match value with
      | .object fields => do
          let horizontal ← member? Horizontal.ofName? (Table.get? "horizontal" fields)
          let vertical ← member? Vertical.ofName? (Table.get? "vertical" fields)
          some ⟨horizontal, vertical⟩
      | _ => none

/-- What an alignment is expected to be. -/
def expected : String :=
  "one of left, right, center, justify or a \x7bhorizontal, vertical\x7d pair"

end Alignment

/-- The content of a textual widget. -/
structure Textual where
  text : String
  horizontal : Horizontal
  vertical : Option Vertical
  color : Option String
  deriving Repr, DecidableEq, Inhabited

namespace Textual

/-- Read a colour without the blanks around it. -/
def readColor (c : Configuration) : Except ConfigError (Option String) :=
  match c.get? "color" with
  | none => .ok none
  | some (.string text) =>
      if Color.isValid text then .ok (some (Text.trim text))
      else .error (c.error "color" (.invalidColor text))
  | some _ => .error (c.error "color" .notString)

/-- Read textual content (`Textual::configure`). -/
def configure (c : Configuration) (default : Horizontal) : Except ConfigError Textual := do
  let text ← c.text "text"
  let alignment ← c.optional "align" Alignment.ofJson? Alignment.expected
  let color ← readColor c
  let alignment := alignment.getD ⟨none, none⟩
  .ok ⟨text, alignment.horizontal.getD default, alignment.vertical, color⟩

/-- Put the content into a node (`Textual::apply`). -/
def apply (t : Textual) (node : Node) : Node :=
  let node := (node.withText t.text).withStyle "--alignment" t.horizontal.name
  let node := match t.vertical with
    | some vertical => node.withStyle "--vertical-alignment" vertical.name
    | none => node
  match t.color with
  | some color => node.withStyle "--color" color
  | none => node

end Textual

end Widgetry
