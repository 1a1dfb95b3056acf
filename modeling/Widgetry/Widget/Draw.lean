import Widgetry.Number.Shortest
import Widgetry.Widget.Frame
import Widgetry.Widget.Selection

/-!
# Drawing widgets

Once its media are loaded, a widget is drawn as a node: its frame decides the kind, the class, the
attributes and styles, and the children are drawn into their places. A medium is given by the URL
of its content and its content kind.
-/

namespace Widgetry

/-- Where the content of a medium lies, and of what kind it is. -/
structure Medium where
  url : String
  kind : String
  deriving Repr, DecidableEq, Inhabited

/-- The media of sources. -/
abbrev Media := String → Option Medium

namespace Frame

/-- The node of a frame before its content is added. -/
def bare (frame : Frame) : Node :=
  Node.tagged frame.kind frame.typeName

/-- The track sizes of a grid (`tracks`). -/
def tracks (sizes : List Binary64) : String :=
  String.intercalate " " (sizes.map fun size => size.text Binary64.plainLayout ++ "fr")

/-- Note in a node how a visual medium fills its box. -/
def drawContain (contain : Option Contain) (node : Node) : Node :=
  match contain with
  | some contain => node.withAttribute "contain" contain.name
  | none => node

/-- Add player controls and the medium to a node (`attach_stream`). -/
def drawStream (medium : Option Medium) (node : Node) : Node :=
  match medium with
  | some medium =>
      (node.withAttribute "controls" "controls").withChildren
        [((Node.ofKind .source).withAttribute "src" medium.url).withAttribute "type" medium.kind]
  | none => node

/-- The bar and the panels of a tabs widget, with the first tab selected (`TabsWidget::render`). -/
def drawTabs (side : Side) (names : List String) (contents : List Node) (node : Node) : Node :=
  let bar := (Node.tagged .block "tab-bar").withChildren (names.map Tabs.button)
  let panels := (Node.tagged .block "tab-panels").withChildren
    (List.zipWith Tabs.panel names contents)
  let node := (node.withStyle "--position" side.name).withChildren [bar, panels]
  match names with
  | name :: _ => Tabs.select node name
  | [] => node

/-- Draw a frame around the nodes of its children (`Widget::render`). -/
def draw (media : Media) (frame : Frame) (children : List Node) : Node :=
  let node := frame.bare
  match frame with
  | .void => (node.withAttribute "hidden" "").withStyle "display" "none"
  | .text content => content.apply node
  | .banner content => content.apply node
  | .image source contain =>
      let node := drawContain contain node
      match media source with
      | some medium => node.withAttribute "src" medium.url
      | none => node
  | .video source contain => drawStream (media source) (drawContain contain node)
  | .audio source => drawStream (media source) node
  | .container title => node.withChildren ((Node.ofKind .legend).withText title :: children)
  | .layout columns rows =>
      (((node.withStyle "display" "grid").withStyle "grid-template-columns"
        (tracks columns)).withStyle "grid-template-rows" (tracks rows)).withChildren children
  | .tabs side names => drawTabs side names children node
  | .custom _ _ content => (node.withText content).withChildren children

end Frame

namespace Widget

mutual

/-- Draw a widget. -/
def draw (media : Media) : Widget → Node
  | node frame children => frame.draw media (drawAll media children)

/-- Draw a list of widgets (`render_children`). -/
def drawAll (media : Media) : List Widget → List Node
  | [] => []
  | widget :: rest => draw media widget :: drawAll media rest

end

end Widget

end Widgetry
