import Widgetry.Table

/-!
# Node trees

A node has a kind, an optional class, attributes and style declarations in the order of their
names, an optional text and children. The trees are plain data: widgets are rendered into them and
`Node.html` prints them.
-/

namespace Widgetry

/-- The kinds of elements (`BaseKind`). -/
inductive Kind where
  | block
  | inline
  | heading
  | paragraph
  | image
  | audio
  | video
  | source
  | fieldset
  | legend
  | button
  | dialog
  deriving Repr, DecidableEq, Inhabited

namespace Kind

/-- The tag of an element (`BaseKind::tag`). -/
def tag : Kind → String
  | .block => "div"
  | .inline => "span"
  | .heading => "h2"
  | .paragraph => "p"
  | .image => "img"
  | .audio => "audio"
  | .video => "video"
  | .source => "source"
  | .fieldset => "fieldset"
  | .legend => "legend"
  | .button => "button"
  | .dialog => "dialog"

/-- Elements of the kind are printed without content and closing tag (`BaseKind::is_void`). -/
def isVoid : Kind → Bool
  | .image => true
  | .source => true
  | _ => false

end Kind

/-- A node of a rendered tree. -/
structure Node where
  kind : Kind
  className : Option String
  attributes : List (String × String)
  styles : List (String × String)
  text : Option String
  children : List Node
  deriving Repr, Inhabited

namespace Node

/-- A bare node (`Node::new`). -/
def ofKind (kind : Kind) : Node :=
  ⟨kind, none, [], [], none, []⟩

/-- A bare node with a class (`Node::widget`). -/
def tagged (kind : Kind) (className : String) : Node :=
  ⟨kind, some className, [], [], none, []⟩

/-- Set the text (`Node::set_text`). -/
def withText (node : Node) (text : String) : Node :=
  { node with text := some text }

/-- Set an attribute (`Node::set_attribute`). -/
def withAttribute (node : Node) (name value : String) : Node :=
  { node with attributes := Table.insert name value node.attributes }

/-- Remove an attribute (`Node::remove_attribute`). -/
def withoutAttribute (node : Node) (name : String) : Node :=
  { node with attributes := Table.erase name node.attributes }

/-- Set a style declaration (`Node::set_style`). -/
def withStyle (node : Node) (property value : String) : Node :=
  { node with styles := Table.insert property value node.styles }

/-- Append children (`Node::push`). -/
def withChildren (node : Node) (children : List Node) : Node :=
  { node with children := node.children ++ children }

/-- The value of an attribute (`Node::attribute`). -/
def attribute? (node : Node) (name : String) : Option String :=
  Table.get? name node.attributes

/-- The attribute is set (`Node::has_attribute`). -/
def hasAttribute (node : Node) (name : String) : Bool :=
  Table.contains name node.attributes

/-- The value of a style declaration (`Node::style`). -/
def style? (node : Node) (property : String) : Option String :=
  Table.get? property node.styles

/-- The node is hidden (`Node::is_hidden`). -/
def isHidden (node : Node) : Bool :=
  node.hasAttribute "hidden"

mutual

/-- The texts of a node and its descendants in depth-first order. -/
def texts : Node → List String
  | ⟨_, _, _, _, text, children⟩ => text.toList ++ textsOf children

/-- The texts of a list of nodes. -/
def textsOf : List Node → List String
  | [] => []
  | node :: rest => texts node ++ textsOf rest

end

/-- The text of a node and its descendants, hidden or not (`Node::text_content`). -/
def textContent (node : Node) : String :=
  String.join node.texts

mutual

/-- The texts of a node and its descendants, leaving out hidden nodes and all below them. -/
def visibleTexts : Node → List String
  | ⟨_, _, attributes, _, text, children⟩ =>
      if Table.contains "hidden" attributes then [] else text.toList ++ visibleTextsOf children

/-- The visible texts of a list of nodes. -/
def visibleTextsOf : List Node → List String
  | [] => []
  | node :: rest => visibleTexts node ++ visibleTextsOf rest

end

/-- The text of a node that is not hidden (`Node::visible_text`). -/
def visibleText (node : Node) : String :=
  String.join node.visibleTexts

mutual

/-- A node and its descendants in depth-first order. -/
def nodes : Node → List Node
  | ⟨kind, className, attributes, styles, text, children⟩ =>
      ⟨kind, className, attributes, styles, text, children⟩ :: nodesOf children

/-- The nodes of a list of trees in depth-first order. -/
def nodesOf : List Node → List Node
  | [] => []
  | node :: rest => nodes node ++ nodesOf rest

end

/-- The first node in depth-first order that satisfies `p` (`Node::find`). -/
def find? (node : Node) (p : Node → Bool) : Option Node :=
  node.nodes.find? p

/-- The nodes of a class in depth-first order (`Node::find_all_by_class`). -/
def ofClass (node : Node) (className : String) : List Node :=
  node.nodes.filter fun node => node.className = some className

/-- The node at a path of child positions. -/
def at? (node : Node) : List Nat → Option Node
  | [] => some node
  | position :: path =>
      match node.children[position]? with
      | some child => at? child path
      | none => none

/-- Change the node at a path of child positions. -/
def modifyAt (node : Node) (path : List Nat) (f : Node → Node) : Node :=
  match path with
  | [] => f node
  | position :: path =>
      { node with children := node.children.modify position fun child => modifyAt child path f }

end Node

end Widgetry
