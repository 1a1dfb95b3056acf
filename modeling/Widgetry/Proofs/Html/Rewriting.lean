import Widgetry.Html.Printer
import Widgetry.Proofs.Table
import Widgetry.Widget.Draw

/-!
# Rewriting the locations in a tree

Printing a tree with other locations of its resources is printing the rewritten tree, in which a
nonempty `src`, `href` or `poster` has become what the replacement makes of it: `html_with_eq`. Node
operations that do not look at locations commute with rewriting, so that a widget drawn with some
media and rewritten is the widget drawn with the rewritten media: `rewritten_draw`.
-/

namespace Widgetry

open Html

namespace Node

/-- The value of an attribute after rewriting. A nonempty `src`, `href` or `poster` becomes what `f`
makes of it, if anything, and all else stays. -/
def rewrittenValue (f : String → Option String) (name value : String) : String :=
  if (name = "src" ∨ name = "href" ∨ name = "poster") ∧ value ≠ "" then (f value).getD value
  else value

mutual

/-- A tree with rewritten attributes. -/
def rewritten (f : String → Option String) : Node → Node
  | ⟨kind, className, attributes, styles, text, children⟩ =>
      ⟨kind, className, attributes.map fun entry => (entry.1, rewrittenValue f entry.1 entry.2),
        styles, text, rewrittenAll f children⟩

/-- Trees with rewritten attributes. -/
def rewrittenAll (f : String → Option String) : List Node → List Node
  | [] => []
  | node :: rest => rewritten f node :: rewrittenAll f rest

end

variable {f : String → Option String}

/-- Rewriting a list of trees rewrites each. -/
theorem rewritten_all_eq_map (nodes : List Node) :
    rewrittenAll f nodes = nodes.map (rewritten f) := by
  induction nodes with
  | nil => rw [rewrittenAll, List.map_nil]
  | cons node rest ih => rw [rewrittenAll, List.map_cons, ih]

/-! ## Printing -/

/-- The attributes that locate resources are those that are rewritten. -/
theorem mem_locators_iff {name : String} :
    name ∈ locators ↔ name = "src" ∨ name = "href" ∨ name = "poster" := by
  simp [locators]

/-- An attribute is printed with its other location. -/
theorem attribute_text_rewritten (hf : ∀ value, f value ≠ some "") (name value : String) :
    attributeText (fun _ => none) name (rewrittenValue f name value) =
      attributeText f name value := by
  unfold rewrittenValue
  by_cases hvalue : value = ""
  · simp [attributeText, hvalue]
  · by_cases hname : name ∈ locators
    · rw [if_pos ⟨mem_locators_iff.mp hname, hvalue⟩]
      cases hlocation : f value with
      | none => simp [attributeText, hname, hlocation]
      | some location =>
          have hnew : location ≠ "" := fun hempty => hf value (hempty ▸ hlocation)
          simp [attributeText, hname, hvalue, hlocation, hnew]
    · rw [if_neg fun h => hname (mem_locators_iff.mpr h.1)]
      simp [attributeText, hname]

/-- A start tag is printed with other locations. -/
theorem start_tag_rewritten (hf : ∀ value, f value ≠ some "") (kind : Kind)
    (className : Option String) (attributes styles : List (String × String)) :
    startTag (fun _ => none) kind className
        (attributes.map fun entry => (entry.1, rewrittenValue f entry.1 entry.2)) styles =
      startTag f kind className attributes styles := by
  unfold startTag
  rw [List.map_map]
  have hattributes : attributes.map ((fun entry : String × String =>
      attributeText (fun _ => none) entry.1 entry.2) ∘
        fun entry => (entry.1, rewrittenValue f entry.1 entry.2)) =
      attributes.map fun entry => attributeText f entry.1 entry.2 :=
    List.map_congr_left fun entry _ => attribute_text_rewritten hf entry.1 entry.2
  rw [hattributes]

mutual

/-- A tree is printed with other locations as the rewritten tree is printed. -/
theorem html_with_eq (hf : ∀ value, f value ≠ some "") : (node : Node) →
    node.htmlWith f = (node.rewritten f).html
  | ⟨kind, className, attributes, styles, text, children⟩ => by
      rw [html, rewritten, htmlWith, htmlWith, start_tag_rewritten hf, html_with_all_eq hf children]

/-- The same for a list of trees. -/
theorem html_with_all_eq (hf : ∀ value, f value ≠ some "") : (nodes : List Node) →
    htmlWithAll f nodes = htmlWithAll (fun _ => none) (rewrittenAll f nodes)
  | [] => by rw [rewrittenAll, htmlWithAll, htmlWithAll]
  | node :: rest => by
      rw [rewrittenAll, htmlWithAll, htmlWithAll, html_with_eq hf node, html_with_all_eq hf rest,
        html]

end

/-! ## Node operations -/

/-- Attributes that locate nothing keep their values. -/
theorem rewritten_value_of_not_mem {name : String} (hname : name ∉ locators) (value : String) :
    rewrittenValue f name value = value :=
  if_neg fun h => hname (mem_locators_iff.mpr h.1)

/-- What rewriting does to the parts of a node. -/
theorem rewritten_eq (node : Node) :
    node.rewritten f =
      { node with
        attributes := node.attributes.map fun entry => (entry.1, rewrittenValue f entry.1 entry.2)
        children := node.children.map (rewritten f) } := by
  obtain ⟨kind, className, attributes, styles, text, children⟩ := node
  rw [rewritten, rewritten_all_eq_map]

/-- Replaced children are rewritten. -/
theorem rewritten_set_children (node : Node) (children : List Node) :
    rewritten f { node with children := children } =
      { node.rewritten f with children := children.map (rewritten f) } := by
  rw [rewritten_eq, rewritten_eq]

/-- A bare node locates nothing. -/
@[simp] theorem rewritten_of_kind (kind : Kind) : (ofKind kind).rewritten f = ofKind kind := by
  simp [rewritten_eq, ofKind]

@[simp] theorem rewritten_tagged (kind : Kind) (className : String) :
    (tagged kind className).rewritten f = tagged kind className := by
  simp [rewritten_eq, tagged]

@[simp] theorem rewritten_with_text (node : Node) (text : String) :
    (node.withText text).rewritten f = (node.rewritten f).withText text := by
  simp [rewritten_eq, withText]

@[simp] theorem rewritten_with_style (node : Node) (property value : String) :
    (node.withStyle property value).rewritten f = (node.rewritten f).withStyle property value := by
  simp [rewritten_eq, withStyle]

@[simp] theorem rewritten_with_children (node : Node) (children : List Node) :
    (node.withChildren children).rewritten f =
      (node.rewritten f).withChildren (children.map (rewritten f)) := by
  simp [rewritten_eq, withChildren]

@[simp] theorem rewritten_with_attribute (node : Node) (name value : String) :
    (node.withAttribute name value).rewritten f =
      (node.rewritten f).withAttribute name (rewrittenValue f name value) := by
  simp [rewritten_eq, withAttribute, Table.map_insert]

@[simp] theorem rewritten_without_attribute (node : Node) (name : String) :
    (node.withoutAttribute name).rewritten f = (node.rewritten f).withoutAttribute name := by
  simp [rewritten_eq, withoutAttribute, Table.map_erase]

/-- Attributes that locate nothing can be read off the rewritten node. -/
theorem attribute?_rewritten {name : String} (hname : name ∉ locators) (node : Node) :
    (node.rewritten f).attribute? name = node.attribute? name := by
  unfold attribute?
  rw [rewritten_eq]
  show Table.get? name (node.attributes.map _) = _
  rw [Table.get?_map]
  have hvalue : rewrittenValue f name = id := funext (rewritten_value_of_not_mem hname)
  rw [hvalue, Option.map_id, id]

mutual

/-- The nodes of a rewritten tree. -/
theorem nodes_rewritten : (node : Node) →
    (node.rewritten f).nodes = node.nodes.map (rewritten f)
  | ⟨kind, className, attributes, styles, text, children⟩ => by
      rw [rewritten, nodes, nodes, List.map_cons, rewritten, nodes_of_rewritten children]

/-- The nodes of rewritten trees. -/
theorem nodes_of_rewritten : (trees : List Node) →
    nodesOf (rewrittenAll f trees) = (nodesOf trees).map (rewritten f)
  | [] => by rw [rewrittenAll, nodesOf, List.map_nil]
  | node :: rest => by
      rw [rewrittenAll, nodesOf, nodesOf, List.map_append, nodes_rewritten node,
        nodes_of_rewritten rest]

end

/-- Rewriting keeps the classes of nodes. -/
theorem of_class_rewritten (node : Node) (className : String) :
    (node.rewritten f).ofClass className = (node.ofClass className).map (rewritten f) := by
  unfold ofClass
  rw [nodes_rewritten, List.filter_map]
  refine congrArg (List.map (rewritten f)) (List.filter_congr fun other _ => ?_)
  rw [Function.comp_apply, rewritten_eq]

end Node

namespace Tabs

variable {f : String → Option String}

/-- Tabs have the same names after rewriting. -/
theorem is_named_rewritten (name : String) (node : Node) :
    isNamed name (node.rewritten f) = isNamed name node := by
  unfold isNamed
  rw [Node.attribute?_rewritten (by decide)]

/-- Buttons are marked before or after rewriting. -/
theorem mark_button_rewritten (name : String) (button : Node) :
    markButton name (button.rewritten f) = (markButton name button).rewritten f := by
  unfold markButton
  rw [is_named_rewritten]
  split
  · rw [Node.rewritten_with_attribute, Node.rewritten_value_of_not_mem (by decide)]
  · rw [Node.rewritten_without_attribute]

/-- Panels are marked before or after rewriting. -/
theorem mark_panel_rewritten (name : String) (panel : Node) :
    markPanel name (panel.rewritten f) = (markPanel name panel).rewritten f := by
  unfold markPanel
  rw [is_named_rewritten]
  split
  · rw [Node.rewritten_without_attribute]
  · rw [Node.rewritten_with_attribute, Node.rewritten_value_of_not_mem (by decide)]

/-- Changing all children commutes with rewriting if changing one does. -/
theorem map_children_rewritten {g : Node → Node}
    (hg : ∀ child, g (child.rewritten f) = (g child).rewritten f) (node : Node) :
    { node.rewritten f with children := (node.rewritten f).children.map g } =
      Node.rewritten f { node with children := node.children.map g } := by
  have hmap : (node.children.map (Node.rewritten f)).map g =
      (node.children.map g).map (Node.rewritten f) := by
    rw [List.map_map, List.map_map]
    exact List.map_congr_left fun child _ => hg child
  rw [Node.rewritten_set_children, ← hmap, Node.rewritten_eq]

/-- A bar and panels, with a tab selected. -/
theorem select?_of_two {tabs bar panels : Node} (hchildren : tabs.children = [bar, panels])
    (name : String) :
    select? tabs name =
      if bar.children.any (isNamed name) then
        some { tabs with
          children :=
            [{ bar with children := bar.children.map (markButton name) },
              { panels with children := panels.children.map (markPanel name) }] }
      else none := by
  unfold select?
  rw [hchildren]

/-- Without a bar and panels there are no tabs. -/
theorem select?_of_not_two {tabs : Node} (hchildren : ∀ bar panels, tabs.children ≠ [bar, panels])
    (name : String) : select? tabs name = none := by
  unfold select?
  split
  · rename_i bar panels hcase
    exact (hchildren bar panels hcase).elim
  · rfl

/-- A tab can be selected before or after rewriting. -/
theorem select?_rewritten (tabs : Node) (name : String) :
    select? (tabs.rewritten f) name = (select? tabs name).map (Node.rewritten f) := by
  have hchildren : (tabs.rewritten f).children = tabs.children.map (Node.rewritten f) := by
    rw [Node.rewritten_eq]
  -- Tabs are a bar and panels, and rewriting keeps the number of children.
  by_cases htwo : ∃ bar panels, tabs.children = [bar, panels]
  · obtain ⟨bar, panels, hcase⟩ := htwo
    rw [hcase] at hchildren
    have hany : (bar.rewritten f).children.any (isNamed name) =
        bar.children.any (isNamed name) := by
      rw [Node.rewritten_eq]
      show (bar.children.map (Node.rewritten f)).any (isNamed name) = _
      rw [List.any_map]
      exact congrArg bar.children.any (funext fun node => is_named_rewritten name node)
    rw [select?_of_two hchildren, select?_of_two hcase, hany]
    split
    · rw [map_children_rewritten (mark_button_rewritten name),
        map_children_rewritten (mark_panel_rewritten name), Option.map_some,
        Node.rewritten_set_children tabs]
      rfl
    · rfl
  · have hnot : ∀ bar panels, tabs.children ≠ [bar, panels] :=
      fun bar panels hcase => htwo ⟨bar, panels, hcase⟩
    rw [select?_of_not_two hnot, select?_of_not_two]
    · rfl
    · intro bar panels hcase
      rw [hchildren, List.map_eq_cons_iff] at hcase
      obtain ⟨first, rest, hfirst, _, hrest⟩ := hcase
      obtain ⟨second, hsecond, _⟩ := List.map_eq_singleton_iff.mp hrest
      exact hnot first second (by rw [hfirst, hsecond])

/-- Selecting a tab commutes with rewriting. -/
theorem select_rewritten (tabs : Node) (name : String) :
    select (tabs.rewritten f) name = (select tabs name).rewritten f := by
  unfold select
  rw [select?_rewritten]
  cases select? tabs name <;> rfl

end Tabs

namespace Frame

variable {f : String → Option String}

/-- Media with rewritten locations. -/
def rewrittenMedia (f : String → Option String) (media : Media) : Media := fun source =>
  (media source).map fun medium => ⟨Node.rewrittenValue f "src" medium.url, medium.kind⟩

/-- Drawing a textual locates nothing. -/
theorem rewritten_apply (content : Textual) (node : Node) :
    (content.apply node).rewritten f = content.apply (node.rewritten f) := by
  unfold Textual.apply
  cases content.vertical <;> cases content.color <;> simp

/-- Drawing a frame around rewritten nodes, with rewritten media. -/
theorem rewritten_draw_contain (contain : Option Contain) (node : Node) :
    (drawContain contain node).rewritten f = drawContain contain (node.rewritten f) := by
  unfold drawContain
  cases contain with
  | none => rfl
  | some contain =>
      rw [Node.rewritten_with_attribute, Node.rewritten_value_of_not_mem (by decide)]

/-- Drawing a player, with a rewritten medium. -/
theorem rewritten_draw_stream (media : Media) (source : String) (node : Node) :
    (drawStream (media source) node).rewritten f =
      drawStream (rewrittenMedia f media source) (node.rewritten f) := by
  unfold drawStream rewrittenMedia
  cases media source with
  | none => rfl
  | some medium =>
      simp [Node.rewritten_value_of_not_mem (show "controls" ∉ locators by decide),
        Node.rewritten_value_of_not_mem (show "type" ∉ locators by decide)]

/-- The panels of tabs hold rewritten nodes. -/
theorem rewritten_panels (names : List String) (contents : List Node) :
    (List.zipWith Tabs.panel names contents).map (Node.rewritten f) =
      List.zipWith Tabs.panel names (contents.map (Node.rewritten f)) := by
  rw [List.map_zipWith, List.zipWith_map_right]
  refine congrArg (fun panel => List.zipWith panel names contents) ?_
  funext name content
  simp [Tabs.panel, Node.rewritten_value_of_not_mem (show Tabs.nameAttribute ∉ locators by decide)]

/-- The button of a tab locates nothing. -/
theorem rewritten_button (name : String) : (Tabs.button name).rewritten f = Tabs.button name := by
  simp [Tabs.button, Node.rewritten_value_of_not_mem (show Tabs.nameAttribute ∉ locators by decide)]

/-- The buttons of tabs locate nothing. -/
theorem rewritten_buttons (names : List String) :
    (names.map Tabs.button).map (Node.rewritten f) = names.map Tabs.button := by
  rw [List.map_map]
  exact List.map_congr_left fun name _ => rewritten_button name

/-- Drawing tabs around rewritten nodes. -/
theorem rewritten_draw_tabs (side : Side) (names : List String) (contents : List Node)
    (node : Node) :
    (drawTabs side names contents node).rewritten f =
      drawTabs side names (contents.map (Node.rewritten f)) (node.rewritten f) := by
  unfold drawTabs
  cases names with
  | nil => simp
  | cons name names =>
      dsimp only
      rw [← Tabs.select_rewritten]
      simp only [Node.rewritten_with_children, Node.rewritten_with_style, Node.rewritten_tagged,
        List.map_cons, List.map_nil, rewritten_panels, rewritten_buttons, rewritten_button]

/-- Drawing a frame around rewritten nodes, with rewritten media. -/
theorem rewritten_draw (media : Media) (frame : Frame) (children : List Node) :
    (frame.draw media children).rewritten f =
      frame.draw (rewrittenMedia f media) (children.map (Node.rewritten f)) := by
  have hbare : frame.bare.rewritten f = frame.bare := Node.rewritten_tagged _ _
  unfold draw
  cases frame with
  | void =>
      simp [hbare, Node.rewritten_value_of_not_mem (show "hidden" ∉ locators by decide)]
  | text content | banner content => rw [rewritten_apply, hbare]
  | image source contain =>
      dsimp only
      unfold rewrittenMedia
      cases media source with
      | none => rw [rewritten_draw_contain, hbare]; rfl
      | some medium => rw [Node.rewritten_with_attribute, rewritten_draw_contain, hbare]; rfl
  | video source contain => rw [rewritten_draw_stream, rewritten_draw_contain, hbare]
  | audio source => rw [rewritten_draw_stream, hbare]
  | container title => simp [hbare]
  | layout columns rows => simp [hbare]
  | tabs side names => rw [rewritten_draw_tabs, hbare]
  | custom typeName kind content => simp [hbare]

end Frame

namespace Widget

variable {f : String → Option String}

mutual

/-- Drawing a widget with rewritten media. -/
theorem rewritten_draw (media : Media) : (widget : Widget) →
    (widget.draw media).rewritten f = widget.draw (Frame.rewrittenMedia f media)
  | node frame children => by
      rw [draw, draw, Frame.rewritten_draw, rewritten_draw_all media children]

/-- Drawing widgets with rewritten media. -/
theorem rewritten_draw_all (media : Media) : (widgets : List Widget) →
    (drawAll media widgets).map (Node.rewritten f) = drawAll (Frame.rewrittenMedia f media) widgets
  | [] => by rw [drawAll, drawAll, List.map_nil]
  | widget :: rest => by
      rw [drawAll, drawAll, List.map_cons, rewritten_draw media widget,
        rewritten_draw_all media rest]

end

end Widget

end Widgetry
