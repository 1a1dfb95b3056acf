import Widgetry.Proofs.Html.Styles
import Widgetry.Proofs.Table
import Widgetry.Widget.Selection

/-!
# Tidy trees

A node is tidy if printing it loses nothing: its declarations can be told apart, an element without
content has none, and its attributes are among those that drawn nodes have. A tree is tidy if all
its nodes are. Setting texts, styles, attributes and children keeps a tree tidy, and so does the
selection of a tab anywhere in it: `IsTidyTree.select_all`. The HTML of a tidy tree is read back
with every style declaration of its root: `IsTidyTree.declarations`.
-/

namespace Widgetry

open Html

namespace Html

/-- The attributes that drawn nodes have. -/
def drawnNames : List String :=
  ["hidden", "active", "data-tab", "src", "type", "controls", "contain"]

end Html

namespace Node

/-- Printing the node itself loses nothing. -/
structure IsTidy (node : Node) : Prop where
  styles : ∀ entry ∈ node.styles, IsDeclaration entry
  names : ∀ entry ∈ node.attributes, entry.1 ∈ drawnNames
  empty : node.kind.isVoid = true → node.text = none ∧ node.children = []

/-- Printing the tree loses nothing. -/
def IsTidyTree (node : Node) : Prop :=
  ∀ tree ∈ node.nodes, tree.IsTidy

/-- Select tabs of nodes at given paths one after the other. -/
def selectAll (node : Node) (selections : List (List Nat × String)) : Node :=
  selections.foldl (fun node (path, name) => node.modifyAt path (Tabs.select · name)) node

/-! ## Nodes of trees -/

variable {node other : Node}

/-- The nodes of trees are those of each. -/
theorem nodes_of_eq_flat_map (trees : List Node) : nodesOf trees = trees.flatMap nodes := by
  induction trees with
  | nil => rfl
  | cons tree rest ih => rw [nodesOf, List.flatMap_cons, ih]

/-- Something holds in a tree if it holds of the root and in the trees below. -/
theorem forall_nodes_iff {p : Node → Prop} :
    (∀ tree ∈ node.nodes, p tree) ↔
      p node ∧ ∀ child ∈ node.children, ∀ tree ∈ child.nodes, p tree := by
  obtain ⟨kind, className, attributes, styles, text, children⟩ := node
  rw [nodes, List.forall_mem_cons, nodes_of_eq_flat_map, List.forall_mem_flatMap]

/-- The root of a tree is one of its nodes. -/
theorem self_mem_nodes (node : Node) : node ∈ node.nodes :=
  (forall_nodes_iff.mp fun _ htree => htree).1

/-- The nodes below a child are nodes of the tree. -/
theorem nodes_subset_of_child {child : Node} (h : child ∈ node.children) :
    child.nodes ⊆ node.nodes :=
  (forall_nodes_iff.mp fun _ htree => htree).2 child h

mutual

/-- A node below a node of a tree is a node of the tree. -/
theorem nodes_subset : (node : Node) → ∀ tree ∈ node.nodes, tree.nodes ⊆ node.nodes
  | ⟨kind, className, attributes, styles, text, children⟩, tree, htree => by
      rw [nodes] at htree
      rcases List.mem_cons.mp htree with rfl | hbelow
      · exact List.Subset.refl _
      · intro other hother
        rw [nodes]
        exact List.mem_cons_of_mem _ (nodes_of_subset children tree hbelow hother)

/-- The same for a list of trees. -/
theorem nodes_of_subset : (trees : List Node) → ∀ tree ∈ nodesOf trees, tree.nodes ⊆ nodesOf trees
  | [], tree, htree => by
      rw [nodesOf] at htree
      cases htree
  | first :: rest, tree, htree => by
      rw [nodesOf] at htree ⊢
      intro other hother
      rcases List.mem_append.mp htree with hfirst | hrest
      · exact List.mem_append_left _ (nodes_subset first tree hfirst hother)
      · exact List.mem_append_right _ (nodes_of_subset rest tree hrest hother)

end

/-! ## What keeps a tree tidy -/

/-- A tree is tidy if its root and the trees below are. -/
theorem is_tidy_tree_iff :
    node.IsTidyTree ↔ node.IsTidy ∧ ∀ child ∈ node.children, child.IsTidyTree :=
  forall_nodes_iff

/-- The root of a tidy tree is tidy. -/
theorem IsTidyTree.root (h : node.IsTidyTree) : node.IsTidy :=
  (is_tidy_tree_iff.mp h).1

/-- The trees in a tidy tree are tidy. -/
theorem IsTidyTree.of_mem (h : node.IsTidyTree) {tree : Node} (htree : tree ∈ node.nodes) :
    tree.IsTidyTree :=
  fun other hother => h other (nodes_subset node tree htree hother)

/-- A tidy node with the children of a tidy tree is the root of one. -/
theorem IsTidyTree.update (h : node.IsTidyTree) (hother : other.IsTidy)
    (hchildren : other.children = node.children) : other.IsTidyTree := by
  rw [is_tidy_tree_iff] at h ⊢
  rw [hchildren]
  exact ⟨hother, h.2⟩

/-- A bare node is tidy. -/
theorem is_tidy_tree_of_kind (kind : Kind) : (Node.ofKind kind).IsTidyTree :=
  is_tidy_tree_iff.mpr ⟨⟨nofun, nofun, fun _ => ⟨rfl, rfl⟩⟩, nofun⟩

/-- A bare node with a class is tidy. -/
theorem is_tidy_tree_tagged (kind : Kind) (className : String) :
    (Node.tagged kind className).IsTidyTree :=
  is_tidy_tree_iff.mpr ⟨⟨nofun, nofun, fun _ => ⟨rfl, rfl⟩⟩, nofun⟩

/-- Elements with content may have a text. -/
theorem IsTidyTree.with_text (h : node.IsTidyTree) (hkind : node.kind.isVoid = false)
    (text : String) : (node.withText text).IsTidyTree := by
  refine h.update ⟨h.root.styles, h.root.names, fun hvoid => ?_⟩ rfl
  have hvoid : node.kind.isVoid = true := hvoid
  rw [hkind] at hvoid
  cases hvoid

/-- A declaration that can be told apart may be added. -/
theorem IsTidyTree.with_style (h : node.IsTidyTree) {property value : String}
    (hentry : IsDeclaration (property, value)) : (node.withStyle property value).IsTidyTree := by
  refine h.update ⟨?_, h.root.names, h.root.empty⟩ rfl
  intro entry hmem
  rcases Table.mem_of_mem_insert hmem with rfl | hmem
  · exact hentry
  · exact h.root.styles entry hmem

/-- One of the attributes of drawn nodes may be set. -/
theorem IsTidyTree.with_attribute (h : node.IsTidyTree) {name : String}
    (hname : name ∈ drawnNames) (value : String) : (node.withAttribute name value).IsTidyTree := by
  refine h.update ⟨h.root.styles, ?_, h.root.empty⟩ rfl
  intro entry hmem
  rcases Table.mem_of_mem_insert hmem with rfl | hmem
  · exact hname
  · exact h.root.names entry hmem

/-- Any attribute may be removed. -/
theorem IsTidyTree.without_attribute (h : node.IsTidyTree) (name : String) :
    (node.withoutAttribute name).IsTidyTree :=
  h.update ⟨h.root.styles, fun entry hmem => h.root.names entry (Table.mem_of_mem_erase hmem),
    h.root.empty⟩ rfl

/-- The children may be changed, as long as none come where there were none. -/
theorem IsTidyTree.set_children (h : node.IsTidyTree) {children : List Node}
    (hnone : node.children = [] → children = [])
    (hchildren : ∀ child ∈ children, child.IsTidyTree) :
    IsTidyTree { node with children := children } :=
  is_tidy_tree_iff.mpr ⟨⟨h.root.styles, h.root.names, fun hvoid =>
    ⟨(h.root.empty hvoid).1, hnone (h.root.empty hvoid).2⟩⟩, hchildren⟩

/-- Elements with content may have more children. -/
theorem IsTidyTree.with_children (h : node.IsTidyTree) (hkind : node.kind.isVoid = false)
    {children : List Node} (hchildren : ∀ child ∈ children, child.IsTidyTree) :
    (node.withChildren children).IsTidyTree := by
  rw [is_tidy_tree_iff]
  refine ⟨⟨h.root.styles, h.root.names, fun hvoid => ?_⟩, ?_⟩
  · have hvoid : node.kind.isVoid = true := hvoid
    rw [hkind] at hvoid
    cases hvoid
  · exact List.forall_mem_append.mpr ⟨(is_tidy_tree_iff.mp h).2, hchildren⟩

/-! ## Selecting tabs -/

/-- Marking a button keeps it tidy. -/
theorem IsTidyTree.mark_button (h : node.IsTidyTree) (name : String) :
    (Tabs.markButton name node).IsTidyTree := by
  unfold Tabs.markButton
  split
  · exact h.with_attribute (by decide) ""
  · exact h.without_attribute "active"

/-- Marking a panel keeps it tidy. -/
theorem IsTidyTree.mark_panel (h : node.IsTidyTree) (name : String) :
    (Tabs.markPanel name node).IsTidyTree := by
  unfold Tabs.markPanel
  split
  · exact h.without_attribute "hidden"
  · exact h.with_attribute (by decide) ""

/-- Changing all children keeps a tree tidy, if it keeps them tidy. -/
theorem IsTidyTree.map_children (h : node.IsTidyTree) {f : Node → Node}
    (hf : ∀ child : Node, child.IsTidyTree → (f child).IsTidyTree) :
    IsTidyTree { node with children := node.children.map f } := by
  refine h.set_children (fun hnone => by rw [hnone, List.map_nil]) ?_
  intro child hchild
  obtain ⟨before, hbefore, rfl⟩ := List.mem_map.mp hchild
  exact hf before ((is_tidy_tree_iff.mp h).2 before hbefore)

/-- Selecting a tab keeps a tree tidy, whether or not it is the tree of a tabs widget. -/
theorem IsTidyTree.select (h : node.IsTidyTree) (name : String) :
    (Tabs.select node name).IsTidyTree := by
  unfold Tabs.select Tabs.select?
  split
  next bar panels hchildren =>
    have hbelow := (is_tidy_tree_iff.mp h).2
    rw [hchildren] at hbelow
    obtain ⟨hbar, hpanels⟩ := List.forall_mem_cons.mp hbelow
    split
    · refine h.set_children (fun hnone => by rw [hnone] at hchildren; cases hchildren) ?_
      rw [List.forall_mem_cons, List.forall_mem_singleton]
      exact ⟨hbar.map_children fun _ hbutton => hbutton.mark_button name,
        (List.forall_mem_singleton.mp hpanels).map_children fun _ hpanel => hpanel.mark_panel name⟩
    · exact h
  next => exact h

/-- Changing a node somewhere in a tidy tree keeps the tree tidy, if it keeps tidy trees tidy. -/
theorem IsTidyTree.modify_at {f : Node → Node}
    (hf : ∀ tree : Node, tree.IsTidyTree → (f tree).IsTidyTree) (h : node.IsTidyTree)
    (path : List Nat) : (node.modifyAt path f).IsTidyTree := by
  induction path generalizing node with
  | nil => exact hf node h
  | cons position path ih =>
      rw [modifyAt]
      have hbelow := (is_tidy_tree_iff.mp h).2
      refine h.set_children (fun hnone => by rw [hnone, List.modify_nil]) ?_
      intro child hchild
      obtain ⟨place, hplace⟩ := List.mem_iff_getElem?.mp hchild
      rw [List.getElem?_modify] at hplace
      obtain ⟨before, hbefore, rfl⟩ := Option.map_eq_some_iff.mp hplace
      have htidy := hbelow before (List.mem_of_getElem? hbefore)
      split
      · exact ih htidy
      · exact htidy

/-- Selecting tabs anywhere keeps a tree tidy. -/
theorem IsTidyTree.select_all (h : node.IsTidyTree) (selections : List (List Nat × String)) :
    (node.selectAll selections).IsTidyTree := by
  induction selections generalizing node with
  | nil => exact h
  | cons selection rest ih =>
      exact ih (h.modify_at (fun _ htree => htree.select selection.2) selection.1)

/-! ## Printing tidy trees -/

/-- The attributes of tidy trees can be printed. -/
theorem IsTidyTree.has_plain_names (h : node.IsTidyTree) : node.HasPlainNames := by
  have hplain : ∀ name ∈ drawnNames, IsPlainName name := by decide
  exact fun tree htree entry hentry => hplain entry.1 ((h tree htree).names entry hentry)

/-- The style that is printed of a tidy tree is read back as the declarations of its root. -/
theorem IsTidyTree.declarations (h : node.IsTidyTree) :
    ∃ e, decode node.html = some e ∧ declarations? e.style = some node.styles := by
  refine ⟨node.element, decode_html_eq h.has_plain_names, ?_⟩
  obtain ⟨kind, className, attributes, styles, text, children⟩ := node
  exact declarations?_style_text h.root.styles

end Node

end Widgetry
