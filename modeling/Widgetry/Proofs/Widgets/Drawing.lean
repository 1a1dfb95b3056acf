import Widgetry.Proofs.Html.Trees
import Widgetry.Proofs.Widgets.Colors
import Widgetry.Proofs.Widgets.Parts
import Widgetry.Rendering

/-!
# Drawn trees are tidy

Every core widget is drawn as a tidy tree, whatever its texts, names, colours, sources and content
kinds are. What its configuration can put into a style is an accepted colour, the name of a choice,
or the text of a number. `Frame.IsMild` says so of a frame, and it holds of all frames that
resolution gives to a document of core widgets. The main theorem is `rendered_trees_are_tidy`.
-/

namespace Widgetry

open Html

/-! ## Numbers in styles -/

namespace Binary64

/-- Digits with zeros and a point among them are a text of styles. -/
theorem is_style_text_positional_text {digits : List Char} (layout : Layout)
    (h : IsStyleText digits) (k : Int) : IsStyleText (positionalText layout digits k) := by
  have hpoint : isStyleChar '.' = true := by decide
  have hzero : isStyleChar '0' = true := by decide
  have hzeros : ∀ n, IsStyleText (List.replicate n '0') := by
    intro n c hc
    rw [List.eq_of_mem_replicate hc]
    exact hzero
  have htake : ∀ n, IsStyleText (digits.take n) := fun _ c hc => h c (List.mem_of_mem_take hc)
  have hdrop : ∀ n, IsStyleText (digits.drop n) := fun _ c hc => h c (List.mem_of_mem_drop hc)
  unfold positionalText
  dsimp only
  split
  · split <;> simp [h, hpoint, hzero, hzeros]
  · split
    · simp [htake, hdrop, hpoint]
    · simp [h, hpoint, hzero, hzeros]

/-- The plain text of a number is one of styles. -/
theorem is_style_text_plain (x : Binary64) : IsStyleText (x.text plainLayout).toList := by
  cases x with
  | nan =>
      show IsStyleText "NaN".toList
      decide
  | infinite negative =>
      show IsStyleText (if negative then "-inf" else "inf").toList
      cases negative <;> decide
  | finite negative mantissa exponent =>
      have hdigits : ∀ n, IsStyleText (Nat.toDigits 10 n) := fun n c hc =>
        is_style_char_of_is_digit (Nat.isDigit_of_mem_toDigits (by decide) (by decide) hc)
      have hsigned : ∀ body, IsStyleText body →
          IsStyleText (if negative then '-' :: body else body) := by
        intro body hbody
        cases negative with
        | true => exact is_style_text_cons.mpr ⟨by decide, hbody⟩
        | false => exact hbody
      unfold text
      rw [String.toList_ofList]
      refine hsigned _ ?_
      split
      · decide
      · exact is_style_text_positional_text plainLayout (hdigits _) _

end Binary64

/-- The sizes of tracks are a text of styles. -/
theorem Frame.is_style_text_tracks (sizes : List Binary64) :
    IsStyleText (Frame.tracks sizes).toList := by
  rw [tracks, String.toList_intercalate]
  refine is_style_text_intercalate (by decide) ?_
  intro text htext
  rw [List.map_map, List.mem_map] at htext
  obtain ⟨size, _, rfl⟩ := htext
  rw [Function.comp_apply, String.toList_append, is_style_text_append]
  exact ⟨size.is_style_text_plain, by decide⟩

/-! ## Colours in styles -/

/-- The colour of a textual widget, if it has one, is a text of styles. -/
def Textual.IsMild (content : Textual) : Prop :=
  ∀ color, content.color = some color → IsStyleText color.toList

/-- The widget is none of a custom type, and its colour is a text of styles. -/
def Frame.IsMild : Frame → Prop
  | .text content => content.IsMild
  | .banner content => content.IsMild
  | .custom _ _ _ => False
  | _ => True

/-- A colour that was accepted is a text of styles. -/
theorem Textual.is_style_text_of_read_color {c : Configuration} {color : String}
    (h : Textual.readColor c = .ok (some color)) : IsStyleText color.toList := by
  unfold readColor at h
  split at h
  next => cases h
  next text htext =>
    split at h
    next hvalid =>
      obtain rfl : Text.trim text = color := by simpa using h
      rw [Text.trim, String.toList_ofList]
      exact fun char hchar =>
        Color.is_style_text_of_is_valid hvalid char (Text.mem_of_mem_trimmed hchar)
    next => cases h
  next => cases h

/-- Configured content is mild. -/
theorem Textual.is_mild_of_configure {c : Configuration} {default : Horizontal}
    {content : Textual} (h : Textual.configure c default = .ok content) : content.IsMild := by
  simp only [configure, bind_eq_ok] at h
  obtain ⟨text, _, alignment, _, color, hcolor, hcontent⟩ := h
  cases hcontent
  rintro found rfl
  exact is_style_text_of_read_color hcolor

/-- The frame of a core widget is mild. -/
theorem Factory.is_mild_of_outline {factory : Factory} (hcore : ∀ type, factory ≠ .custom type)
    {fields : Fields} {chain : List Identifier} {outline : Outline}
    (h : factory.outline fields chain = .ok outline) : outline.frame.IsMild := by
  cases yields_of_outline h with
  | text | banner =>
      obtain ⟨frame, hframe, houtline⟩ := leaf_eq_ok_iff.mp h
      cases houtline
      obtain ⟨content, hcontent, hframe⟩ := map_eq_ok.mp hframe
      cases hframe
      exact Textual.is_mild_of_configure hcontent
  | void | image | video | audio | container | layout | tabs => trivial
  | custom type => exact absurd rfl (hcore type)

/-! ## The frames of resolved widgets -/

namespace Registry

variable {registry : Registry} {document : Document}

/-- All types that the document names are those of core widgets. -/
def HasCoreTypes (registry : Registry) (document : Document) : Prop :=
  ∀ name ∈ document.types, ∀ type, registry.factory? name ≠ some (.custom type)

/-- The outlines of a document of core widgets have mild frames. -/
theorem is_mild_of_outline (hcore : registry.HasCoreTypes document) {id : Identifier}
    {chain : List Identifier} {outline : Outline}
    (h : registry.outline document id chain = .ok outline) : outline.frame.IsMild := by
  simp only [Registry.outline, bind_eq_ok, map_error_eq_ok] at h
  obtain ⟨⟨factory, fields⟩, hlookup, houtline⟩ := h
  refine Factory.is_mild_of_outline (fun type htype => ?_) houtline
  obtain ⟨record, name, _, hname, hfactory, _⟩ := lookup_eq_ok hlookup
  exact hcore name (List.mem_of_getElem? hname) type (htype ▸ hfactory)

end Registry

/-! ## Drawing -/

variable {frame : Frame} {children : List Node} {media : Media} {node : Node}

/-- The content of a mild textual widget keeps a node tidy. -/
theorem Textual.is_tidy_tree_apply {content : Textual} (hmild : content.IsMild)
    (h : node.IsTidyTree) (hkind : node.kind.isVoid = false) :
    (content.apply node).IsTidyTree := by
  have haligned : ((node.withText content.text).withStyle "--alignment"
      content.horizontal.name).IsTidyTree := by
    refine (h.with_text hkind content.text).with_style ?_
    exact is_declaration_of_is_style_text (by decide) (by cases content.horizontal <;> decide)
  unfold apply
  dsimp only
  generalize (node.withText content.text).withStyle "--alignment" content.horizontal.name =
    aligned at haligned ⊢
  have hvertical (vertical : Vertical) :
      (aligned.withStyle "--vertical-alignment" vertical.name).IsTidyTree := by
    refine haligned.with_style (is_declaration_of_is_style_text (by decide) ?_)
    cases vertical <;> decide
  split
  next color hcolor =>
    refine Node.IsTidyTree.with_style ?_
      (is_declaration_of_is_style_text (by decide) (hmild color hcolor))
    split
    next vertical _ => exact hvertical vertical
    next => exact haligned
  next =>
    split
    next vertical _ => exact hvertical vertical
    next => exact haligned

namespace Frame

/-- Noting how a medium fills its box keeps a node tidy. -/
theorem is_tidy_tree_draw_contain (h : node.IsTidyTree) (contain : Option Contain) :
    (drawContain contain node).IsTidyTree := by
  cases contain with
  | none => exact h
  | some contain => exact h.with_attribute (by decide) contain.name

/-- Adding a medium keeps a node tidy, wherever its content lies and of whatever kind it is. -/
theorem is_tidy_tree_draw_stream (h : node.IsTidyTree) (hkind : node.kind.isVoid = false)
    (medium : Option Medium) : (drawStream medium node).IsTidyTree := by
  cases medium with
  | none => exact h
  | some medium =>
      refine (h.with_attribute (by decide) "controls").with_children hkind ?_
      rw [List.forall_mem_singleton]
      have hsource := (Node.is_tidy_tree_of_kind .source).with_attribute
        (show "src" ∈ drawnNames by decide) medium.url
      exact hsource.with_attribute (by decide) medium.kind

/-- The buttons of tabs are tidy, whatever their names are. -/
theorem is_tidy_tree_button (name : String) : (Tabs.button name).IsTidyTree :=
  ((Node.is_tidy_tree_of_kind .button).with_text rfl name).with_attribute (by decide) name

/-- The panel around a tidy tree is tidy. -/
theorem is_tidy_tree_panel (h : node.IsTidyTree) (name : String) :
    (Tabs.panel name node).IsTidyTree := by
  have hpanel := (Node.is_tidy_tree_of_kind .block).with_attribute
    (show Tabs.nameAttribute ∈ drawnNames by decide) name
  exact hpanel.with_children rfl (List.forall_mem_singleton.mpr h)

/-- Tabs around tidy trees are tidy. -/
theorem is_tidy_tree_draw_tabs (h : node.IsTidyTree) (hkind : node.kind.isVoid = false)
    (hchildren : ∀ child ∈ children, child.IsTidyTree) (side : Side) (names : List String) :
    (drawTabs side names children node).IsTidyTree := by
  have hbar : ((Node.tagged .block "tab-bar").withChildren
      (names.map Tabs.button)).IsTidyTree := by
    refine (Node.is_tidy_tree_tagged .block "tab-bar").with_children rfl ?_
    intro button hbutton
    obtain ⟨name, _, rfl⟩ := List.mem_map.mp hbutton
    exact is_tidy_tree_button name
  have hpanels : ((Node.tagged .block "tab-panels").withChildren
      (List.zipWith Tabs.panel names children)).IsTidyTree := by
    refine (Node.is_tidy_tree_tagged .block "tab-panels").with_children rfl ?_
    intro panel hpanel
    rw [← List.map_uncurry_zip_eq_zipWith] at hpanel
    obtain ⟨⟨name, child⟩, hzip, rfl⟩ := List.mem_map.mp hpanel
    exact is_tidy_tree_panel (hchildren child (List.of_mem_zip hzip).2) name
  have hside : IsDeclaration ("--position", side.name) :=
    is_declaration_of_is_style_text (by decide) (by cases side <;> decide)
  have hdrawn := (h.with_style hside).with_children hkind
    (List.forall_mem_cons.mpr ⟨hbar, List.forall_mem_singleton.mpr hpanels⟩)
  unfold drawTabs
  cases names with
  | nil => exact hdrawn
  | cons name names => exact hdrawn.select name

/-- A mild frame around tidy trees is drawn as a tidy tree. -/
theorem is_tidy_tree_draw (hmild : frame.IsMild)
    (hchildren : ∀ child ∈ children, child.IsTidyTree) :
    (frame.draw media children).IsTidyTree := by
  have hbare : frame.bare.IsTidyTree := Node.is_tidy_tree_tagged frame.kind frame.typeName
  cases frame with
  | void =>
      have hhidden := hbare.with_attribute (show "hidden" ∈ drawnNames by decide) ""
      exact hhidden.with_style (is_declaration_of_is_style_text (by decide) (by decide))
  | text content => exact content.is_tidy_tree_apply hmild hbare rfl
  | banner content => exact content.is_tidy_tree_apply hmild hbare rfl
  | image source contain =>
      have hcontain := is_tidy_tree_draw_contain hbare contain
      unfold draw
      dsimp only
      split
      · exact hcontain.with_attribute (by decide) _
      · exact hcontain
  | video source contain =>
      refine is_tidy_tree_draw_stream (is_tidy_tree_draw_contain hbare contain) ?_ (media source)
      cases contain <;> rfl
  | audio source => exact is_tidy_tree_draw_stream hbare rfl (media source)
  | container title =>
      refine hbare.with_children rfl (List.forall_mem_cons.mpr ⟨?_, hchildren⟩)
      exact (Node.is_tidy_tree_of_kind .legend).with_text rfl title
  | layout columns rows =>
      have hgrid := hbare.with_style (show IsDeclaration ("display", "grid") from
        is_declaration_of_is_style_text (by decide) (by decide))
      have hcolumns := hgrid.with_style (show IsDeclaration ("grid-template-columns", _) from
        is_declaration_of_is_style_text (by decide) (is_style_text_tracks columns))
      have hrows := hcolumns.with_style (show IsDeclaration ("grid-template-rows", _) from
        is_declaration_of_is_style_text (by decide) (is_style_text_tracks rows))
      exact hrows.with_children rfl hchildren
  | tabs side names => exact is_tidy_tree_draw_tabs hbare rfl hchildren side names
  | custom typeName kind content => exact hmild.elim

end Frame

mutual

/-- A widget of mild frames is drawn as a tidy tree. -/
theorem Widget.is_tidy_tree_draw : (widget : Widget) →
    (∀ part ∈ widget.parts, part.frame.IsMild) → (widget.draw media).IsTidyTree
  | .node frame children, hmild => by
      rw [Widget.parts, List.forall_mem_cons] at hmild
      rw [Widget.draw]
      exact Frame.is_tidy_tree_draw hmild.1 (Widget.is_tidy_tree_draw_all children hmild.2)

/-- The same for a list of widgets. -/
theorem Widget.is_tidy_tree_draw_all : (widgets : List Widget) →
    (∀ part ∈ Widget.partsOf widgets, part.frame.IsMild) →
    ∀ node ∈ Widget.drawAll media widgets, node.IsTidyTree
  | [], _ => by
      rw [Widget.drawAll]
      nofun
  | widget :: rest, hmild => by
      rw [Widget.partsOf, List.forall_mem_append] at hmild
      rw [Widget.drawAll, List.forall_mem_cons]
      exact ⟨Widget.is_tidy_tree_draw widget hmild.1, Widget.is_tidy_tree_draw_all rest hmild.2⟩

end

/-- Rendering that succeeds draws the widget. -/
theorem Session.draw_of_render {transport : Transport} {support : MediaSupport}
    {s s' : Session} {widget : Widget}
    (h : s.render transport support widget = (s', some (.ok node))) :
    node = widget.draw s'.media := by
  unfold render at h
  dsimp only at h
  split at h
  · cases h
    rfl
  · cases h
  · cases h

/-- However a document of core widgets is rendered and whatever tabs are selected anywhere in it
afterwards, no node loses anything in print: its style is read back as its declarations, it has no
content if its kind has none, and its attributes are among the few that widgets set. -/
theorem rendered_trees_are_tidy (registry : Registry) (document : Document) (id : Identifier)
    (transport : Transport) (support : MediaSupport) (s s' : Session) (widget : Widget)
    (node : Node) (hcore : registry.HasCoreTypes document)
    (hresolve : registry.resolve document id = .ok widget)
    (hrender : s.render transport support widget = (s', some (.ok node)))
    (selections : List (List Nat × String)) :
    ∀ tree ∈ (node.selectAll selections).nodes,
      (∃ e, decode tree.html = some e ∧ declarations? e.style = some tree.styles) ∧
      (tree.kind = .image ∨ tree.kind = .source → tree.text = none ∧ tree.children = []) ∧
      ∀ entry ∈ tree.attributes,
        entry.1 ∈ ["hidden", "active", "data-tab", "src", "type", "controls", "contain"] := by
  have hmild : ∀ part ∈ widget.parts, part.frame.IsMild :=
    Registry.forall_parts_of_resolve_below trivial
      (fun _ _ _ _ _ houtline _ => Registry.is_mild_of_outline hcore houtline) hresolve
  have hdrawn : node.IsTidyTree := by
    rw [Session.draw_of_render hrender]
    exact widget.is_tidy_tree_draw hmild
  intro tree htree
  have htidy := (hdrawn.select_all selections).of_mem htree
  refine ⟨htidy.declarations, fun hkind => htidy.root.empty ?_, htidy.root.names⟩
  rcases hkind with hkind | hkind <;> rw [hkind] <;> rfl

/-- Tabs with separators of styles in their names, around a coloured text and an image. -/
def tabbedDocument : Document where
  records := .list [
    ⟨0, [("items", .array [
      .object [("name", .string "a;b"), ("object", .integer 1)],
      .object [("name", .string "c:d"), ("object", .integer 2)]])]⟩,
    ⟨1, [("color", .string " RGB (1 2 3 / 4.5e1%) "), ("text", .string "x")]⟩,
    ⟨2, [("source", .string "a.png")]⟩]
  types := ["tabs", "text", "image"]
  root := .index 0

/-- The widget of `tabbedDocument`. -/
def tabbedWidget : Widget :=
  .node (.tabs .top ["a;b", "c:d"]) [
    .node (.text ⟨"x", .left, none, some "RGB (1 2 3 / 4.5e1%)"⟩) [],
    .node (.image "a.png" none) []]

/-- The names and the colour in `tabbedDocument` do no harm, also after the second tab was selected
and a selection was tried inside its panel. -/
theorem rendered_trees_are_tidy_tabbed :
    (Registry.core 3).HasCoreTypes tabbedDocument ∧
    (Registry.core 3).resolve tabbedDocument (.index 0) = .ok tabbedWidget ∧
    ∃ s node, Session.empty.render (fun _ => .after 2 (.ok ⟨[0], none⟩)) (fun _ _ => .probably)
        tabbedWidget = (s, some (.ok node)) ∧
      ∀ tree ∈ (node.selectAll [([], "c:d"), ([1, 1, 0], "a;b")]).nodes,
        (∃ e, decode tree.html = some e ∧ declarations? e.style = some tree.styles) ∧
        (tree.kind = .image ∨ tree.kind = .source → tree.text = none ∧ tree.children = []) ∧
        ∀ entry ∈ tree.attributes,
          entry.1 ∈ ["hidden", "active", "data-tab", "src", "type", "controls", "contain"] := by
  have hcore : (Registry.core 3).HasCoreTypes tabbedDocument := by
    intro name hname type
    have hnames : name = "tabs" ∨ name = "text" ∨ name = "image" := by
      simpa [tabbedDocument] using hname
    rcases hnames with rfl | rfl | rfl <;> exact nofun
  have hresolve : (Registry.core 3).resolve tabbedDocument (.index 0) = .ok tabbedWidget := rfl
  obtain ⟨s, node, hrender⟩ : ∃ s node, Session.empty.render
      (fun _ => .after 2 (.ok ⟨[0], none⟩)) (fun _ _ => .probably) tabbedWidget =
        (s, some (.ok node)) := ⟨_, _, rfl⟩
  exact ⟨hcore, hresolve, s, node, hrender, rendered_trees_are_tidy (Registry.core 3)
    tabbedDocument (.index 0) _ _ Session.empty s tabbedWidget node hcore hresolve hrender _⟩

end Widgetry
