import Widgetry.Proofs.Widgets.Drawing
import Widgetry.Proofs.Widgets.Parts

/-!
# Selections of tabs

The node of a tabs widget goes from one selection to the next by two passes, one over the buttons
and one over the panels. `Tabs.picture` is the node with a given tab selected, and `select?_picture`
says all that a step can do: it leads from one picture to another, or finds no tab. So any history
of selections comes to the picture of the last name that was found. The main theorem,
`selections_show_one_tab`, says what is to be seen there, for every tabs widget on a rendered page.
-/

namespace Widgetry

namespace Node

/-- The texts of a list of nodes, node by node. -/
theorem texts_of_eq_flat_map (nodes : List Node) : textsOf nodes = nodes.flatMap texts := by
  induction nodes with
  | nil => rfl
  | cons node rest ih => rw [textsOf, ih, List.flatMap_cons]

/-- The visible texts of a list of nodes, node by node. -/
theorem visible_texts_of_eq_flat_map (nodes : List Node) :
    visibleTextsOf nodes = nodes.flatMap visibleTexts := by
  induction nodes with
  | nil => rfl
  | cons node rest ih => rw [visibleTextsOf, ih, List.flatMap_cons]

end Node

namespace Tabs

/-- Select tabs one after the other. The answer has the names that were found, in order. -/
def selectEach (tabs : Node) : List String → Node × List String
  | [] => (tabs, [])
  | name :: rest =>
      match select? tabs name with
      | some selected =>
          let (last, found) := selectEach selected rest
          (last, name :: found)
      | none => selectEach tabs rest

/-- The buttons of the bar of tabs. -/
def buttons (tabs : Node) : List Node :=
  match tabs.children with
  | [bar, _] => bar.children
  | _ => []

/-- The panels of tabs. -/
def panels (tabs : Node) : List Node :=
  match tabs.children with
  | [_, panels] => panels.children
  | _ => []

/-- What is to be seen of tabs when one is selected. There is a button and a panel for each name, in
order. Exactly at the position of the selected name the button is active, and exactly there the
panel is not hidden. The panels hold the contents as they were, and the visible text is that of the
buttons and of the selected content. -/
structure Shows (names : List String) (contents : List Node) (selected : String) (tabs : Node) :
    Prop where
  bar : (buttons tabs).map (Node.attribute? · nameAttribute) = names.map some
  area : (panels tabs).map (Node.attribute? · nameAttribute) = names.map some
  untouched : (panels tabs).map Node.children = contents.map fun content => [content]
  active : active? tabs = some selected
  one : ∃ (position : Nat) (content : Node), names[position]? = some selected ∧
    contents[position]? = some content ∧
    (∀ (i : Nat) (button : Node), (buttons tabs)[i]? = some button →
      (button.hasAttribute "active" = true ↔ i = position)) ∧
    (∀ (i : Nat) (panel : Node), (panels tabs)[i]? = some panel →
      (panel.isHidden = false ↔ i = position)) ∧
    tabs.visibleText = String.join names ++ content.visibleText

/-! ## Pictures of tabs -/

/-- The button of a tab while some tab is selected, or none yet. -/
def shownButton (selected : Option String) (name : String) : Node :=
  if selected.any (· = name) then (button name).withAttribute "active" "" else button name

/-- The panel of a tab while some tab is selected, or none yet. -/
def shownPanel (selected : Option String) (name : String) (content : Node) : Node :=
  if selected.all (· = name) then panel name content
  else (panel name content).withAttribute "hidden" ""

/-- The node of a tabs widget with given buttons and panels. -/
def assembled (side : Side) (buttons panels : List Node) : Node :=
  ((Node.tagged .block "tabs").withStyle "--position" side.name).withChildren
    [(Node.tagged .block "tab-bar").withChildren buttons,
      (Node.tagged .block "tab-panels").withChildren panels]

/-- The node of a tabs widget while some tab is selected, or none yet. -/
def picture (side : Side) (names : List String) (contents : List Node)
    (selected : Option String) : Node :=
  assembled side (names.map (shownButton selected))
    (List.zipWith (shownPanel selected) names contents)

variable {side : Side} {names : List String} {contents : List Node}

/-- A shown button has the name of its tab. -/
theorem attribute?_shown_button (selected : Option String) (name : String) :
    (shownButton selected name).attribute? nameAttribute = some name := by
  unfold shownButton
  split <;> rfl

/-- A shown panel has the name of its tab. -/
theorem attribute?_shown_panel (selected : Option String) (name : String) (content : Node) :
    (shownPanel selected name content).attribute? nameAttribute = some name := by
  unfold shownPanel
  split <;> rfl

/-- A shown panel holds its content. -/
theorem children_shown_panel (selected : Option String) (name : String) (content : Node) :
    (shownPanel selected name content).children = [content] := by
  unfold shownPanel
  split <;> rfl

/-- Marking a button forgets which tab was selected before. -/
theorem mark_shown_button (selected : Option String) (next name : String) :
    markButton next (shownButton selected name) = shownButton (some next) name := by
  have hnamed : isNamed next (shownButton selected name) = decide (next = name) := by
    rw [isNamed, attribute?_shown_button]
    exact decide_eq_decide.mpr (by rw [Option.some.injEq, eq_comm])
  unfold markButton
  rw [hnamed]
  unfold shownButton
  rw [Option.any_some]
  by_cases hnext : next = name
  · rw [if_pos (decide_eq_true hnext), if_pos (decide_eq_true hnext)]
    split <;> rfl
  · have hother : ¬ decide (next = name) = true := by simpa using hnext
    rw [if_neg hother, if_neg hother]
    split <;> rfl

/-- Marking a panel forgets which tab was selected before. -/
theorem mark_shown_panel (selected : Option String) (next name : String) (content : Node) :
    markPanel next (shownPanel selected name content) = shownPanel (some next) name content := by
  have hnamed : isNamed next (shownPanel selected name content) = decide (next = name) := by
    rw [isNamed, attribute?_shown_panel]
    exact decide_eq_decide.mpr (by rw [Option.some.injEq, eq_comm])
  unfold markPanel
  rw [hnamed]
  unfold shownPanel
  rw [Option.all_some]
  by_cases hnext : next = name
  · rw [if_pos (decide_eq_true hnext), if_pos (decide_eq_true hnext)]
    split <;> rfl
  · have hother : ¬ decide (next = name) = true := by simpa using hnext
    rw [if_neg hother, if_neg hother]
    split <;> rfl

/-- A selection marks all buttons and panels, if some button has the name. -/
theorem select?_assembled (side : Side) (buttons panels : List Node) (name : String) :
    select? (assembled side buttons panels) name =
      if buttons.any (isNamed name) then
        some (assembled side (buttons.map (markButton name)) (panels.map (markPanel name)))
      else none := rfl

/-- **One selection.** A name that is declared leads to the picture in which it is selected, and any
other is not found. -/
theorem select?_picture (side : Side) (names : List String) (contents : List Node)
    (selected : Option String) (name : String) :
    select? (picture side names contents selected) name =
      if name ∈ names then some (picture side names contents (some name)) else none := by
  have hbuttons : (names.map (shownButton selected)).map (markButton name) =
      names.map (shownButton (some name)) := by
    rw [List.map_map]
    exact List.map_congr_left fun other _ => mark_shown_button selected name other
  have hpanels : (List.zipWith (shownPanel selected) names contents).map (markPanel name) =
      List.zipWith (shownPanel (some name)) names contents := by
    rw [List.map_zipWith]
    simp only [mark_shown_panel]
  have hfound : (names.map (shownButton selected)).any (isNamed name) = true ↔ name ∈ names := by
    simp [isNamed, attribute?_shown_button]
  unfold picture
  rw [select?_assembled, hbuttons, hpanels]
  by_cases hname : name ∈ names
  · rw [if_pos (hfound.mpr hname), if_pos hname]
  · rw [if_neg (fun h => hname (hfound.mp h)), if_neg hname]

/-- Selecting a declared tab leads to its picture, whichever was selected before. -/
theorem select_picture {name : String} (hname : name ∈ names) (selected : Option String) :
    select (picture side names contents selected) name =
      picture side names contents (some name) := by
  rw [select, select?_picture, if_pos hname, Option.getD_some]

/-- Tabs are drawn as the picture in which the first one is selected. -/
theorem draw_eq_picture (media : Media) (side : Side) (name : String) (names : List String)
    (contents : List Node) :
    (Frame.tabs side (name :: names)).draw media contents =
      picture side (name :: names) contents (some name) := by
  -- The bare buttons and panels are the picture before any selection.
  rw [← select_picture (List.mem_cons_self ..) none]
  rfl

/-! ## Histories of selections -/

/-- Any history of selections comes to the picture of the last name that was found. Found are all
names that are declared. -/
theorem select_each_picture (side : Side) (names : List String) (contents : List Node)
    (selected : String) (calls : List String) :
    selectEach (picture side names contents (some selected)) calls =
      (picture side names contents (some ((calls.filter (· ∈ names)).getLast?.getD selected)),
        calls.filter (· ∈ names)) := by
  induction calls generalizing selected with
  | nil => rfl
  | cons name rest ih =>
      rw [selectEach, select?_picture]
      by_cases hname : name ∈ names
      · rw [if_pos hname, List.filter_cons_of_pos (by simpa using hname)]
        dsimp only
        rw [ih name, List.getLast?_cons]
        rfl
      · rw [if_neg hname, List.filter_cons_of_neg (by simpa using hname)]
        exact ih selected

/-- The last name that was found is declared, and so is the one that was selected before any. -/
theorem last_found_mem {first : String} (h : first ∈ names) (calls : List String) :
    (calls.filter (· ∈ names)).getLast?.getD first ∈ names := by
  cases hlast : (calls.filter (· ∈ names)).getLast? with
  | none => exact h
  | some name => exact of_decide_eq_true (List.mem_filter.mp (List.mem_of_getLast? hlast)).2

/-! ## What a picture shows -/

/-- The button of the selected tab is active, and no other. -/
theorem has_active_shown_button (selected name : String) :
    (shownButton (some selected) name).hasAttribute "active" = decide (selected = name) := by
  unfold shownButton
  rw [Option.any_some]
  split <;> simp [*] <;> rfl

/-- The panel of the selected tab is shown, and no other. -/
theorem is_hidden_shown_panel (selected name : String) (content : Node) :
    (shownPanel (some selected) name content).isHidden = decide (selected ≠ name) := by
  unfold shownPanel
  rw [Option.all_some]
  split <;> simp [*] <;> rfl

/-- The text of a button is the name of its tab. -/
theorem texts_shown_button (selected : Option String) (name : String) :
    (shownButton selected name).texts = [name] := by
  unfold shownButton
  split <;> rfl

/-- The text of a button is visible. -/
theorem visible_texts_shown_button (selected : Option String) (name : String) :
    (shownButton selected name).visibleTexts = [name] := by
  unfold shownButton
  split <;> rfl

/-- The text of a panel is that of its content. -/
theorem texts_shown_panel (selected : Option String) (name : String) (content : Node) :
    (shownPanel selected name content).texts = content.texts := by
  unfold shownPanel
  split <;> exact List.append_nil content.texts

/-- The text of a panel is visible if its tab is selected. -/
theorem visible_texts_shown_panel (selected name : String) (content : Node) :
    (shownPanel (some selected) name content).visibleTexts =
      if selected = name then content.visibleTexts else [] := by
  unfold shownPanel
  rw [Option.all_some]
  by_cases hname : selected = name
  · rw [if_pos (decide_eq_true hname), if_pos hname]
    exact List.append_nil content.visibleTexts
  · rw [if_neg (by simpa using hname), if_neg hname]
    rfl

/-- The nodes of a panel are nodes of the assembled tabs. -/
theorem nodes_subset_assembled (side : Side) (buttons : List Node) {panels : List Node}
    {panel : Node} (h : panel ∈ panels) : panel.nodes ⊆ (assembled side buttons panels).nodes := by
  have harea : ((Node.tagged .block "tab-panels").withChildren panels).nodes ⊆
      (assembled side buttons panels).nodes :=
    Node.nodes_subset_of_child (List.mem_cons_of_mem _ (List.mem_singleton_self _))
  exact List.Subset.trans (Node.nodes_subset_of_child h) harea

/-- The texts of assembled tabs are those of the buttons and then those of the panels. -/
theorem texts_assembled (side : Side) (buttons panels : List Node) :
    (assembled side buttons panels).texts =
      buttons.flatMap Node.texts ++ panels.flatMap Node.texts := by
  rw [← Node.texts_of_eq_flat_map, ← Node.texts_of_eq_flat_map]
  exact congrArg (Node.textsOf buttons ++ ·) (List.append_nil _)

/-- The visible texts of assembled tabs are those of the buttons and then those of the panels. -/
theorem visible_texts_assembled (side : Side) (buttons panels : List Node) :
    (assembled side buttons panels).visibleTexts =
      buttons.flatMap Node.visibleTexts ++ panels.flatMap Node.visibleTexts := by
  rw [← Node.visible_texts_of_eq_flat_map, ← Node.visible_texts_of_eq_flat_map]
  exact congrArg (Node.visibleTextsOf buttons ++ ·) (List.append_nil _)

/-- The text of a picture does not depend on the selected tab. -/
theorem text_content_picture (side : Side) (names : List String) (contents : List Node)
    (selected other : Option String) :
    (picture side names contents selected).textContent =
      (picture side names contents other).textContent := by
  unfold Node.textContent picture
  simp only [texts_assembled, List.flatMap_def, List.map_map, List.map_zipWith, Function.comp_def,
    texts_shown_button, texts_shown_panel]

/-- The panels of tabs that are not selected have no visible text. -/
theorem visible_texts_panels_of_not_mem {selected : String} (h : selected ∉ names)
    (contents : List Node) :
    (List.zipWith (shownPanel (some selected)) names contents).flatMap Node.visibleTexts = [] := by
  induction names generalizing contents with
  | nil => rfl
  | cons name names ih =>
      cases contents with
      | nil => rfl
      | cons content contents =>
          rw [List.mem_cons, not_or] at h
          rw [List.zipWith_cons_cons, List.flatMap_cons, visible_texts_shown_panel, if_neg h.1,
            ih h.2, List.append_nil]

/-- The panels have the visible text of the selected content. -/
theorem visible_texts_panels (hnodup : names.Nodup) {position : Nat} {selected : String}
    {content : Node} (hname : names[position]? = some selected)
    (hcontent : contents[position]? = some content) :
    (List.zipWith (shownPanel (some selected)) names contents).flatMap Node.visibleTexts =
      content.visibleTexts := by
  induction names generalizing contents position with
  | nil => cases hname
  | cons name names ih =>
      cases contents with
      | nil => cases hcontent
      | cons first contents =>
          rw [List.nodup_cons] at hnodup
          rw [List.zipWith_cons_cons, List.flatMap_cons, visible_texts_shown_panel]
          cases position with
          | zero =>
              cases hname
              cases hcontent
              rw [if_pos rfl, visible_texts_panels_of_not_mem hnodup.1, List.append_nil]
          | succ position =>
              rw [List.getElem?_cons_succ] at hname hcontent
              have hdifferent : selected ≠ name := by
                rintro rfl
                exact hnodup.1 (List.mem_of_getElem? hname)
              rw [if_neg hdifferent, ih hnodup.2 hname hcontent, List.nil_append]

/-- The panels have the names of the tabs, in order. -/
theorem names_panels (hlength : names.length = contents.length) (selected : Option String) :
    (List.zipWith (shownPanel selected) names contents).map (Node.attribute? · nameAttribute) =
      names.map some := by
  induction names generalizing contents with
  | nil => rfl
  | cons name names ih =>
      cases contents with
      | nil => cases hlength
      | cons content contents =>
          rw [List.zipWith_cons_cons, List.map_cons, attribute?_shown_panel,
            ih (Nat.succ.inj hlength), List.map_cons]

/-- The panels hold the contents, in order. -/
theorem children_panels (hlength : names.length = contents.length) (selected : Option String) :
    (List.zipWith (shownPanel selected) names contents).map Node.children =
      contents.map fun content => [content] := by
  induction names generalizing contents with
  | nil =>
      cases contents with
      | nil => rfl
      | cons content contents => cases hlength
  | cons name names ih =>
      cases contents with
      | nil => cases hlength
      | cons content contents =>
          rw [List.zipWith_cons_cons, List.map_cons, children_shown_panel,
            ih (Nat.succ.inj hlength), List.map_cons]

/-- The active tab of a picture is the selected one. -/
theorem active?_picture {selected : String} (h : selected ∈ names) :
    active? (picture side names contents (some selected)) = some selected := by
  have hname : names.find? (fun name => decide (selected = name)) = some selected := by
    cases hfound : names.find? (fun name => decide (selected = name)) with
    | none => exact absurd (decide_eq_true rfl) (List.find?_eq_none.mp hfound selected h)
    | some name =>
        have hsame := List.find?_some hfound
        rw [of_decide_eq_true hsame]
  have hbutton : (names.map (shownButton (some selected))).find?
      (fun button => button.hasAttribute "active") =
        some (shownButton (some selected) selected) := by
    rw [List.find?_map, Function.comp_def]
    simp only [has_active_shown_button]
    rw [hname, Option.map_some]
  simp only [active?, picture, assembled, Node.withChildren, Node.withStyle, Node.tagged,
    List.nil_append, hbutton, attribute?_shown_button]

/-- **What is to be seen.** A picture of different names shows its selected tab. -/
theorem shows_picture (hnodup : names.Nodup) (hlength : names.length = contents.length)
    {selected : String} (h : selected ∈ names) :
    Shows names contents selected (picture side names contents (some selected)) where
  bar := by
    change (names.map (shownButton (some selected))).map (Node.attribute? · nameAttribute) = _
    rw [List.map_map]
    exact List.map_congr_left fun name _ => attribute?_shown_button (some selected) name
  area := names_panels hlength (some selected)
  untouched := children_panels hlength (some selected)
  active := active?_picture h
  one := by
    obtain ⟨position, hposition⟩ := List.getElem?_of_mem h
    have hbound : position < contents.length := by
      rw [← hlength]
      exact (List.getElem?_eq_some_iff.mp hposition).1
    -- Names at two positions differ, so a name is the selected one only at its own position.
    have hunique : ∀ i name, names[i]? = some name → (selected = name ↔ i = position) := by
      intro i name hi
      constructor
      · rintro rfl
        exact (List.getElem?_inj (List.getElem?_eq_some_iff.mp hi).1 hnodup).mp
          (hi.trans hposition.symm)
      · rintro rfl
        exact Option.some.inj (hposition.symm.trans hi)
    refine ⟨position, contents[position], hposition, List.getElem?_eq_getElem hbound, ?_, ?_, ?_⟩
    · intro i button hbutton
      change (names.map (shownButton (some selected)))[i]? = some button at hbutton
      rw [List.getElem?_map, Option.map_eq_some_iff] at hbutton
      obtain ⟨name, hi, rfl⟩ := hbutton
      rw [has_active_shown_button, decide_eq_true_iff]
      exact hunique i name hi
    · intro i panel hpanel
      change (List.zipWith (shownPanel (some selected)) names contents)[i]? = some panel at hpanel
      rw [List.getElem?_zipWith_eq_some] at hpanel
      obtain ⟨name, content, hi, _, rfl⟩ := hpanel
      rw [is_hidden_shown_panel, decide_eq_false_iff_not, not_not]
      exact hunique i name hi
    · have hbuttons : (names.map (shownButton (some selected))).flatMap Node.visibleTexts =
          names := by
        simp only [List.flatMap_map, visible_texts_shown_button, List.flatMap_singleton']
      unfold Node.visibleText picture
      rw [visible_texts_assembled, hbuttons,
        visible_texts_panels hnodup hposition (List.getElem?_eq_getElem hbound), String.join_append]

end Tabs

/-! ## Tabs on a page -/

/-- A frame with as many children as it has room for is drawn around all of them. -/
theorem Frame.nodes_subset_draw {frame : Frame} {contents : List Node}
    (hfull : ∀ arity, frame.arity? = some arity → contents.length = arity) (media : Media)
    {content : Node} (hcontent : content ∈ contents) :
    content.nodes ⊆ (frame.draw media contents).nodes := by
  cases frame with
  | void | text | banner | image | video | audio =>
      rw [List.eq_nil_of_length_eq_zero (hfull 0 rfl)] at hcontent
      cases hcontent
  | container title => exact Node.nodes_subset_of_child (List.mem_cons_of_mem _ hcontent)
  | layout columns rows => exact Node.nodes_subset_of_child hcontent
  | custom typeName kind text => exact Node.nodes_subset_of_child hcontent
  | tabs side names =>
      have hlength : names.length = contents.length := (hfull names.length rfl).symm
      cases names with
      | nil =>
          rw [List.eq_nil_of_length_eq_zero hlength.symm] at hcontent
          cases hcontent
      | cons name names =>
          -- The content stands in a panel, the panel in the area, and the area in the tabs.
          have hpanel : [content] ∈ (List.zipWith (Tabs.shownPanel (some name)) (name :: names)
              contents).map Node.children := by
            rw [Tabs.children_panels hlength]
            exact List.mem_map_of_mem hcontent
          obtain ⟨panel, hpanel, hchildren⟩ := List.mem_map.mp hpanel
          have hpanels : panel.nodes ⊆ (Tabs.assembled side _ _).nodes :=
            Tabs.nodes_subset_assembled side ((name :: names).map (Tabs.shownButton (some name)))
              hpanel
          rw [Tabs.draw_eq_picture]
          refine List.Subset.trans (Node.nodes_subset_of_child ?_) hpanels
          rw [hchildren]
          exact List.mem_singleton_self content

/-- All widgets of a list are drawn. -/
theorem Widget.length_draw_all (media : Media) (widgets : List Widget) :
    (Widget.drawAll media widgets).length = widgets.length := by
  induction widgets with
  | nil => rfl
  | cons widget rest ih => rw [Widget.drawAll, List.length_cons, List.length_cons, ih]

mutual

/-- The parts of a widget are drawn as nodes of its tree. -/
theorem Widget.draw_mem_nodes (media : Media) : (widget : Widget) →
    (∀ part ∈ widget.parts, part.IsFull) →
    ∀ part ∈ widget.parts, part.draw media ∈ (widget.draw media).nodes
  | .node frame children, hfull, part, hpart => by
      rw [Widget.parts] at hfull hpart
      rw [List.forall_mem_cons] at hfull
      rcases List.mem_cons.mp hpart with rfl | hbelow
      · exact Node.self_mem_nodes _
      · obtain ⟨child, hchild, hnode⟩ :=
          Widget.draw_all_mem_nodes media children hfull.2 part hbelow
        rw [Widget.draw]
        refine Frame.nodes_subset_draw (fun arity harity => ?_) media hchild hnode
        rw [Widget.length_draw_all]
        exact hfull.1 arity harity

/-- The parts of some widgets are drawn as nodes of their trees. -/
theorem Widget.draw_all_mem_nodes (media : Media) : (widgets : List Widget) →
    (∀ part ∈ Widget.partsOf widgets, part.IsFull) → ∀ part ∈ Widget.partsOf widgets,
      ∃ tree ∈ Widget.drawAll media widgets, part.draw media ∈ tree.nodes
  | [], _, part, hpart => by
      rw [Widget.partsOf] at hpart
      cases hpart
  | widget :: rest, hfull, part, hpart => by
      rw [Widget.partsOf] at hfull hpart
      rw [List.forall_mem_append] at hfull
      rw [Widget.drawAll]
      rcases List.mem_append.mp hpart with hfirst | hrest
      · exact ⟨_, List.mem_cons_self .., Widget.draw_mem_nodes media widget hfull.1 part hfirst⟩
      · obtain ⟨tree, htree, hnode⟩ := Widget.draw_all_mem_nodes media rest hfull.2 part hrest
        exact ⟨tree, List.mem_cons_of_mem _ htree, hnode⟩

end

/-- Take any tabs on a rendered page, at the top or nested, and any history of selections among
them. Their names are those that a record declares, and no two are equal. At every time exactly one
tab is to be seen: the last that was found, and before that the first. A name is found exactly if it
is declared, and the others change nothing. The node is as if only the last selection had been made,
and its text is the same as ever. -/
theorem selections_show_one_tab (registry : Registry) (document : Document) (id : Identifier)
    (transport : Transport) (support : MediaSupport) (s s' : Session) (widget : Widget)
    (page : Node) (hresolve : registry.resolve document id = .ok widget)
    (hrender : s.render transport support widget = (s', some (.ok page)))
    (side : Side) (names : List String) (children : List Widget)
    (hpart : .node (.tabs side names) children ∈ widget.parts) (calls : List String) :
    let contents := Widget.drawAll s'.media children
    let initial := (Widget.node (.tabs side names) children).draw s'.media
    let current := (Tabs.selectEach initial calls).1
    let selected := (Tabs.selectEach initial calls).2.getLast?.getD (names.headD "")
    initial ∈ page.nodes ∧ document.DeclaresTabs side names ∧ names ≠ [] ∧ names.Nodup ∧
      Tabs.Shows names contents selected current ∧
      (∀ name, (Tabs.select? current name).isSome = true ↔ name ∈ names) ∧
      (∀ name, name ∉ names → Tabs.select current name = current) ∧
      current = Tabs.select initial selected ∧
      current.textContent = initial.textContent := by
  intro contents initial current selected
  have hparts := Registry.parts_of_resolve hresolve
  have hdeclares : document.DeclaresTabs side names := (hparts _ hpart).2 side names rfl
  have hlength : names.length = contents.length := by
    rw [Widget.length_draw_all]
    exact ((hparts _ hpart).1 names.length rfl).symm
  have hpage : initial ∈ page.nodes := by
    rw [Session.draw_of_render hrender]
    exact Widget.draw_mem_nodes s'.media widget (fun part h => (hparts part h).1) _ hpart
  have hdistinct : names ≠ [] ∧ names.Nodup := by
    obtain ⟨_, _, _, _, hread⟩ := hdeclares
    exact (Factory.tabs_of_read? hread).2
  obtain ⟨first, rest, rfl⟩ := List.exists_cons_of_ne_nil hdistinct.1
  have hinitial : initial = Tabs.picture side (first :: rest) contents (some first) :=
    Tabs.draw_eq_picture s'.media side first rest contents
  have hhistory := Tabs.select_each_picture side (first :: rest) contents first calls
  rw [← hinitial] at hhistory
  have hselected : selected ∈ first :: rest := by
    simp only [selected, hhistory, List.headD_cons]
    exact Tabs.last_found_mem (List.mem_cons_self ..) calls
  have hcurrent : current = Tabs.picture side (first :: rest) contents (some selected) := by
    simp only [current, selected, hhistory, List.headD_cons]
  -- From here on only pictures matter, and the name that is selected in them.
  refine ⟨hpage, hdeclares, hdistinct.1, hdistinct.2, ?_, fun name => ?_, fun name hname => ?_,
    ?_, ?_⟩
  · rw [hcurrent]
    exact Tabs.shows_picture hdistinct.2 hlength hselected
  · rw [hcurrent, Tabs.select?_picture]
    split <;> simp [*]
  · rw [hcurrent, Tabs.select, Tabs.select?_picture, if_neg hname, Option.getD_none]
  · rw [hcurrent, hinitial, Tabs.select_picture hselected]
  · rw [hcurrent, hinitial]
    exact Tabs.text_content_picture side (first :: rest) contents _ _

/-- Tabs in a container, with a number for a name and with tabs below. -/
def folderDocument : Document where
  records := .list [
    ⟨0, [("object", .integer 1), ("title", .string "t")]⟩,
    ⟨1, [("items", .array [
      .object [("name", .string "first"), ("object", .integer 2)],
      .object [("name", .integer 2), ("object", .integer 3)],
      .object [("name", .string "third"), ("object", .null)]])]⟩,
    ⟨2, [("text", .string "x")]⟩,
    ⟨1, [("items", .array [.object [("name", .string "third"), ("object", .integer 2)]])]⟩]
  types := ["container", "tabs", "text"]
  root := .index 0

/-- What the tabs of `folderDocument` hold. -/
def folderContents : List Widget :=
  [.node (.text ⟨"x", .left, none, none⟩) [],
    .node (.tabs .top ["third"]) [.node (.text ⟨"x", .left, none, none⟩) []],
    .void]

/-- The widget of `folderDocument`. -/
def folderWidget : Widget :=
  .node (.container "t") [.node (.tabs .top ["first", "2", "third"]) folderContents]

/-- The second tab of `folderDocument` is shown with the tabs in it, after it was selected twice and
names were tried that no tab has. -/
theorem selections_show_one_tab_folder :
    (Registry.core 4).resolve folderDocument (.index 0) = .ok folderWidget ∧
    .node (.tabs .top ["first", "2", "third"]) folderContents ∈ folderWidget.parts ∧
    ∃ s page, Session.empty.render (fun _ => .never) (fun _ _ => .probably) folderWidget =
        (s, some (.ok page)) ∧
      let initial := (Widget.node (.tabs .top ["first", "2", "third"]) folderContents).draw s.media
      let current := (Tabs.selectEach initial ["2", "first", "02", "2", "fourth"]).1
      initial ∈ page.nodes ∧
      Tabs.Shows ["first", "2", "third"] (Widget.drawAll s.media folderContents) "2" current ∧
      current = Tabs.select initial "2" ∧ current.textContent = initial.textContent := by
  have hresolve : (Registry.core 4).resolve folderDocument (.index 0) = .ok folderWidget := rfl
  have hpart : .node (.tabs .top ["first", "2", "third"]) folderContents ∈ folderWidget.parts := by
    simp [folderWidget, Widget.parts, Widget.partsOf]
  obtain ⟨s, page, hrender⟩ : ∃ s page, Session.empty.render (fun _ => .never)
      (fun _ _ => .probably) folderWidget = (s, some (.ok page)) := ⟨_, _, rfl⟩
  obtain ⟨hpage, _, _, _, hshows, _, _, hlast, htext⟩ :=
    selections_show_one_tab (Registry.core 4) folderDocument (.index 0) _ _ Session.empty s
      folderWidget page hresolve hrender .top ["first", "2", "third"] folderContents hpart
      ["2", "first", "02", "2", "fourth"]
  exact ⟨hresolve, hpart, s, page, hrender, hpage, hshows, hlast, htext⟩

end Widgetry
