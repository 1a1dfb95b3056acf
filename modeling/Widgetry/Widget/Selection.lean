import Widgetry.Html.Node

/-!
# Tab selection

The node of a tabs widget has two children: a bar of buttons and an area of panels, each with the
name of its tab. Exactly the button of the selected tab is active, and exactly its panel is shown.
-/

namespace Widgetry.Tabs

/-- The attribute that holds the name of a tab. -/
def nameAttribute : String := "data-tab"

/-- The button or panel belongs to the named tab. -/
def isNamed (name : String) (node : Node) : Bool :=
  node.attribute? nameAttribute = some name

/-- The button of a tab. -/
def button (name : String) : Node :=
  ((Node.ofKind .button).withText name).withAttribute nameAttribute name

/-- The panel of a tab. -/
def panel (name : String) (content : Node) : Node :=
  ((Node.ofKind .block).withAttribute nameAttribute name).withChildren [content]

/-- Mark a button as active if it belongs to the selected tab. -/
def markButton (name : String) (button : Node) : Node :=
  if isNamed name button then button.withAttribute "active" ""
  else button.withoutAttribute "active"

/-- Hide a panel unless it belongs to the selected tab. -/
def markPanel (name : String) (panel : Node) : Node :=
  if isNamed name panel then panel.withoutAttribute "hidden"
  else panel.withAttribute "hidden" ""

/-- Select a tab of the node of a tabs widget, if there is one of that name. -/
def select? (tabs : Node) (name : String) : Option Node :=
  match tabs.children with
  | [bar, panels] =>
      if bar.children.any (isNamed name) then
        let bar := { bar with children := bar.children.map (markButton name) }
        let panels := { panels with children := panels.children.map (markPanel name) }
        some { tabs with children := [bar, panels] }
      else none
  | _ => none

/-- Select a tab (`select_tab`). Nothing changes if there is none of that name. -/
def select (tabs : Node) (name : String) : Node :=
  (select? tabs name).getD tabs

/-- The name of the active tab (`active_tab`). -/
def active? (tabs : Node) : Option String :=
  match tabs.children with
  | bar :: _ =>
      match bar.children.find? fun button => button.hasAttribute "active" with
      | some button => button.attribute? nameAttribute
      | none => none
  | [] => none

/-- The page script that selects the tab of a clicked button. -/
def script : String :=
  "document.addEventListener(\"click\", (event) => \x7b\n" ++
  "  const button = event.target.closest(\".tabs > .tab-bar > button[data-tab]\");\n" ++
  "  if (!button) return;\n" ++
  "  const tabs = button.parentElement.parentElement;\n" ++
  "  const name = button.dataset.tab;\n" ++
  "  for (const other of tabs.querySelectorAll(\":scope > .tab-bar > button[data-tab]\")) \x7b\n" ++
  "    other.toggleAttribute(\"active\", other.dataset.tab === name);\n" ++
  "  \x7d\n" ++
  "  for (const panel of tabs.querySelectorAll(\":scope > .tab-panels > div[data-tab]\")) \x7b\n" ++
  "    panel.hidden = panel.dataset.tab !== name;\n" ++
  "  \x7d\n" ++
  "\x7d);"

end Widgetry.Tabs
