import Widgetry.Html.Node

/-!
# Printing nodes as HTML

A start tag carries the class, the attributes in order and the joined style declarations. An
attribute with an empty value is printed as its bare name. Texts and values are escaped, so that
none of them can end its element or its quotes. `htmlWith` may replace the values of attributes
that locate resources.
-/

namespace Widgetry

namespace Html

/-- A character between tags. -/
def escapeTextChar (c : Char) : List Char :=
  if c = '&' then "&amp;".toList
  else if c = '<' then "&lt;".toList
  else if c = '>' then "&gt;".toList
  else [c]

/-- A character between double quotes. -/
def escapeValueChar (c : Char) : List Char :=
  if c = '"' then "&quot;".toList else escapeTextChar c

/-- Escape a text for its place between tags (`escape_text`). -/
def escapeText (s : String) : String :=
  String.ofList (s.toList.flatMap escapeTextChar)

/-- Escape a value for its place between double quotes (`escape_attribute`). -/
def escapeValue (s : String) : String :=
  String.ofList (s.toList.flatMap escapeValueChar)

/-- Attributes whose values locate resources. -/
def locators : List String := ["src", "href", "poster"]

/-- A quoted attribute. -/
def quotedAttribute (name value : String) : String :=
  " " ++ name ++ "=\"" ++ escapeValue value ++ "\""

/-- An attribute of a start tag. -/
def attributeText (relocate : String → Option String) (name value : String) : String :=
  if value.isEmpty then " " ++ name
  else
    let value := if name ∈ locators then (relocate value).getD value else value
    quotedAttribute name value

/-- The joined style declarations. -/
def styleText (styles : List (String × String)) : String :=
  String.intercalate ";" (styles.map fun (property, value) => property ++ ":" ++ value)

end Html

namespace Node

open Html

/-- The start tag of a node with the given parts. -/
def startTag (relocate : String → Option String) (kind : Kind) (className : Option String)
    (attributes styles : List (String × String)) : String :=
  "<" ++ kind.tag ++
    (match className with
      | some name => quotedAttribute "class" name
      | none => "") ++
    String.join (attributes.map fun (name, value) => attributeText relocate name value) ++
    (if styles.isEmpty then "" else quotedAttribute "style" (styleText styles)) ++ ">"

mutual

/-- Print a node, letting `relocate` replace the locations of resources (`to_html_with`). -/
def htmlWith (relocate : String → Option String) : Node → String
  | ⟨kind, className, attributes, styles, text, children⟩ =>
      let start := startTag relocate kind className attributes styles
      if kind.isVoid then start
      else
        start ++ escapeText (text.getD "") ++ htmlWithAll relocate children ++
          "</" ++ kind.tag ++ ">"

/-- Print a list of nodes. -/
def htmlWithAll (relocate : String → Option String) : List Node → String
  | [] => ""
  | node :: rest => htmlWith relocate node ++ htmlWithAll relocate rest

end

/-- Print a node (`to_html`). -/
def html (node : Node) : String :=
  node.htmlWith fun _ => none

end Node

end Widgetry
