import Widgetry.Html.Printer
import Widgetry.Module.Loader
import Widgetry.Text.Basic
import Widgetry.Text.Slice
import Widgetry.Widget.Selection

/-!
# Pages

A page has a title, a stylesheet, modules and a body, and is printed as one HTML document that
refers to nothing outside: the stylesheet and the modules are written into the head, and handles in
the body become data URIs. A failure has one page of its own.
-/

namespace Widgetry

/-- A stylesheet. -/
structure Stylesheet where
  url : String
  text : String
  deriving Repr, DecidableEq, Inhabited

/-- Read a loaded resource as a stylesheet (`load_stylesheet`). -/
def Stylesheet.ofLoaded (url : String) : Loaded → Except ResourceError Stylesheet
  | .error e => .error e
  | .ok resource =>
      match resource.text with
      | .ok text => .ok ⟨url, text⟩
      | .error fault => .error (.fetch url ("stylesheet is not valid UTF-8: " ++ fault.message))

/-- A page. -/
structure Page where
  title : String
  stylesheet : Option Stylesheet
  modules : List Module
  body : Node
  deriving Inhabited

namespace Page

/-- The title of a page about something of the given name (`page_title`). -/
def titleOf (name : String) : String :=
  Text.trim name ++ " | SSS"

/-- The title of the page of a failure. -/
def errorTitle : String := "Error | SSS"

/-- The page of a failure (`Page::error`). -/
def ofError (e : Error) : Page :=
  let body := (Node.tagged .block "error").withChildren
    [(Node.ofKind .heading).withText "SSS", (Node.ofKind .paragraph).withText e.message]
  ⟨errorTitle, none, [], body⟩

/-- The page tells of a failure (`Page::is_error`). -/
def isError (page : Page) : Bool :=
  page.title = errorTitle && page.body.className = some "error"

/-- The bytes begin with the name of a tag, in small or capital letters. -/
def startsWithName (tag bytes : Text.Bytes) : Bool :=
  (Text.Utf8.sliceTo? bytes tag.length).any (Text.Utf8.equalFolded · tag)

/-- Put a backslash into every end tag of the given name (the loop of `escape_end_tag`). The bytes
are cut at each angle bracket with a slash and behind it, which fails inside a character. -/
def escapeBytes? (tag rest : Text.Bytes) : Option Text.Bytes :=
  match Text.Utf8.find? (Text.Utf8.encode "</") rest with
  | none => some rest
  | some place =>
      match _ : Text.Utf8.sliceFrom? rest (place + 2) with
      | none => none
      | some after => do
          let front ← Text.Utf8.sliceTo? rest place
          let opener := if startsWithName tag after then "<\\/" else "</"
          let more ← escapeBytes? tag after
          some (front ++ Text.Utf8.encode opener ++ more)
termination_by rest.length
decreasing_by
  have := Text.Utf8.length_slice_from? ‹_›
  omega

/-- Put a backslash into every end tag of the given name, so that the text cannot end the element
around it (`escape_end_tag`). -/
def escapeEndTag? (tag source : String) : Option String := do
  let bytes ← escapeBytes? (Text.Utf8.encode tag) (Text.Utf8.encode source)
  (Text.Utf8.decode bytes).toOption

/-- Put a backslash into every end tag. -/
def escapeEndTags : List Char → List Char
  | '<' :: '/' :: rest => '<' :: '\\' :: '/' :: escapeEndTags rest
  | c :: rest => c :: escapeEndTags rest
  | [] => []

/-- The style element of a stylesheet, whose text can always be escaped. -/
def styleElement (stylesheet : Stylesheet) : String :=
  "<style>" ++ (escapeEndTag? "style" stylesheet.text).getD "" ++ "</style>\n"

/-- The script element of a module: its source, or a data URI if it has no source text. -/
def moduleElement (m : Module) : String :=
  match m.source with
  | .ok source =>
      "<script type=\"module\">" ++ String.ofList (escapeEndTags source.toList) ++ "</script>\n"
  | .error _ => "<script type=\"module\" src=\"" ++ m.resource.dataUri ++ "\"></script>\n"

/-- The script element for tabs. -/
def tabElement : String :=
  "<script>" ++ Tabs.script ++ "</script>\n"

/-- The page has tabs. -/
def hasTabs (page : Page) : Bool :=
  !(page.body.ofClass "tabs").isEmpty

/-- Print the head of a page. -/
def head (page : Page) : String :=
  "<head>\n<meta charset=\"utf-8\">\n<title>" ++ Html.escapeText page.title ++ "</title>\n" ++
    (match page.stylesheet with
      | some stylesheet => styleElement stylesheet
      | none => "") ++
    (if page.hasTabs then tabElement else "") ++
    String.join (page.modules.map moduleElement) ++ "</head>\n"

/-- Print a page whose handles belong to a cache (`Page::to_html`). -/
def html (page : Page) (cache : Cache) : String :=
  "<!DOCTYPE html>\n<html>\n" ++ page.head ++ "<body>" ++ page.body.htmlWith cache.inline ++
    "</body>\n</html>\n"

end Page

end Widgetry
