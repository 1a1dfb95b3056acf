import Widgetry.Proofs.Html.Reading
import Widgetry.Proofs.Pages.Escaping
import Widgetry.Proofs.Text

/-!
# The head of a page read back

A browser reads titles, styles and scripts as raw text: all up to the first end tag of the element
is its content. `readHead` reads a page by that rule as far as the end of its head. The main
theorem, `read_head_html`, says that it finds the title, the stylesheet, the tab script and the
modules of the page, and nothing else, whatever the texts are.
-/

namespace Widgetry.Page

/-- A raw text element: what stands in its start tag, and its content. -/
structure RawElement where
  start : String
  content : String
  deriving Repr, DecidableEq

/-- The name of an element, given what stands in its start tag. -/
def tagName (start : List Char) : List Char :=
  start.takeWhile (· ≠ ' ')

/-- The names of the elements whose content is raw text. -/
def rawNames : List (List Char) :=
  ["title".toList, "style".toList, "script".toList]

/-- The end of a head. -/
def headEnd : List Char := "</head>".toList

/-- Read one tag. If it starts a raw text element, that is read to its end. -/
def readTag? (cs : List Char) : Option (Option RawElement × List Char) := do
  let (start, inner) ← Text.cutFirst? '>' cs
  if tagName start ∈ rawNames then
    let (content, after) ← cutEndTag? (tagName start) inner
    let after ← Text.after? ['>'] after
    some (some ⟨String.ofList start, String.ofList content⟩, after)
  else some (none, inner)

/-- Read a line break or a tag. -/
def readPiece? : List Char → Option (Option RawElement × List Char)
  | '\n' :: rest => some (none, rest)
  | '<' :: rest => readTag? rest
  | _ => none

/-- What is left after an end tag is shorter. -/
theorem length_of_cut_end_tag? {tag cs content after : List Char}
    (h : cutEndTag? tag cs = some (content, after)) : after.length < cs.length := by
  induction cs generalizing content with
  | nil => cases h
  | cons c cs ih =>
      rw [cutEndTag?] at h
      split at h
      next =>
        obtain ⟨_, rfl⟩ := Prod.mk.inj (Option.some.inj h)
        simp only [List.length_drop, List.length_cons]
        omega
      next =>
        obtain ⟨⟨inner, rest⟩, hcut, heq⟩ := Option.map_eq_some_iff.mp h
        obtain ⟨_, rfl⟩ := Prod.mk.inj heq
        exact Nat.lt_succ_of_lt (ih hcut)

/-- What is left after a tag is shorter. -/
theorem length_of_read_tag? {cs rest : List Char} {element : Option RawElement}
    (h : readTag? cs = some (element, rest)) : rest.length < cs.length := by
  unfold readTag? at h
  obtain ⟨⟨start, inner⟩, hstart, hread⟩ := Option.bind_eq_some_iff.mp h
  obtain ⟨rfl, _⟩ := Text.cut_first?_eq_some_iff.mp hstart
  dsimp only at hread
  split at hread
  next =>
    obtain ⟨⟨content, after⟩, hcontent, hread⟩ := Option.bind_eq_some_iff.mp hread
    obtain ⟨left, hleft, hread⟩ := Option.bind_eq_some_iff.mp hread
    obtain ⟨_, rfl⟩ := Prod.mk.inj (Option.some.inj hread)
    have hafter : after = ['>'] ++ left := Text.after?_eq_some_iff.mp hleft
    have hlength := length_of_cut_end_tag? hcontent
    rw [hafter] at hlength
    simp only [List.length_append, List.length_cons] at hlength ⊢
    omega
  next =>
    obtain ⟨_, rfl⟩ := Prod.mk.inj (Option.some.inj hread)
    simp only [List.length_append, List.length_cons]
    omega

/-- What is left after a piece is shorter. -/
theorem length_of_read_piece? {cs rest : List Char} {element : Option RawElement}
    (h : readPiece? cs = some (element, rest)) : rest.length < cs.length := by
  unfold readPiece? at h
  split at h
  next =>
    obtain ⟨_, rfl⟩ := Prod.mk.inj (Option.some.inj h)
    simp
  next => exact Nat.lt_succ_of_lt (length_of_read_tag? h)
  next => cases h

/-- The raw text elements before the end of a head, and the rest from there. -/
def readHeadChars (cs : List Char) : Option (List RawElement × List Char) :=
  if headEnd.isPrefixOf cs then some ([], cs)
  else
    match _ : readPiece? cs with
    | none => none
    | some (element, after) =>
        (readHeadChars after).map fun (elements, rest) => (element.toList ++ elements, rest)
termination_by cs.length
decreasing_by exact length_of_read_piece? ‹_›

/-- Read a page to the end of its head: the raw text elements up to there, and the rest. -/
def readHead (html : String) : Option (List RawElement × String) :=
  (readHeadChars html.toList).map fun (elements, rest) => (elements, String.ofList rest)

/-- Reading goes on after a piece. -/
theorem read_head_chars_of_read_piece? {cs rest : List Char} {element : Option RawElement}
    (hend : headEnd.isPrefixOf cs = false) (hpiece : readPiece? cs = some (element, rest)) :
    readHeadChars cs =
      (readHeadChars rest).map fun (elements, rest) => (element.toList ++ elements, rest) := by
  rw [readHeadChars, hend, if_neg Bool.false_ne_true]
  split
  next hnone => simp [hpiece] at hnone
  next found after hsome =>
    rw [hpiece] at hsome
    obtain ⟨rfl, rfl⟩ := Prod.mk.inj (Option.some.inj hsome)
    rfl

/-! ## Reading one line -/

variable {start content rest : List Char}

/-- The names of raw text elements are in small letters. -/
theorem raw_names_are_small {tag : List Char} (htag : tag ∈ rawNames) :
    '<' ∉ tag ∧ tag.map Char.toLower = tag := by
  revert tag
  decide

/-- A raw text element is read with all its content. -/
theorem read_tag?_of_raw (hstart : '>' ∉ start) (hraw : tagName start ∈ rawNames)
    (hcontent : IsFreeOf (tagName start) content) :
    readTag? (start ++ '>' :: (content ++ '<' :: '/' :: (tagName start ++ '>' :: rest))) =
      some (some ⟨String.ofList start, String.ofList content⟩, rest) := by
  obtain ⟨hbracket, hlower⟩ := raw_names_are_small hraw
  rw [readTag?, Text.cut_first?_eq_some_iff.mpr ⟨rfl, hstart⟩, Option.bind_eq_bind,
    Option.bind_some]
  dsimp only
  rw [if_pos hraw, cut_end_tag?_of_is_free_of hbracket hlower hcontent]
  rfl

/-- Of any other element the start tag is read. -/
theorem read_tag?_of_other (hstart : '>' ∉ start) (hraw : tagName start ∉ rawNames) :
    readTag? (start ++ '>' :: rest) = some (none, rest) := by
  rw [readTag?, Text.cut_first?_eq_some_iff.mpr ⟨rfl, hstart⟩, Option.bind_eq_bind,
    Option.bind_some]
  exact if_neg hraw

/-- A line that begins with a start tag is read, and so is what follows it. -/
theorem read_head_chars_line {element : Option RawElement} {cs : List Char}
    (hslash : start.head? ≠ some '/')
    (htag : readTag? (start ++ '>' :: cs) = some (element, '\n' :: rest)) :
    readHeadChars ('<' :: (start ++ '>' :: cs)) =
      (readHeadChars rest).map fun (elements, rest) => (element.toList ++ elements, rest) := by
  have hend : headEnd.isPrefixOf ('<' :: (start ++ '>' :: cs)) = false := by
    cases start with
    | nil => rfl
    | cons c start =>
        have hc : c ≠ '/' := fun hc => hslash (congrArg some hc)
        show ('<' == '<' && ('/' == c && _)) = false
        simp [Ne.symm hc]
  have hbreak : readHeadChars ('\n' :: rest) = readHeadChars rest := by
    rw [read_head_chars_of_read_piece? rfl rfl]
    simp
  rw [read_head_chars_of_read_piece? hend htag, hbreak]

/-- A line with another tag is passed over. -/
theorem read_head_chars_other (hstart : '>' ∉ start) (hslash : start.head? ≠ some '/')
    (hraw : tagName start ∉ rawNames) :
    readHeadChars ('<' :: (start ++ '>' :: '\n' :: rest)) = readHeadChars rest := by
  rw [read_head_chars_line hslash (read_tag?_of_other hstart hraw)]
  simp

/-- The element as a page prints it, on a line of its own. -/
def RawElement.line (element : RawElement) : String :=
  "<" ++ element.start ++ ">" ++ element.content ++
    ("</" ++ String.ofList (tagName element.start.toList) ++ ">\n")

/-- The line of an element, given its name. -/
theorem RawElement.line_eq (start name content : String)
    (hname : tagName start.toList = name.toList) :
    RawElement.line ⟨start, content⟩ =
      "<" ++ start ++ ">" ++ content ++ ("</" ++ name ++ ">\n") := by
  rw [RawElement.line, hname, String.ofList_toList]

/-- Nothing in the element ends it early. -/
structure RawElement.IsClosed (element : RawElement) : Prop where
  start : '>' ∉ element.start.toList
  raw : tagName element.start.toList ∈ rawNames
  content : IsFreeOf (tagName element.start.toList) element.content.toList

/-- An element is closed if its content has no end tag of its name. -/
theorem RawElement.is_closed (start name : String) {content : String}
    (hname : tagName start.toList = name.toList) (hstart : '>' ∉ start.toList)
    (hraw : name.toList ∈ rawNames) (hcontent : IsFreeOf name.toList content.toList) :
    RawElement.IsClosed ⟨start, content⟩ := by
  rw [← hname] at hraw hcontent
  exact ⟨hstart, hraw, hcontent⟩

/-- A raw text element that is not ended early is read whole. -/
theorem read_head_chars_element {element : RawElement} (h : element.IsClosed) :
    readHeadChars (element.line.toList ++ rest) =
      (readHeadChars rest).map fun (elements, rest) => (element :: elements, rest) := by
  have hline : element.line.toList ++ rest =
      '<' :: (element.start.toList ++ '>' :: (element.content.toList ++
        '<' :: '/' :: (tagName element.start.toList ++ '>' :: '\n' :: rest))) := by
    simp [RawElement.line]
  -- The line is not taken for the end of the head, since a raw name does not begin with a slash.
  have hslash : element.start.toList.head? ≠ some '/' := by
    intro hhead
    obtain ⟨tail, htail⟩ := List.head?_eq_some_iff.mp hhead
    have hraw := h.raw
    simp [htail, tagName, rawNames] at hraw
  rw [hline, read_head_chars_line hslash (read_tag?_of_raw h.start h.raw h.content),
    String.ofList_toList, String.ofList_toList]
  rfl

/-- Raw text elements up to the end of the head are read one by one. -/
theorem read_head_chars_elements {elements : List RawElement}
    (h : ∀ element ∈ elements, element.IsClosed) :
    readHeadChars ((String.join (elements.map RawElement.line)).toList ++ (headEnd ++ rest)) =
      some (elements, headEnd ++ rest) := by
  induction elements with
  | nil =>
      have hend : headEnd.isPrefixOf (headEnd ++ rest) = true := by simp
      show readHeadChars (headEnd ++ rest) = _
      rw [readHeadChars, if_pos hend]
  | cons element elements ih =>
      rw [List.forall_mem_cons] at h
      rw [List.map_cons, String.join_cons, String.toList_append, List.append_assoc,
        read_head_chars_element h.1, ih h.2]
      rfl

/-! ## The head of a page -/

/-- A text with a backslash in every end tag of the given name. -/
def withBackslashes (tag text : String) : String :=
  String.ofList (backslashed (beginsEndTag tag.toList) text.toList)

/-- The raw text elements of a page whose modules have the given sources. The script for tabs is
among them if the body has a node of the class `tabs`. -/
def headElements (page : Page) (sources : List String) : List RawElement :=
  [⟨"title", Html.escapeText page.title⟩] ++
    (page.stylesheet.toList.map fun stylesheet =>
      ⟨"style", withBackslashes "style" stylesheet.text⟩) ++
    (if ∃ node ∈ page.body.nodes, node.className = some "tabs" then [⟨"script", Tabs.script⟩]
      else []) ++
    sources.map fun source => ⟨"script type=\"module\"", withBackslashes "" source⟩

/-- A style is printed as a raw text element. -/
theorem style_element_eq (stylesheet : Stylesheet) :
    styleElement stylesheet =
      RawElement.line ⟨"style", withBackslashes "style" stylesheet.text⟩ := by
  have hname : "style".toList.map Char.toLower = "style".toList := by decide
  rw [styleElement, escape_end_tag?_eq, hname, RawElement.line_eq _ "style" _ (by decide)]
  rfl

/-- The script for tabs is printed as a raw text element. -/
theorem tab_element_eq : tabElement = RawElement.line ⟨"script", Tabs.script⟩ := by
  rw [RawElement.line_eq _ "script" _ (by decide)]
  rfl

/-- A module with a source is printed as a raw text element. -/
theorem module_element_eq {m : Module} {source : String} (hsource : m.source = .ok source) :
    moduleElement m =
      RawElement.line ⟨"script type=\"module\"", withBackslashes "" source⟩ := by
  rw [moduleElement, hsource]
  dsimp only
  rw [escape_end_tags_eq, RawElement.line_eq _ "script" _ (by decide)]
  rfl

/-- The modules of a page are printed as raw text elements. -/
theorem map_module_element_eq {modules : List Module} {sources : List String}
    (hsources : modules.map Module.source = sources.map .ok) :
    modules.map moduleElement =
      (sources.map fun source =>
        RawElement.mk "script type=\"module\"" (withBackslashes "" source)).map
          RawElement.line := by
  induction modules generalizing sources with
  | nil =>
      rw [List.map_nil, eq_comm, List.map_eq_nil_iff] at hsources
      rw [hsources]
      rfl
  | cons m modules ih =>
      cases sources with
      | nil => cases hsources
      | cons source sources =>
          obtain ⟨hsource, hrest⟩ := List.cons.inj hsources
          simp only [List.map_cons, module_element_eq hsource, ih hrest]

/-- A page has tabs if its body has a node of their class. -/
theorem has_tabs_iff (page : Page) :
    page.hasTabs = true ↔ ∃ node ∈ page.body.nodes, node.className = some "tabs" := by
  simp [hasTabs, Node.ofClass]

/-- What stands in a page before its title. -/
def headStart : String := "<!DOCTYPE html>\n<html>\n<head>\n<meta charset=\"utf-8\">\n"

/-- What stands in a page from the end of its head on. -/
def afterHead (page : Page) (cache : Cache) : String :=
  "</head>\n<body>" ++ page.body.htmlWith cache.inline ++ "</body>\n</html>\n"

/-- The stylesheet of a page is printed as a raw text element if there is one. -/
theorem stylesheet_eq (stylesheet : Option Stylesheet) :
    stylesheet.elim "" styleElement =
      String.join ((stylesheet.toList.map fun stylesheet =>
        RawElement.mk "style" (withBackslashes "style" stylesheet.text)).map RawElement.line) := by
  cases stylesheet with
  | none => rfl
  | some stylesheet => simp [style_element_eq]

/-- The script for tabs is printed if there are tabs. -/
theorem tabs_eq (page : Page) :
    (if page.hasTabs then tabElement else "") =
      String.join ((if ∃ node ∈ page.body.nodes, node.className = some "tabs"
        then [RawElement.mk "script" Tabs.script] else []).map RawElement.line) := by
  simp only [← has_tabs_iff]
  cases page.hasTabs with
  | false => rfl
  | true => simp [tab_element_eq]

/-- A page is printed as its title, its stylesheet, the script for tabs and its modules, between a
fixed beginning and the body. -/
theorem html_eq_parts (page : Page) (cache : Cache) :
    page.html cache =
      headStart ++ ("<title>" ++ (Html.escapeText page.title ++ ("</title>\n" ++
        (page.stylesheet.elim "" styleElement ++ ((if page.hasTabs then tabElement else "") ++
          (String.join (page.modules.map moduleElement) ++ page.afterHead cache)))))) := by
  have hhead : page.head = "<head>\n<meta charset=\"utf-8\">\n<title>" ++
      Html.escapeText page.title ++ "</title>\n" ++ page.stylesheet.elim "" styleElement ++
        (if page.hasTabs then tabElement else "") ++
          String.join (page.modules.map moduleElement) ++ "</head>\n" := by
    unfold head
    cases page.stylesheet <;> rfl
  have hstart (rest : String) : "<!DOCTYPE html>\n<html>\n" ++
      ("<head>\n<meta charset=\"utf-8\">\n<title>" ++ rest) =
        headStart ++ ("<title>" ++ rest) :=
    calc
      _ = "<!DOCTYPE html>\n<html>\n" ++ "<head>\n<meta charset=\"utf-8\">\n<title>" ++ rest :=
        String.append_assoc.symm
      _ = headStart ++ "<title>" ++ rest := rfl
      _ = _ := String.append_assoc
  have hend (rest : String) : "</head>\n" ++ ("<body>" ++ rest) = "</head>\n<body>" ++ rest :=
    String.append_assoc.symm
  unfold html afterHead
  simp only [hhead, String.append_assoc, hstart, hend]

/-- A page is printed as its raw text elements, line by line, between a fixed beginning and the
body. -/
theorem html_eq {page : Page} {sources : List String}
    (hsources : page.modules.map Module.source = sources.map .ok) (cache : Cache) :
    page.html cache =
      headStart ++ (String.join ((page.headElements sources).map RawElement.line) ++
        page.afterHead cache) := by
  -- The page and the line of its title cut the same text at different places.
  have hstart (rest : String) : "<title>" ++ rest = "<" ++ ("title" ++ (">" ++ rest)) :=
    calc
      _ = "<" ++ "title" ++ ">" ++ rest := rfl
      _ = _ := by simp only [String.append_assoc]
  have hend (rest : String) : "</title>\n" ++ rest = "</" ++ ("title" ++ (">\n" ++ rest)) :=
    calc
      _ = "</" ++ "title" ++ ">\n" ++ rest := rfl
      _ = _ := by simp only [String.append_assoc]
  unfold headElements
  simp only [html_eq_parts, stylesheet_eq, tabs_eq, map_module_element_eq hsources,
    List.map_append, String.join_append, List.map_cons, List.map_nil, String.join_cons,
    String.join_nil, RawElement.line_eq "title" "title" _ (by decide), String.append_assoc, hstart,
    hend, String.empty_append]

/-- The lines before the title are passed over. -/
theorem read_head_chars_head_start (rest : List Char) :
    readHeadChars (headStart.toList ++ rest) = readHeadChars rest := by
  have hlines : headStart.toList ++ rest =
      '<' :: ("!DOCTYPE html".toList ++ '>' :: '\n' ::
        '<' :: ("html".toList ++ '>' :: '\n' ::
          '<' :: ("head".toList ++ '>' :: '\n' ::
            '<' :: ("meta charset=\"utf-8\"".toList ++ '>' :: '\n' :: rest)))) := by
    simp [headStart]
  rw [hlines, read_head_chars_other (by decide) (by decide) (by decide),
    read_head_chars_other (by decide) (by decide) (by decide),
    read_head_chars_other (by decide) (by decide) (by decide),
    read_head_chars_other (by decide) (by decide) (by decide)]

/-- A literal text has the characters that stand in it. -/
theorem not_mem_of_eq_of_list {text : String} {c : Char} {cs : List Char}
    (htext : text = String.ofList cs) (hcs : c ∉ cs) : c ∉ text.toList := by
  rw [htext, String.toList_ofList]
  exact hcs

/-- The script for tabs has no angle bracket that could open a tag. -/
theorem not_mem_script : '<' ∉ Tabs.script.toList := by
  unfold Tabs.script
  -- Line by line: a literal is by definition the text of its characters.
  simp only [String.toList_append, List.mem_append, not_or]
  and_intros <;> exact not_mem_of_eq_of_list rfl (by decide)

/-- A text with backslashes in the end tags of a name has none of them left. -/
theorem is_free_of_with_backslashes (tag text : String) (htag : '<' ∉ tag.toList) :
    IsFreeOf tag.toList (withBackslashes tag text).toList := by
  rw [withBackslashes, String.toList_ofList]
  exact is_free_of_backslashed htag

/-- None of the texts in the head of a page ends its element early. -/
theorem is_closed_of_mem_head_elements {page : Page} {sources : List String} {element : RawElement}
    (helement : element ∈ page.headElements sources) : element.IsClosed := by
  simp only [headElements, List.mem_append, List.mem_singleton, List.mem_map,
    Option.mem_toList] at helement
  rcases helement with ((rfl | ⟨stylesheet, _, rfl⟩) | hscript) | ⟨source, _, rfl⟩
  · have hcontent : '<' ∉ (Html.escapeText page.title).toList :=
      fun hmem => Html.ne_of_mem_escape_text hmem rfl
    exact RawElement.is_closed "title" "title" (by decide) (by decide) (by decide)
      (is_free_of_of_not_mem hcontent)
  · exact RawElement.is_closed "style" "style" (by decide) (by decide) (by decide)
      (is_free_of_with_backslashes "style" stylesheet.text (by decide))
  · split at hscript
    next =>
      rw [List.mem_singleton.mp hscript]
      exact RawElement.is_closed "script" "script" (by decide) (by decide) (by decide)
        (is_free_of_of_not_mem not_mem_script)
    next => cases hscript
  · exact RawElement.is_closed _ "script" (by decide) (by decide) (by decide)
      (is_free_of_with_backslashes "" source (by decide)).of_nil

/-- Texts written into the head of a page do not end their elements early. If every module has a
source, then reading the page by the rule of raw text finds in this order the escaped title, the
stylesheet if there is one with a backslash in each of its end tags of styles, the script for tabs
if the body has tabs, and the sources of the modules with a backslash in every end tag. Reading
ends at the end tag of the head, with the body behind it. -/
theorem read_head_html (page : Page) (cache : Cache) (sources : List String)
    (hsources : page.modules.map Module.source = sources.map .ok) :
    readHead (page.html cache) = some (page.headElements sources, page.afterHead cache) := by
  have hend : (page.afterHead cache).toList = headEnd ++
      ('\n' :: ("<body>" ++ page.body.htmlWith cache.inline ++ "</body>\n</html>\n").toList) := by
    unfold afterHead
    simp only [String.toList_append]
    rfl
  rw [readHead, html_eq hsources, String.toList_append, String.toList_append, hend,
    read_head_chars_head_start, read_head_chars_elements fun _ => is_closed_of_mem_head_elements,
    ← hend]
  show some (_, String.ofList (page.afterHead cache).toList) = _
  rw [String.ofList_toList]

/-- A page whose texts all try to end their elements. The module is `</SCRIPT>`. -/
def hostilePage : Page where
  title := "</title>"
  stylesheet := some ⟨"main.css", "</sty</STYLE></s"⟩
  modules := [⟨"main.js", ⟨"main.js", 0, "text/javascript",
    [60, 47, 83, 67, 82, 73, 80, 84, 62]⟩⟩]
  body := (Node.ofKind .block).withChildren [Node.tagged .block "tabs"]

/-- Every text of such a page stays in its element. -/
theorem read_head_html_hostile :
    hostilePage.modules.map Module.source = ["</SCRIPT>"].map .ok ∧
      readHead (hostilePage.html .empty) =
        some ([⟨"title", "&lt;/title&gt;"⟩, ⟨"style", "</sty<\\/STYLE></s"⟩,
            ⟨"script", Tabs.script⟩, ⟨"script type=\"module\"", "<\\/SCRIPT>"⟩],
          hostilePage.afterHead .empty) := by
  have hsources : hostilePage.modules.map Module.source = ["</SCRIPT>"].map .ok := rfl
  exact ⟨hsources, read_head_html hostilePage .empty ["</SCRIPT>"] hsources⟩

end Widgetry.Page
