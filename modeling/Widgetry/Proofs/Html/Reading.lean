import Widgetry.Html.Printer

/-!
# Reading HTML

A reader takes HTML character by character. It knows start tags with bare and double-quoted
attributes, elements without content, a text before the first child, end tags and the character
references for `&`, `<`, `>` and `"`. `decode` reads a single element. What follows the definitions
says what one character does to a reader, and what a run of characters does that it only collects.
-/

namespace Widgetry

/-- The kind of elements with a given tag. -/
def Kind.ofTag? (tag : String) : Option Kind :=
  match tag with
  | "div" => some .block
  | "span" => some .inline
  | "h2" => some .heading
  | "p" => some .paragraph
  | "img" => some .image
  | "audio" => some .audio
  | "video" => some .video
  | "source" => some .source
  | "fieldset" => some .fieldset
  | "legend" => some .legend
  | "button" => some .button
  | "dialog" => some .dialog
  | _ => none

namespace Html

/-- A character that separates the parts of a tag. -/
def isSpace (c : Char) : Bool :=
  [' ', '\t', '\n', '\x0c', '\r'].contains c

/-- A character that may stand in the name of a tag or an attribute. -/
def isNameChar (c : Char) : Bool :=
  !isSpace c && !(['"', '=', '<', '>', '/'].contains c)

/-- Replace character references from left to right. What is not one stays. -/
def unescape : List Char → List Char
  | '&' :: 'a' :: 'm' :: 'p' :: ';' :: rest => '&' :: unescape rest
  | '&' :: 'l' :: 't' :: ';' :: rest => '<' :: unescape rest
  | '&' :: 'g' :: 't' :: ';' :: rest => '>' :: unescape rest
  | '&' :: 'q' :: 'u' :: 'o' :: 't' :: ';' :: rest => '"' :: unescape rest
  | c :: rest => c :: unescape rest
  | [] => []

/-- An element that was read. Its style is the value of one attribute. -/
structure Element where
  kind : Kind
  className : Option String
  attributes : List (String × String)
  style : String
  text : String
  children : List Element

/-- A start tag: its name, and all its attributes in order. -/
structure Tag where
  name : String
  attributes : List (String × String)

/-- The tag with one more attribute. -/
def Tag.add (tag : Tag) (name value : List Char) : Tag :=
  { tag with attributes := tag.attributes ++ [(String.ofList name, String.ofList value)] }

/-- What was read so far inside an element: its text, not yet unescaped, and its children. -/
structure Contents where
  text : List Char
  children : List Element

/-- Nothing was read yet. -/
def Contents.empty : Contents := ⟨[], []⟩

/-- The contents with one more child. -/
def Contents.attach (contents : Contents) (element : Element) : Contents :=
  { contents with children := contents.children ++ [element] }

/-- The element with a start tag and contents. -/
def Element.ofTag (kind : Kind) (tag : Tag) (contents : Contents) : Element where
  kind := kind
  className := Table.get? "class" tag.attributes
  attributes := tag.attributes.filter fun entry => entry.1 ≠ "class" && entry.1 ≠ "style"
  style := (Table.get? "style" tag.attributes).getD ""
  text := String.ofList (unescape contents.text)
  children := contents.children

/-- What the reader is in the middle of. -/
inductive Mode where
  | content
  | tagName (seen : List Char)
  | endName (seen : List Char)
  | gap (tag : Tag)
  | label (tag : Tag) (seen : List Char)
  | equals (tag : Tag) (name : List Char)
  | value (tag : Tag) (name seen : List Char)
  | quoted (tag : Tag)

/-- The start tag, if it may end here. A bare name is an attribute without a value. -/
def Mode.tag? : Mode → Option Tag
  | .tagName seen => some ⟨String.ofList seen, []⟩
  | .gap tag => some tag
  | .label tag seen => some (tag.add seen [])
  | .quoted tag => some tag
  | _ => none

/-- Go on inside a start tag. -/
def Mode.next (c : Char) : Mode → Option Mode
  | .tagName seen =>
      if c = '/' ∧ seen = [] then some (.endName [])
      else if isNameChar c then some (.tagName (seen ++ [c])) else none
  | .gap tag => if isNameChar c then some (.label tag [c]) else none
  | .label tag seen =>
      if c = '=' then some (.equals tag seen)
      else if isNameChar c then some (.label tag (seen ++ [c])) else none
  | .equals tag name => if c = '"' then some (.value tag name []) else none
  | .value tag name seen =>
      if c = '"' then some (.quoted (tag.add name (unescape seen)))
      else some (.value tag name (seen ++ [c]))
  | _ => none

/-- An open element, and what was read before it beside it. -/
structure Opened where
  kind : Kind
  tag : Tag
  beside : Contents

/-- A reader: what it is in the middle of, the contents of the innermost open element, and the open
elements from the innermost outwards. -/
structure Reader where
  mode : Mode
  contents : Contents
  opened : List Opened

namespace Reader

/-- Nothing was read yet. -/
def start : Reader := ⟨.content, .empty, []⟩

/-- Add a complete element. -/
def attach (r : Reader) (element : Element) : Reader :=
  { r with mode := .content, contents := r.contents.attach element }

/-- At the end of a start tag. -/
def enter (r : Reader) (tag : Tag) : Option Reader :=
  match Kind.ofTag? tag.name with
  | none => none
  | some kind =>
      if kind.isVoid then some (r.attach (.ofTag kind tag .empty))
      else some ⟨.content, .empty, ⟨kind, tag, r.contents⟩ :: r.opened⟩

/-- At the end of an end tag. It has to be that of the innermost open element. -/
def leave (r : Reader) (name : String) : Option Reader :=
  match r.opened with
  | [] => none
  | ⟨kind, tag, beside⟩ :: opened =>
      if tag.name = name then
        some (attach ⟨.content, beside, opened⟩ (.ofTag kind tag r.contents))
      else none

/-- Read a character. -/
def step (r : Reader) (c : Char) : Option Reader :=
  match r.mode with
  | .content =>
      if c = '<' then some { r with mode := .tagName [] }
      else if r.contents.children.isEmpty then
        some { r with contents := ⟨r.contents.text ++ [c], []⟩ }
      else none
  | .endName seen =>
      if c = '>' then r.leave (String.ofList seen)
      else some { r with mode := .endName (seen ++ [c]) }
  | mode =>
      let goOn := (mode.next c).map fun mode => { r with mode := mode }
      match mode.tag? with
      | none => goOn
      | some tag =>
          if c = '>' then r.enter tag
          else if isSpace c then some { r with mode := .gap tag }
          else goOn

/-- Read characters in order. -/
def run (r : Reader) (cs : List Char) : Option Reader :=
  cs.foldlM step r

/-- The element that was read, if it is all that was read. -/
def result? : Reader → Option Element
  | ⟨.content, ⟨[], [element]⟩, []⟩ => some element
  | _ => none

end Reader

/-- Read an element. -/
def decode (html : String) : Option Element :=
  (Reader.start.run html.toList).bind Reader.result?

/-! ## Character references -/

variable {c : Char} {cs : List Char}

/-- A character that begins no reference stands for itself. -/
theorem unescape_cons (hc : c ≠ '&') (rest : List Char) :
    unescape (c :: rest) = c :: unescape rest := by
  rw [unescape]
  all_goals exact fun _ hamp _ => hc hamp

/-- An escaped character of a text is read back. -/
theorem unescape_escape_text_char (c : Char) (rest : List Char) :
    unescape (escapeTextChar c ++ rest) = c :: unescape rest := by
  unfold escapeTextChar
  split
  next h => rw [h]; rfl
  next hamp =>
    split
    next h => rw [h]; rfl
    next =>
      split
      next h => rw [h]; rfl
      next => exact unescape_cons hamp rest

/-- An escaped character of a value is read back. -/
theorem unescape_escape_value_char (c : Char) (rest : List Char) :
    unescape (escapeValueChar c ++ rest) = c :: unescape rest := by
  unfold escapeValueChar
  split
  next h => rw [h]; rfl
  next => exact unescape_escape_text_char c rest

/-- What was escaped so that single characters are read back is read back. -/
theorem unescape_flat_map {escape : Char → List Char}
    (h : ∀ c rest, unescape (escape c ++ rest) = c :: unescape rest) (cs : List Char) :
    unescape (cs.flatMap escape) = cs := by
  induction cs with
  | nil => rfl
  | cons c cs ih => rw [List.flatMap_cons, h, ih]

/-- An escaped text is read back. -/
theorem unescape_escape_text (text : String) : unescape (escapeText text).toList = text.toList := by
  rw [escapeText, String.toList_ofList]
  exact unescape_flat_map unescape_escape_text_char text.toList

/-- An escaped value is read back. -/
theorem unescape_escape_value (value : String) :
    unescape (escapeValue value).toList = value.toList := by
  rw [escapeValue, String.toList_ofList]
  exact unescape_flat_map unescape_escape_value_char value.toList

/-- An escaped text opens no tag. -/
theorem ne_of_mem_escape_text {text : String} (hc : c ∈ (escapeText text).toList) : c ≠ '<' := by
  rw [escapeText, String.toList_ofList, List.mem_flatMap] at hc
  obtain ⟨original, _, hc⟩ := hc
  intro h
  subst h
  unfold escapeTextChar at hc
  split at hc
  next => exact absurd hc (by decide)
  next =>
    split at hc
    next => exact absurd hc (by decide)
    next hlt =>
      split at hc
      next => exact absurd hc (by decide)
      next => exact hlt (List.mem_singleton.mp hc).symm

/-- An escaped value ends no quotes. -/
theorem ne_of_mem_escape_value {value : String} (hc : c ∈ (escapeValue value).toList) :
    c ≠ '"' := by
  rw [escapeValue, String.toList_ofList, List.mem_flatMap] at hc
  obtain ⟨original, _, hc⟩ := hc
  intro h
  subst h
  unfold escapeValueChar escapeTextChar at hc
  split at hc
  next => exact absurd hc (by decide)
  next hquote =>
    repeat' split at hc
    all_goals first
      | exact absurd hc (by decide)
      | exact hquote (List.mem_singleton.mp hc).symm

namespace Reader

variable {r r' : Reader} {tag : Tag}

/-! ## Single characters -/

/-- Reading goes on where it has got to. -/
theorem run_append (h : r.run cs = some r') (rest : List Char) :
    r.run (cs ++ rest) = r'.run rest := by
  unfold run at h ⊢
  rw [List.foldlM_append, h]
  rfl

/-- Reading goes on after a character. -/
theorem run_cons (h : r.step c = some r') (rest : List Char) : r.run (c :: rest) = r'.run rest := by
  unfold run
  rw [List.foldlM_cons, h]
  rfl

/-- Reading a single character. -/
theorem run_singleton (r : Reader) (c : Char) : r.run [c] = r.step c := by
  unfold run
  rw [List.foldlM_cons]
  exact bind_pure _

/-- A start tag ends where it may. -/
theorem step_end (h : r.mode.tag? = some tag) : r.step '>' = r.enter tag := by
  obtain ⟨mode, contents, opened⟩ := r
  cases mode <;> cases h <;> rfl

/-- A gap is where a start tag may end. -/
theorem step_space (h : r.mode.tag? = some tag) :
    r.step ' ' = some { r with mode := .gap tag } := by
  obtain ⟨mode, contents, opened⟩ := r
  cases mode <;> cases h <;> rfl

/-- Names have no spaces, and no characters that mean something else. -/
theorem name_char_spec (hc : isNameChar c) :
    isSpace c = false ∧ c ≠ '"' ∧ c ≠ '=' ∧ c ≠ '<' ∧ c ≠ '>' ∧ c ≠ '/' := by
  simpa [isNameChar] using hc

/-! ## Characters that are collected -/

/-- If every character is collected, all of them are. -/
theorem run_collect (f : List Char → Reader)
    (h : ∀ seen, ∀ c ∈ cs, (f seen).step c = some (f (seen ++ [c]))) (seen : List Char) :
    (f seen).run cs = some (f (seen ++ cs)) := by
  induction cs generalizing seen with
  | nil => rw [List.append_nil]; rfl
  | cons c cs ih =>
      rw [run_cons (h seen c List.mem_cons_self),
        ih (fun seen c hc => h seen c (List.mem_cons_of_mem _ hc)), List.append_assoc]
      rfl

/-- A text is collected where there is nothing yet. -/
theorem run_text {opened : List Opened} (hcs : ∀ c ∈ cs, c ≠ '<') :
    run ⟨.content, .empty, opened⟩ cs = some ⟨.content, ⟨cs, []⟩, opened⟩ := by
  refine run_collect (fun seen => ⟨.content, ⟨seen, []⟩, opened⟩) ?_ []
  intro seen c hc
  simp [step, hcs c hc]

/-- The name of a start tag is collected. -/
theorem run_tag_name {contents : Contents} {opened : List Opened} {seen : List Char}
    (hcs : ∀ c ∈ cs, isNameChar c) :
    run ⟨.tagName seen, contents, opened⟩ cs =
      some ⟨.tagName (seen ++ cs), contents, opened⟩ := by
  refine run_collect (fun seen => ⟨.tagName seen, contents, opened⟩) ?_ seen
  intro seen c hc
  obtain ⟨hspace, _, _, _, hgt, hslash⟩ := name_char_spec (hcs c hc)
  simp [step, Mode.tag?, Mode.next, hgt, hspace, hslash, hcs c hc]

/-- The name of an end tag is collected. -/
theorem run_end_name {contents : Contents} {opened : List Opened} {seen : List Char}
    (hcs : ∀ c ∈ cs, isNameChar c) :
    run ⟨.endName seen, contents, opened⟩ cs =
      some ⟨.endName (seen ++ cs), contents, opened⟩ := by
  refine run_collect (fun seen => ⟨.endName seen, contents, opened⟩) ?_ seen
  intro seen c hc
  obtain ⟨_, _, _, _, hgt, _⟩ := name_char_spec (hcs c hc)
  simp [step, hgt]

/-- The name of an attribute is collected. -/
theorem run_label {contents : Contents} {opened : List Opened} {seen : List Char}
    (hcs : ∀ c ∈ cs, isNameChar c) :
    run ⟨.label tag seen, contents, opened⟩ cs =
      some ⟨.label tag (seen ++ cs), contents, opened⟩ := by
  refine run_collect (fun seen => ⟨.label tag seen, contents, opened⟩) ?_ seen
  intro seen c hc
  obtain ⟨hspace, _, hequals, _, hgt, _⟩ := name_char_spec (hcs c hc)
  simp [step, Mode.tag?, Mode.next, hgt, hspace, hequals, hcs c hc]

/-- A quoted value is collected. -/
theorem run_value {contents : Contents} {opened : List Opened} {name seen : List Char}
    (hcs : ∀ c ∈ cs, c ≠ '"') :
    run ⟨.value tag name seen, contents, opened⟩ cs =
      some ⟨.value tag name (seen ++ cs), contents, opened⟩ := by
  refine run_collect (fun seen => ⟨.value tag name seen, contents, opened⟩) ?_ seen
  intro seen c hc
  simp [step, Mode.tag?, Mode.next, hcs c hc]

end Reader

end Html

end Widgetry
