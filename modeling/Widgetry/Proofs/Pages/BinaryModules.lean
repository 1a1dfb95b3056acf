import Widgetry.Proofs.Pages.Scripts
import Widgetry.Proofs.Resources.DataUris

/-!
# Modules without a source

A module whose bytes are no text is written as a script with a data URI for its source. Unlike the
values of attributes in the body, the data URI is not escaped. `Html.StartTag` reads start tags
as browsers do: with quotes of both sorts or none, with anything between attributes, and of
attributes of one name only the first. The main theorem, `binary_modules_are_attributes`, says what
is read of such a script. Its attributes are exactly its type and its source, unless the reported
content type has a double quote before its parameters. The source is the data URI, unless there is
an ampersand that begins a character reference.
-/

namespace Widgetry

namespace Html

/-- A way to decode the character references in the value of an attribute. Without an ampersand
there is nothing to decode, and no reference is shorter than what it stands for. Browsers know more
than two thousand names; what is proved here holds for all of them. -/
structure References where
  decode : List Char → List Char
  decode_of_plain : ∀ cs, '&' ∉ cs → decode cs = cs
  length_decode_le : ∀ cs, (decode cs).length ≤ cs.length

/-- The references for `&`, `<`, `>` and `"` alone. -/
def References.basic : References where
  decode := unescape
  decode_of_plain := by
    intro cs hcs
    induction cs with
    | nil => rfl
    | cons c cs ih =>
        rw [List.mem_cons, not_or] at hcs
        rw [unescape_cons (Ne.symm hcs.1), ih hcs.2]
  length_decode_le := by
    intro cs
    fun_induction unescape cs <;> simp only [List.length_cons, List.length_nil] <;> omega

deriving instance DecidableEq for Tag

/-- Add an attribute, unless there is one of that name. -/
def Tag.put (tag : Tag) (name value : List Char) : Tag :=
  if Table.contains (String.ofList name) tag.attributes then tag else tag.add name value

namespace StartTag

/-! ## Reading start tags -/

/-- What a browser is in the middle of while it reads a start tag: the name, the gap before an
attribute, the name of an attribute, the gap after it, the gap after its equals sign, or its value,
with or without quotes. -/
inductive State where
  | name (seen : List Char)
  | gap (tag : Tag)
  | label (tag : Tag) (seen : List Char)
  | labelled (tag : Tag) (name : List Char)
  | equals (tag : Tag) (name : List Char)
  | quoted (tag : Tag) (name : List Char) (quote : Char) (seen : List Char)
  | bare (tag : Tag) (name seen : List Char)
  | ended (tag : Tag)

/-- Go on where an attribute may begin. A slash means nothing there. -/
def gapNext (tag : Tag) (c : Char) : State :=
  if c = '>' then .ended tag
  else if isSpace c || c = '/' then .gap tag
  else .label tag [c.toLower]

/-- Read a character. -/
def step (references : References) : State → Char → State
  | .name seen, c =>
      if isSpace c || c = '/' || c = '>' then gapNext ⟨String.ofList seen, []⟩ c
      else .name (seen ++ [c.toLower])
  | .gap tag, c => gapNext tag c
  | .label tag seen, c =>
      if c = '=' then .equals tag seen
      else if isSpace c then .labelled tag seen
      else if c = '/' || c = '>' then gapNext (tag.put seen []) c
      else .label tag (seen ++ [c.toLower])
  | .labelled tag name, c =>
      if c = '=' then .equals tag name
      else if isSpace c then .labelled tag name
      else gapNext (tag.put name []) c
  | .equals tag name, c =>
      if isSpace c then .equals tag name
      else if c = '"' || c = '\'' then .quoted tag name c []
      else if c = '>' then .ended (tag.put name [])
      else .bare tag name [c]
  | .quoted tag name quote seen, c =>
      if c = quote then .gap (tag.put name (references.decode seen))
      else .quoted tag name quote (seen ++ [c])
  | .bare tag name seen, c =>
      if isSpace c || c = '>' then gapNext (tag.put name (references.decode seen)) c
      else .bare tag name (seen ++ [c])
  | .ended tag, _ => .ended tag

/-- The tag, if it has ended. -/
def State.ended? : State → Option Tag
  | .ended tag => some tag
  | _ => none

/-- The tag that is read, and what follows it. -/
def readFrom? (references : References) (s : State) : List Char → Option (Tag × List Char)
  | [] => none
  | c :: rest =>
      match (step references s c).ended? with
      | some tag => some (tag, rest)
      | none => readFrom? references (step references s c) rest

/-- Read the start tag after its bracket. -/
def read? (references : References) (text : String) : Option (Tag × String) :=
  (readFrom? references (.name []) text.toList).map (Prod.map id String.ofList)

/-- The attributes that are complete. -/
def State.attributes : State → List (String × String)
  | .name _ => []
  | .gap tag | .label tag _ | .labelled tag _ | .equals tag _ | .quoted tag _ _ _ | .bare tag _ _
  | .ended tag => tag.attributes

variable {references : References} {s : State} {c : Char} {cs rest : List Char} {tag : Tag}

/-- Adding an attribute keeps the others. -/
theorem prefix_put (tag : Tag) (name value : List Char) :
    tag.attributes <+: (tag.put name value).attributes := by
  unfold Tag.put
  split
  · exact List.prefix_refl _
  · exact List.prefix_append _ _

theorem attributes_gap_next (tag : Tag) (c : Char) :
    (gapNext tag c).attributes = tag.attributes := by
  unfold gapNext
  split
  · rfl
  · split <;> rfl

/-- Reading a character keeps the attributes that are complete. -/
theorem prefix_step (references : References) (s : State) (c : Char) :
    s.attributes <+: (step references s c).attributes := by
  cases s with
  | name seen => exact List.nil_prefix
  | gap tag =>
      show tag.attributes <+: (gapNext tag c).attributes
      rw [attributes_gap_next]
  | label tag seen =>
      rw [step]
      split
      · exact List.prefix_refl _
      split
      · exact List.prefix_refl _
      split
      · rw [attributes_gap_next]
        exact prefix_put tag seen []
      · exact List.prefix_refl _
  | labelled tag name =>
      rw [step]
      split
      · exact List.prefix_refl _
      split
      · exact List.prefix_refl _
      · rw [attributes_gap_next]
        exact prefix_put tag name []
  | equals tag name =>
      rw [step]
      split
      · exact List.prefix_refl _
      split
      · exact List.prefix_refl _
      split
      · exact prefix_put tag name []
      · exact List.prefix_refl _
  | quoted tag name quote seen =>
      rw [step]
      split
      · exact prefix_put tag name _
      · exact List.prefix_refl _
  | bare tag name seen =>
      rw [step]
      split
      · rw [attributes_gap_next]
        exact prefix_put tag name _
      · exact List.prefix_refl _
  | ended tag => exact List.prefix_refl _

/-- So a tag has all attributes that were complete at some time. -/
theorem prefix_read_from? (h : readFrom? references s cs = some (tag, rest)) :
    s.attributes <+: tag.attributes := by
  induction cs generalizing s with
  | nil => cases h
  | cons c cs ih =>
      rw [readFrom?] at h
      have hstep := prefix_step references s c
      split at h
      · rename_i found hended
        cases h
        generalize step references s c = next at hended hstep
        cases next <;> cases hended
        exact hstep
      · exact hstep.trans (ih h)

/-- A quoted value goes up to the next quote of its sort. -/
theorem read_from?_quoted {quote : Char} (hquote : quote ∉ cs) (name seen : List Char) :
    readFrom? references (.quoted tag name quote seen) (cs ++ quote :: rest) =
      readFrom? references (.gap (tag.put name (references.decode (seen ++ cs)))) rest := by
  induction cs generalizing seen with
  | nil =>
      rw [List.nil_append, List.append_nil, readFrom?, step, if_pos rfl]
      rfl
  | cons c cs ih =>
      rw [List.mem_cons, not_or] at hquote
      rw [List.cons_append, readFrom?, step, if_neg (Ne.symm hquote.1)]
      show readFrom? references (.quoted tag name quote (seen ++ [c])) (cs ++ quote :: rest) = _
      rw [ih hquote.2, List.append_assoc, List.singleton_append]

end StartTag

end Html

/-! ## Signs in content types -/

namespace ContentKind

/-- A data URI has a quote or an ampersand exactly if the reported type has it before its
parameters. -/
theorem sign_mem_data_uri_iff {sign : Char} (hsign : sign ∈ ['"', '&']) {resource : Resource}
    {url : String} {type : Option String} (hkind : resource.kind = detect url type) :
    sign ∈ resource.dataUri.toList ↔ hasSign sign type = true := by
  -- The signs stand nowhere else in a data URI.
  have hall : ∀ sign ∈ ['"', '&'], decide (sign ∉ "data:".toList ∧ sign ∉ ";base64,".toList ∧
      sign ∉ '=' :: Text.Base64.alphabet) = true := List.all_eq_true.mp (by decide)
  obtain ⟨hscheme, hheader, hbody⟩ := of_decide_eq_true (hall sign hsign)
  have hbody : sign ∉ (Text.Base64.encode resource.bytes).toList := fun hmem =>
    hbody (List.mem_cons.mpr (Text.Base64.mem_encode hmem))
  have hmem : sign ∈ resource.dataUri.toList ↔ sign ∈ (detect url type).toList := by
    rw [← hkind, Resource.dataUri]
    simp only [String.toList_append, List.mem_append, hscheme, hheader, hbody, false_or, or_false]
  rw [hmem, sign_mem_detect_iff (List.mem_cons_of_mem _ hsign)]

end ContentKind

namespace Page

open Html

/-- The start tag of a module without a source, after its bracket, and all that follows it. -/
def binaryTag (uri after : String) : String :=
  "script type=\"module\" src=\"" ++ uri ++ "\">" ++ after

/-- A start tag that was read of a module, with the attributes behind its type. -/
def scriptTag (attributes : List (String × String)) : Tag :=
  ⟨"script", ("type", "module") :: attributes⟩

/-- The element of a module without a source is a start tag and an end tag. -/
theorem module_element_binary {m : Module} {fault : Text.Utf8.Fault}
    (hbinary : Text.Utf8.decode m.resource.bytes = .error fault) :
    moduleElement m = "<" ++ binaryTag m.resource.dataUri "</script>\n" := by
  have hstart : "<script type=\"module\" src=\"" = "<" ++ "script type=\"module\" src=\"" := rfl
  have hend : "\"></script>\n" = "\">" ++ "</script>\n" := rfl
  rw [moduleElement, Module.source, Resource.text, hbinary]
  generalize m.resource.dataUri = uri
  unfold binaryTag
  rw [hstart, hend]
  simp only [String.append_assoc]

/-- What follows the element follows the start tag. -/
theorem binary_tag_append (uri after rest : String) :
    binaryTag uri after ++ rest = binaryTag uri (after ++ rest) :=
  String.append_assoc

variable {references : References} {uri after : String}

/-- The quote of the source is reached with the type read. -/
theorem read?_binary_tag (references : References) (uri after : String) :
    StartTag.read? references (binaryTag uri after) =
      (StartTag.readFrom? references (.quoted (scriptTag []) "src".toList '"' [])
        (uri.toList ++ ('"' :: '>' :: after.toList))).map (Prod.map id String.ofList) := by
  have hmodule : references.decode "module".toList = "module".toList :=
    references.decode_of_plain _ (by decide)
  have hchars : (binaryTag uri after).toList =
      "script type=\"module\" src=\"".toList ++ (uri.toList ++ ('"' :: '>' :: after.toList)) := by
    unfold binaryTag
    simp only [String.toList_append, List.append_assoc]
    rfl
  have hread (cs : List Char) :
      StartTag.readFrom? references (.name []) ("script type=\"module\" src=\"".toList ++ cs) =
        StartTag.readFrom? references (.quoted ⟨"script", [("type",
          String.ofList (references.decode "module".toList))]⟩ "src".toList '"' []) cs := rfl
  rw [StartTag.read?, hchars, hread, hmodule]
  rfl

/-- Without a quote in its source, a start tag has this source and ends with its bracket. -/
theorem read?_binary_tag_of_no_quote (hquote : '"' ∉ uri.toList) :
    StartTag.read? references (binaryTag uri after) =
      some (scriptTag [("src", String.ofList (references.decode uri.toList))], after) := by
  rw [read?_binary_tag, StartTag.read_from?_quoted hquote]
  show (some (scriptTag [("src", _)], after.toList)).map (Prod.map id String.ofList) = _
  rw [Option.map_some, Prod.map, String.ofList_toList]
  rfl

/-- With a quote in its source, a start tag has a shorter source. -/
theorem attributes_of_binary_tag_of_quote (hquote : '"' ∈ uri.toList) {tag : Tag} {rest : String}
    (hread : StartTag.read? references (binaryTag uri after) = some (tag, rest)) :
    ∃ value more, tag.attributes = (scriptTag (("src", value) :: more)).attributes ∧
      value.length < uri.length := by
  obtain ⟨before, behind, huri, hbefore⟩ := List.eq_append_cons_of_mem hquote
  rw [read?_binary_tag, huri, List.append_assoc, List.cons_append,
    StartTag.read_from?_quoted hbefore] at hread
  obtain ⟨⟨found, left⟩, hfound, heq⟩ := Option.map_eq_some_iff.mp hread
  obtain ⟨more, hmore⟩ := StartTag.prefix_read_from? hfound
  obtain ⟨rfl, -⟩ := Prod.mk.inj heq
  refine ⟨String.ofList (references.decode before), more, hmore.symm, ?_⟩
  have hshorter := references.length_decode_le before
  rw [String.length_ofList, ← String.length_toList, huri, List.length_append, List.length_cons]
  omega

/-- **Modules without a source are attributes, unless their type has a quote.** A module whose bytes
are no text stands in the page as a script with its data URI. Without a double quote in the reported
type before its parameters, a browser reads exactly two attributes, the type and the data URI with
its character references decoded, and goes on at the end tag. Without an ampersand there, the data
URI has no character references. With a double quote there, what is read as the source is shorter
than the data URI. -/
theorem binary_modules_are_attributes (references : References) (page : Page) (cache : Cache)
    (earlier later : List Module) (m : Module) (fault : Text.Utf8.Fault) (url : String)
    (type : Option String) (hmodules : page.modules = earlier ++ m :: later)
    (hbinary : Text.Utf8.decode m.resource.bytes = .error fault)
    (hkind : m.resource.kind = ContentKind.detect url type) :
    let uri := m.resource.dataUri
    let after := "</script>\n" ++ page.afterModule later cache
    page.html cache = page.beforeModule earlier ++ ("<" ++ binaryTag uri after) ∧
    (ContentKind.hasSign '"' type = false → StartTag.read? references (binaryTag uri after) =
      some (scriptTag [("src", String.ofList (references.decode uri.toList))], after)) ∧
    (ContentKind.hasSign '&' type = false → references.decode uri.toList = uri.toList) ∧
    (ContentKind.hasSign '"' type = true →
      ∀ tag rest, StartTag.read? references (binaryTag uri after) = some (tag, rest) →
        ∃ value more, tag.attributes = (scriptTag (("src", value) :: more)).attributes ∧
          value.length < uri.length) := by
  intro uri after
  have hquote : '"' ∈ uri.toList ↔ _ := ContentKind.sign_mem_data_uri_iff (by decide) hkind
  have hampersand : '&' ∈ uri.toList ↔ _ := ContentKind.sign_mem_data_uri_iff (by decide) hkind
  refine ⟨?_, ?_, ?_, ?_⟩
  · rw [html_of_module hmodules, module_element_binary hbinary, String.append_assoc,
      binary_tag_append]
  · intro hfree
    refine read?_binary_tag_of_no_quote fun hmem => ?_
    rw [hquote.mp hmem] at hfree
    cases hfree
  · intro hfree
    refine references.decode_of_plain _ fun hmem => ?_
    rw [hampersand.mp hmem] at hfree
    cases hfree
  · intro hsign tag rest hread
    exact attributes_of_binary_tag_of_quote (hquote.mpr hsign) hread

/-- A module of one byte that begins no character, with the content kind of a reported type. -/
def binaryModule (type : String) : Module :=
  ⟨"main.js", ⟨"main.js", 0, ContentKind.detect "main.js" (some type), [0xFF]⟩⟩

/-- A page with such a module. -/
def binaryPage (type : String) : Page where
  title := "t"
  stylesheet := none
  modules := [binaryModule type]
  body := Node.ofKind .block

/-- Quotes in the parameters of a type do no harm. -/
theorem binary_modules_are_attributes_quoted_parameter :
    let m := binaryModule "Text/JavaScript; charset=\"utf-8\""
    let page := binaryPage "Text/JavaScript; charset=\"utf-8\""
    let after := "</script>\n" ++ page.afterModule [] .empty
    page.modules = [] ++ m :: [] ∧
    Text.Utf8.decode m.resource.bytes = .error ⟨0, some 1⟩ ∧
    m.resource.dataUri = "data:text/javascript;base64,/w==" ∧
    StartTag.read? .basic (binaryTag m.resource.dataUri after) =
      some (scriptTag [("src", String.ofList (References.basic.decode m.resource.dataUri.toList))],
        after) ∧
    References.basic.decode m.resource.dataUri.toList = m.resource.dataUri.toList := by
  intro m page after
  have hread := binary_modules_are_attributes .basic page .empty [] [] m ⟨0, some 1⟩ "main.js"
    (some "Text/JavaScript; charset=\"utf-8\"") rfl (by decide) rfl
  exact ⟨rfl, by decide, by decide, hread.2.1 (by decide), hread.2.2.1 (by decide)⟩

/-- A quote in a reported type ends the source, and the rest of the type is an attribute. -/
theorem quoted_type_leaks :
    let m := binaryModule "text/javascript\" onload=\"alert(1)"
    let page := binaryPage "text/javascript\" onload=\"alert(1)"
    let after := "</script>\n" ++ page.afterModule [] .empty
    page.html .empty = page.beforeModule [] ++ ("<" ++ binaryTag m.resource.dataUri after) ∧
    StartTag.read? .basic (binaryTag m.resource.dataUri after) =
      some (scriptTag [("src", "data:text/javascript"), ("onload", "alert(1);base64,/w==")],
        after) := by
  constructor
  · decide +kernel
  · decide +kernel

end Page

end Widgetry
