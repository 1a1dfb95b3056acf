import Widgetry.Proofs.Html.Reading

/-!
# HTML is faithful to its tree

`Node.element` is what can be known of a node from its HTML: an empty text is no text, elements
without content have neither text nor children, and the style declarations are one joined text. The
main theorem `decode_html` says that a printed tree is read back as just that, whatever its texts
and values are. The proof follows the printer: `adds_attribute` reads an attribute, `run_start_tag`
a start tag, and `run_html` a tree.
-/

namespace Widgetry

namespace Html

/-- A text that can be printed as a name. Blank characters that do not separate attributes are
characters like others. -/
def IsName (name : String) : Prop :=
  name ≠ "" ∧ ∀ c ∈ name.toList, isNameChar c

instance (name : String) : Decidable (IsName name) :=
  have : Decidable (∀ c ∈ name.toList, isNameChar c) := List.decidableBAll _ _
  inferInstanceAs (Decidable (_ ∧ _))

/-- A name that is not taken by the class or the style. -/
def IsPlainName (name : String) : Prop :=
  IsName name ∧ name ≠ "class" ∧ name ≠ "style"

instance (name : String) : Decidable (IsPlainName name) :=
  inferInstanceAs (Decidable (_ ∧ _))

/-- What elements there are, and what attributes they have, in order. -/
inductive Outline where
  | mk (kind : Kind) (names : List String) (children : List Outline)

mutual

/-- The outline of an element. -/
def Element.outline : Element → Outline
  | ⟨kind, className, attributes, style, _, children⟩ =>
      .mk kind
        ((if className.isSome then ["class"] else []) ++ attributes.map Prod.fst ++
          if style = "" then [] else ["style"])
        (outlines children)

/-- The outlines of elements. -/
def Element.outlines : List Element → List Outline
  | [] => []
  | element :: rest => Element.outline element :: Element.outlines rest

end

end Html

open Html

namespace Node

/-- All attributes in the tree have plain names. -/
def HasPlainNames (node : Node) : Prop :=
  ∀ tree ∈ node.nodes, ∀ entry ∈ tree.attributes, IsPlainName entry.1

instance (node : Node) : Decidable node.HasPlainNames :=
  inferInstanceAs (Decidable (∀ tree ∈ node.nodes, _))

mutual

/-- What can be known of a node from its HTML. -/
def element : Node → Element
  | ⟨kind, className, attributes, styles, text, children⟩ =>
      ⟨kind, className, attributes, styleText styles,
        if kind.isVoid then "" else text.getD "",
        if kind.isVoid then [] else elements children⟩

/-- What can be known of nodes. -/
def elements : List Node → List Element
  | [] => []
  | node :: rest => element node :: elements rest

end

mutual

/-- The outline of a node. Its texts, its class and its values have no part in it. -/
def outline : Node → Outline
  | ⟨kind, className, attributes, styles, _, children⟩ =>
      .mk kind
        ((if className.isSome then ["class"] else []) ++ attributes.map Prod.fst ++
          if styles.isEmpty then [] else ["style"])
        (if kind.isVoid then [] else outlines children)

/-- The outlines of nodes. -/
def outlines : List Node → List Outline
  | [] => []
  | node :: rest => outline node :: outlines rest

end

/-- The attribute with the class. -/
def classEntries (className : Option String) : List (String × String) :=
  className.toList.map fun name => ("class", name)

/-- The attribute with the joined style declarations. -/
def styleEntries (styles : List (String × String)) : List (String × String) :=
  if styles.isEmpty then [] else [("style", styleText styles)]

/-- A start tag, with its class and its style as attributes among others. -/
def startTagOf (kind : Kind) (className : Option String)
    (attributes styles : List (String × String)) : Tag :=
  ⟨kind.tag, classEntries className ++ attributes ++ styleEntries styles⟩

/-- What is printed of attributes in a start tag. The class and the style are quoted in any case. -/
def attributesText (className : Option String) (attributes styles : List (String × String)) :
    String :=
  String.join ((classEntries className).map fun entry => quotedAttribute entry.1 entry.2) ++
    String.join (attributes.map fun entry => attributeText (fun _ => none) entry.1 entry.2) ++
    String.join ((styleEntries styles).map fun entry => quotedAttribute entry.1 entry.2)

/-- A start tag, attribute by attribute. -/
theorem to_list_start_tag (kind : Kind) (className : Option String)
    (attributes styles : List (String × String)) :
    (startTag (fun _ => none) kind className attributes styles).toList =
      '<' :: (kind.tag.toList ++
        ((attributesText className attributes styles).toList ++ ['>'])) := by
  have hstyle : (if styles.isEmpty then "" else quotedAttribute "style" (styleText styles)) =
      String.join ((styleEntries styles).map fun entry => quotedAttribute entry.1 entry.2) := by
    unfold styleEntries
    split <;> simp
  unfold startTag attributesText
  rw [hstyle]
  cases className <;> simp [classEntries]

end Node

/-! ## The parts of a start tag -/

namespace Html

/-- A tag with more attributes. -/
def Tag.extend (tag : Tag) (entries : List (String × String)) : Tag :=
  { tag with attributes := tag.attributes ++ entries }

theorem Tag.add_eq (tag : Tag) (name value : String) :
    tag.add name.toList value.toList = tag.extend [(name, value)] := by
  simp [Tag.add, Tag.extend]

theorem Tag.extend_extend (tag : Tag) (entries others : List (String × String)) :
    (tag.extend entries).extend others = tag.extend (entries ++ others) := by
  simp [Tag.extend]

namespace Reader

variable {r : Reader} {tag : Tag} {name value : String}
  {attributes styles : List (String × String)}

/-- The characters go on with a start tag, which may end after them with these attributes more. -/
def Adds (r : Reader) (tag : Tag) (cs : List Char) (entries : List (String × String)) : Prop :=
  ∃ mode, r.run cs = some { r with mode := mode } ∧ mode.tag? = some (tag.extend entries)

/-- Nothing adds nothing. -/
theorem adds_nil (h : r.mode.tag? = some tag) : r.Adds tag [] [] := by
  refine ⟨r.mode, rfl, ?_⟩
  rw [h]
  simp [Tag.extend]

/-- Attributes are added one after the other. -/
theorem Adds.append {cs more : List Char} {entries others : List (String × String)}
    (h : r.Adds tag cs entries)
    (hmore : ∀ r' : Reader, r'.mode.tag? = some (tag.extend entries) →
      r'.Adds (tag.extend entries) more others) :
    r.Adds tag (cs ++ more) (entries ++ others) := by
  obtain ⟨mode, hrun, htag⟩ := h
  obtain ⟨mode', hrun', htag'⟩ := hmore { r with mode := mode } htag
  refine ⟨mode', ?_, ?_⟩
  · rw [run_append hrun, hrun']
  · rw [htag', Tag.extend_extend]

/-- The name of an attribute after a space. -/
theorem run_name (h : r.mode.tag? = some tag) (hname : IsName name) :
    r.run (" " ++ name).toList = some { r with mode := .label tag name.toList } := by
  obtain ⟨hne, hchars⟩ := hname
  rw [String.toList_append]
  show r.run (' ' :: name.toList) = _
  rw [run_cons (step_space h)]
  cases hcs : name.toList with
  | nil => exact absurd (String.toList_eq_nil_iff.mp hcs) hne
  | cons c cs =>
      rw [hcs] at hchars
      have hc := hchars c List.mem_cons_self
      obtain ⟨hspace, _, _, _, hgt, _⟩ := name_char_spec hc
      have hstep : step { r with mode := .gap tag } c =
          some { r with mode := .label tag [c] } := by
        simp [step, Mode.tag?, Mode.next, hgt, hspace, hc]
      rw [run_cons hstep, run_label fun c' hc' => hchars c' (List.mem_cons_of_mem _ hc')]
      rfl

/-- A quoted attribute is added with its value. -/
theorem adds_quoted (h : r.mode.tag? = some tag) (hname : IsName name) (value : String) :
    r.Adds tag (quotedAttribute name value).toList [(name, value)] := by
  refine ⟨.quoted (tag.extend [(name, value)]), ?_, rfl⟩
  have hsplit : (quotedAttribute name value).toList =
      (" " ++ name).toList ++ '=' :: '"' :: ((escapeValue value).toList ++ ['"']) := by
    simp [quotedAttribute]
  rw [hsplit, run_append (run_name h hname), run_cons rfl, run_cons rfl,
    run_append (run_value fun c hc => ne_of_mem_escape_value hc), run_cons rfl, List.nil_append,
    unescape_escape_value, Tag.add_eq]
  rfl

/-- An attribute is added, be it bare or quoted. -/
theorem adds_attribute (h : r.mode.tag? = some tag) (hname : IsName name) (value : String) :
    r.Adds tag (attributeText (fun _ => none) name value).toList [(name, value)] := by
  unfold attributeText
  split
  next hempty =>
    obtain rfl : value = "" := String.isEmpty_iff.mp hempty
    exact ⟨.label tag name.toList, run_name h hname, congrArg some (Tag.add_eq tag name "")⟩
  next =>
    have hvalue : (if name ∈ locators then (none : Option String).getD value else value) = value :=
      ite_self value
    rw [hvalue]
    exact adds_quoted h hname value

/-- What is printed attribute by attribute is added attribute by attribute. -/
theorem adds_join {print : String → String → String}
    (hprint : ∀ {r : Reader} {tag : Tag} {name : String}, r.mode.tag? = some tag → IsName name →
      ∀ value, r.Adds tag (print name value).toList [(name, value)])
    (h : r.mode.tag? = some tag) (entries : List (String × String))
    (hnames : ∀ entry ∈ entries, IsName entry.1) :
    r.Adds tag (String.join (entries.map fun entry => print entry.1 entry.2)).toList entries := by
  induction entries generalizing r tag with
  | nil => exact adds_nil h
  | cons entry rest ih =>
      rw [List.map_cons, String.join_cons, String.toList_append]
      have hentry := hprint h (hnames entry List.mem_cons_self) entry.2
      exact hentry.append fun r' h' => ih h' fun other hother =>
        hnames other (List.mem_cons_of_mem _ hother)

/-- Whatever the values are, the attributes of a start tag are added in order. -/
theorem adds_attributes (h : r.mode.tag? = some tag) (className : Option String)
    (attributes styles : List (String × String)) (hnames : ∀ entry ∈ attributes, IsName entry.1) :
    r.Adds tag (Node.attributesText className attributes styles).toList
      (Node.classEntries className ++ attributes ++ Node.styleEntries styles) := by
  have hclass : ∀ entry ∈ Node.classEntries className, IsName entry.1 := by
    intro entry hentry
    obtain ⟨value, _, rfl⟩ := List.mem_map.mp hentry
    show IsName "class"
    decide
  have hstyle : ∀ entry ∈ Node.styleEntries styles, IsName entry.1 := by
    intro entry hentry
    unfold Node.styleEntries at hentry
    split at hentry
    next => cases hentry
    next =>
      obtain rfl := List.mem_singleton.mp hentry
      show IsName "style"
      decide
  rw [Node.attributesText, String.toList_append, String.toList_append]
  refine ((adds_join adds_quoted h _ hclass).append fun r' h' => ?_).append fun r' h' => ?_
  · exact adds_join adds_attribute h' attributes hnames
  · exact adds_join adds_quoted h' _ hstyle

/-- The characters of a tag may stand in a name. -/
theorem is_name_char_tag (kind : Kind) : ∀ c ∈ kind.tag.toList, isNameChar c := by
  cases kind <;> exact List.all_eq_true.mp (by decide)

/-- A start tag is read as its name and its attributes. -/
theorem run_start_tag (hmode : r.mode = .content) (kind : Kind) (className : Option String)
    (attributes styles : List (String × String)) (hnames : ∀ entry ∈ attributes, IsName entry.1) :
    r.run (Node.startTag (fun _ => none) kind className attributes styles).toList =
      r.enter (Node.startTagOf kind className attributes styles) := by
  obtain ⟨mode, contents, opened⟩ := r
  subst hmode
  have htag : Mode.tag? (.tagName kind.tag.toList) = some ⟨kind.tag, []⟩ := by
    simp [Mode.tag?]
  obtain ⟨mode, hrun, hmode⟩ := adds_attributes (r := ⟨.tagName kind.tag.toList, contents, opened⟩)
    htag className attributes styles hnames
  rw [Node.to_list_start_tag, run_cons rfl, run_append (run_tag_name (is_name_char_tag kind)),
    List.nil_append, run_append hrun, run_singleton, step_end hmode]
  simp [Tag.extend, Node.startTagOf, enter, attach]

/-- An end tag is read as its name. -/
theorem run_end_tag (hmode : r.mode = .content) (kind : Kind) :
    r.run ("</" ++ kind.tag ++ ">").toList = r.leave kind.tag := by
  obtain ⟨mode, contents, opened⟩ := r
  subst hmode
  have hsplit : ("</" ++ kind.tag ++ ">").toList = '<' :: '/' :: (kind.tag.toList ++ ['>']) := by
    simp
  rw [hsplit, run_cons rfl, run_cons rfl, run_append (run_end_name (is_name_char_tag kind)),
    run_singleton]
  simp [step, leave]

end Reader

end Html

namespace Node

variable {kind : Kind} {className : Option String} {attributes styles : List (String × String)}

/-! ## Elements from their tags -/

/-- The tag of a kind tells the kind. -/
theorem of_tag?_tag (kind : Kind) : Kind.ofTag? kind.tag = some kind := by
  cases kind <;> decide

/-- Names that do not occur have no value. -/
theorem get?_of_ne {key : String} (h : ∀ entry ∈ attributes, entry.1 ≠ key) :
    Table.get? key attributes = none := by
  induction attributes with
  | nil => rfl
  | cons entry rest ih =>
      rw [Table.get?, if_neg (h entry List.mem_cons_self).symm]
      exact ih fun other hother => h other (List.mem_cons_of_mem _ hother)

/-- A value is found in the first of two parts that has one. -/
theorem get?_append (key : String) (entries others : List (String × String)) :
    Table.get? key (entries ++ others) = (Table.get? key entries).or (Table.get? key others) := by
  induction entries with
  | nil => rfl
  | cons entry rest ih =>
      rw [List.cons_append, Table.get?, Table.get?]
      split
      · rfl
      · exact ih

/-- Class, style and other attributes are told apart by their names. -/
theorem of_tag_start_tag (hnames : ∀ entry ∈ attributes, IsPlainName entry.1)
    (contents : Contents) :
    Element.ofTag kind (startTagOf kind className attributes styles) contents =
      ⟨kind, className, attributes, styleText styles, String.ofList (unescape contents.text),
        contents.children⟩ := by
  have hclass : Table.get? "class" attributes = none :=
    get?_of_ne fun entry hentry => (hnames entry hentry).2.1
  have hstyle : Table.get? "style" attributes = none :=
    get?_of_ne fun entry hentry => (hnames entry hentry).2.2
  have hkept : attributes.filter (fun entry => entry.1 ≠ "class" && entry.1 ≠ "style") =
      attributes := by
    refine List.filter_eq_self.mpr fun entry hentry => ?_
    simp [(hnames entry hentry).2]
  unfold Element.ofTag startTagOf classEntries styleEntries
  simp only [get?_append, List.filter_append, hclass, hstyle, hkept]
  cases className <;> cases styles <;> simp [Table.get?, styleText]

/-- An element without content is complete after its start tag, any other is open. -/
theorem enter_start_tag (r : Reader) (kind : Kind) (className : Option String)
    (attributes styles : List (String × String)) :
    let tag := startTagOf kind className attributes styles
    r.enter tag =
      if kind.isVoid then some (r.attach (.ofTag kind tag .empty))
      else some ⟨.content, .empty, ⟨kind, tag, r.contents⟩ :: r.opened⟩ := by
  intro tag
  have htag : Kind.ofTag? tag.name = some kind := of_tag?_tag kind
  rw [Reader.enter, htag]

/-! ## Trees -/

/-- The names in a tree are those of its root and those below. -/
theorem has_plain_names_iff {text : Option String} {children : List Node} :
    HasPlainNames ⟨kind, className, attributes, styles, text, children⟩ ↔
      (∀ entry ∈ attributes, IsPlainName entry.1) ∧
        ∀ tree ∈ nodesOf children, ∀ entry ∈ tree.attributes, IsPlainName entry.1 := by
  unfold HasPlainNames
  rw [nodes, List.forall_mem_cons]

mutual

/-- A printed tree is read as one element. -/
theorem run_html : (node : Node) → node.HasPlainNames → (r : Reader) → r.mode = .content →
    r.run (node.htmlWith fun _ => none).toList = some (r.attach node.element)
  | ⟨kind, className, attributes, styles, text, children⟩, hnames, r, hmode => by
      obtain ⟨hattributes, hchildren⟩ := has_plain_names_iff.mp hnames
      have hstart := Reader.run_start_tag hmode kind className attributes styles
        fun entry hentry => (hattributes entry hentry).1
      rw [enter_start_tag] at hstart
      rw [htmlWith, element]
      cases hvoid : kind.isVoid with
      | true =>
          rw [hvoid, if_pos rfl, of_tag_start_tag hattributes] at hstart
          rw [if_pos rfl, if_pos rfl, if_pos rfl]
          exact hstart
      | false =>
          rw [hvoid] at hstart
          have hsplit : (startTag (fun _ => none) kind className attributes styles ++
              escapeText (text.getD "") ++ htmlWithAll (fun _ => none) children ++ "</" ++
                kind.tag ++ ">").toList =
              (startTag (fun _ => none) kind className attributes styles).toList ++
                ((escapeText (text.getD "")).toList ++
                  ((htmlWithAll (fun _ => none) children).toList ++
                    ("</" ++ kind.tag ++ ">").toList)) := by
            simp
          -- The text is read before there are children, and the children before the end tag.
          rw [if_neg Bool.false_ne_true, if_neg Bool.false_ne_true, if_neg Bool.false_ne_true,
            hsplit, Reader.run_append hstart,
            Reader.run_append (Reader.run_text fun c hc => ne_of_mem_escape_text hc),
            Reader.run_append (run_html_all children hchildren _ rfl), Reader.run_end_tag rfl]
          show (if kind.tag = kind.tag then some (Reader.attach _ _) else none) = _
          rw [if_pos rfl, of_tag_start_tag hattributes, unescape_escape_text, String.ofList_toList]
          rfl

/-- Printed trees are read as elements in order. -/
theorem run_html_all : (nodes : List Node) →
    (∀ tree ∈ nodesOf nodes, ∀ entry ∈ tree.attributes, IsPlainName entry.1) →
    (r : Reader) → r.mode = .content →
    r.run (htmlWithAll (fun _ => none) nodes).toList =
      some { r with contents := ⟨r.contents.text, r.contents.children ++ elements nodes⟩ }
  | [], _, r, _ => by
      rw [htmlWithAll, elements, List.append_nil]
      rfl
  | node :: rest, hnames, r, hmode => by
      rw [nodesOf, List.forall_mem_append] at hnames
      rw [htmlWithAll, elements, String.toList_append,
        Reader.run_append (run_html node hnames.1 r hmode), run_html_all rest hnames.2 _ rfl]
      simp [Reader.attach, Contents.attach, hmode]

end

/-! ## What can be told apart -/

/-- Style declarations are printed as nothing only if there are none. -/
theorem style_text_eq_empty_iff : styleText styles = "" ↔ styles = [] := by
  cases styles with
  | nil => simp [styleText]
  | cons entry rest =>
      have hcolon : ':' ∈ (styleText (entry :: rest)).toList := by
        cases rest <;> simp [styleText, String.toList_intercalate, List.intercalate]
      refine ⟨fun h => ?_, nofun⟩
      rw [h] at hcolon
      cases hcolon

mutual

/-- The outline of a node is that of what is known of it. -/
theorem outline_element : (node : Node) → node.element.outline = node.outline
  | ⟨kind, className, attributes, styles, text, children⟩ => by
      rw [element, outline, Element.outline]
      simp only [style_text_eq_empty_iff, List.isEmpty_iff]
      cases kind.isVoid with
      | true => rw [if_pos rfl, if_pos rfl, Element.outlines]
      | false =>
          rw [if_neg Bool.false_ne_true, if_neg Bool.false_ne_true, outlines_elements children]

/-- The same for a list of nodes. -/
theorem outlines_elements : (nodes : List Node) →
    Element.outlines (elements nodes) = outlines nodes
  | [] => by rw [elements, outlines, Element.outlines]
  | node :: rest => by
      rw [elements, outlines, Element.outlines, outline_element node, outlines_elements rest]

end

/-- Style declarations are printed as they are joined. -/
theorem start_tag_congr {styles' : List (String × String)}
    (h : styleText styles' = styleText styles) :
    startTag (fun _ => none) kind className attributes styles' =
      startTag (fun _ => none) kind className attributes styles := by
  have hempty : styles'.isEmpty = styles.isEmpty := by
    rw [Bool.eq_iff_iff, List.isEmpty_iff, List.isEmpty_iff, ← style_text_eq_empty_iff, h,
      style_text_eq_empty_iff]
  unfold startTag
  rw [hempty, h]

mutual

/-- Nodes of which the same is known are printed alike. -/
theorem html_with_congr : (node other : Node) → other.element = node.element →
    other.htmlWith (fun _ => none) = node.htmlWith fun _ => none
  | ⟨kind, className, attributes, styles, text, children⟩,
      ⟨kind', className', attributes', styles', text', children'⟩, h => by
      rw [element, element, Element.mk.injEq] at h
      obtain ⟨rfl, rfl, rfl, hstyle, htext, hchildren⟩ := h
      rw [htmlWith, htmlWith, start_tag_congr hstyle]
      cases hvoid : kind'.isVoid with
      | true => rfl
      | false =>
          rw [hvoid] at htext hchildren
          have htext : text'.getD "" = text.getD "" := htext
          rw [htext, html_with_all_congr children children' hchildren]

/-- The same for lists of nodes. -/
theorem html_with_all_congr : (nodes others : List Node) → elements others = elements nodes →
    htmlWithAll (fun _ => none) others = htmlWithAll (fun _ => none) nodes
  | [], [], _ => rfl
  | [], other :: others, h => by
      rw [elements, elements] at h
      cases h
  | node :: rest, [], h => by
      rw [elements, elements] at h
      cases h
  | node :: rest, other :: others, h => by
      rw [elements, elements, List.cons.injEq] at h
      rw [htmlWithAll, htmlWithAll, html_with_congr node other h.1,
        html_with_all_congr rest others h.2]

end

/-- A printed tree is read as one element, and that is all there is. -/
theorem decode_html_eq {node : Node} (hnames : node.HasPlainNames) :
    decode node.html = some node.element := by
  unfold decode
  rw [html, run_html node hnames .start rfl]
  rfl

/-- Whatever the texts, classes and values in a tree are, its HTML is read back as all that is known
of it. So no text and no value adds an element or an attribute, and trees have the same HTML only if
the same is known of them. -/
theorem decode_html (node : Node) (hnames : node.HasPlainNames) :
    decode node.html = some node.element ∧
    (∀ e, decode node.html = some e → e.outline = node.outline) ∧
    ∀ other : Node, other.HasPlainNames →
      (other.html = node.html ↔ other.element = node.element) := by
  have hdecode := decode_html_eq hnames
  refine ⟨hdecode, ?_, ?_⟩
  · intro e he
    obtain rfl : node.element = e := Option.some.inj (hdecode.symm.trans he)
    exact outline_element node
  · intro other hother
    refine ⟨fun hhtml => ?_, html_with_congr node other⟩
    have hsame : some other.element = some node.element := by
      rw [← decode_html_eq hother, ← hdecode, hhtml]
    exact Option.some.inj hsame

/-- A tree whose texts and values look like HTML. -/
def disguised : Node :=
  ⟨.block, some "a\"><p", [("data-x", "\" hidden=\""), ("hidden", "")], [("color", "\"&quot;")],
    some "</div><p>&lt;", [⟨.image, none, [("src", "/>")], [], some "dropped", [ofKind .inline]⟩]⟩

/-- It is read back. -/
theorem decode_html_disguised :
    disguised.HasPlainNames ∧
    decode disguised.html = some
      ⟨.block, some "a\"><p", [("data-x", "\" hidden=\""), ("hidden", "")], "color:\"&quot;",
        "</div><p>&lt;", [⟨.image, none, [("src", "/>")], "", "", []⟩]⟩ :=
  ⟨by decide, (decode_html disguised (by decide)).1⟩

end Node

end Widgetry
