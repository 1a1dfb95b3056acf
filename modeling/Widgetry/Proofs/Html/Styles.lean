import Widgetry.Proofs.Html.Faithful
import Widgetry.Proofs.Results
import Widgetry.Proofs.Text

/-!
# Reading styles

A printed style is one text. `declarations?` cuts it at semicolons, and every piece at its first
colon. It gives back the declarations that were joined, provided that no name among them has a colon
and neither name nor value has a semicolon: `declarations?_style_text`. Values made of the
characters of `isStyleChar` have none.
-/

namespace Widgetry.Html

/-- A declaration, cut at its first colon. -/
def declaration? (piece : List Char) : Option (String × String) :=
  (Text.cutFirst? ':' piece).map fun (property, value) =>
    (String.ofList property, String.ofList value)

/-- The declarations of a style, which is cut at its semicolons. An empty style has none. -/
def declarations? (style : String) : Option (List (String × String)) :=
  if style.isEmpty then some []
  else (Text.pieces (· = ';') style.toList).mapM declaration?

/-- The property and the value can be told apart, and from the declarations beside them. -/
def IsDeclaration (entry : String × String) : Prop :=
  ':' ∉ entry.1.toList ∧ ';' ∉ entry.1.toList ∧ ';' ∉ entry.2.toList

/-- A character that values of styles are made of: a blank, a letter, a digit or one of a few
signs. -/
def isStyleChar (c : Char) : Bool :=
  Text.isBlank c || c.isAlphanum || ['#', '(', ')', ',', '/', '%', '.', '+', '-'].contains c

/-- All characters are those of styles. -/
def IsStyleText (cs : List Char) : Prop :=
  ∀ c ∈ cs, isStyleChar c = true

instance (cs : List Char) : Decidable (IsStyleText cs) :=
  List.decidableBAll (isStyleChar · = true) cs

/-! ## Cutting what was joined -/

/-- What was printed of a declaration. -/
def declarationText (entry : String × String) : List Char :=
  entry.1.toList ++ ':' :: entry.2.toList

/-- A printed declaration is read back. -/
theorem declaration?_declaration_text {entry : String × String} (h : IsDeclaration entry) :
    declaration? (declarationText entry) = some entry := by
  have hcut : Text.cutFirst? ':' (declarationText entry) =
      some (entry.1.toList, entry.2.toList) :=
    Text.cut_first?_eq_some_iff.mpr ⟨rfl, h.1⟩
  rw [declaration?, hcut]
  simp

/-- A printed declaration has no semicolon. -/
theorem not_mem_declaration_text {entry : String × String} (h : IsDeclaration entry) :
    ';' ∉ declarationText entry := by
  have hcolon : ';' ≠ ':' := by decide
  simp [declarationText, h.2.1, h.2.2, hcolon]

variable {styles : List (String × String)}

/-- Printed declarations are read back one by one. -/
theorem map_m_declaration? (h : ∀ entry ∈ styles, IsDeclaration entry) :
    (styles.map declarationText).mapM declaration? = some styles := by
  induction styles with
  | nil => rfl
  | cons entry rest ih =>
      obtain ⟨hentry, hrest⟩ := List.forall_mem_cons.mp h
      rw [List.map_cons, map_m_cons_eq_some]
      exact ⟨entry, rest, declaration?_declaration_text hentry, ih hrest, rfl⟩

/-- The pieces of a printed style are its declarations. -/
theorem pieces_style_text (hne : styles ≠ []) (h : ∀ entry ∈ styles, IsDeclaration entry) :
    Text.pieces (· = ';') (styleText styles).toList = styles.map declarationText := by
  have htext : (styleText styles).toList = [';'].intercalate (styles.map declarationText) := by
    rw [styleText, String.toList_intercalate, List.map_map]
    refine congrArg [';'].intercalate (List.map_congr_left fun entry _ => ?_)
    simp [declarationText]
  rw [Text.pieces_eq_split_on_p, htext]
  refine List.splitOn_intercalate ';' ?_ (by simpa using hne)
  intro piece hpiece
  obtain ⟨entry, hentry, rfl⟩ := List.mem_map.mp hpiece
  exact not_mem_declaration_text (h entry hentry)

/-- A printed style is read back, if its declarations can be told apart. -/
theorem declarations?_style_text (h : ∀ entry ∈ styles, IsDeclaration entry) :
    declarations? (styleText styles) = some styles := by
  unfold declarations?
  split
  next hempty =>
    rw [String.isEmpty_iff, Node.style_text_eq_empty_iff] at hempty
    rw [hempty]
  next hsome =>
    have hne : styles ≠ [] := by
      rintro rfl
      exact hsome rfl
    rw [pieces_style_text hne h, map_m_declaration? h]

/-! ## Texts of styles -/

variable {c : Char} {cs : List Char}

/-- Blanks are characters of styles. -/
theorem is_style_char_of_is_blank (h : Text.isBlank c = true) : isStyleChar c = true := by
  simp [isStyleChar, h]

/-- Letters and digits are characters of styles. -/
theorem is_style_char_of_is_alphanum (h : c.isAlphanum = true) : isStyleChar c = true := by
  simp [isStyleChar, h]

/-- Digits are characters of styles. -/
theorem is_style_char_of_is_digit (h : c.isDigit = true) : isStyleChar c = true :=
  is_style_char_of_is_alphanum (by simp [Char.isAlphanum, h])

@[simp] theorem is_style_text_nil : IsStyleText [] := nofun

@[simp] theorem is_style_text_cons :
    IsStyleText (c :: cs) ↔ isStyleChar c = true ∧ IsStyleText cs :=
  List.forall_mem_cons

@[simp] theorem is_style_text_append {other : List Char} :
    IsStyleText (cs ++ other) ↔ IsStyleText cs ∧ IsStyleText other :=
  List.forall_mem_append

/-- Joined texts of styles are one. -/
theorem is_style_text_intercalate {sep : List Char} (hsep : IsStyleText sep)
    {texts : List (List Char)} (h : ∀ text ∈ texts, IsStyleText text) :
    IsStyleText (sep.intercalate texts) := by
  induction texts with
  | nil => exact is_style_text_nil
  | cons text rest ih =>
      obtain ⟨htext, hrest⟩ := List.forall_mem_cons.mp h
      cases rest with
      | nil => simpa using htext
      | cons next rest =>
          rw [List.intercalate_cons_cons, is_style_text_append, is_style_text_append]
          exact ⟨⟨htext, hsep⟩, ih hrest⟩

/-- Texts of styles have no semicolon. -/
theorem IsStyleText.not_mem (h : IsStyleText cs) : ';' ∉ cs := by
  intro hmem
  have hsemicolon : isStyleChar ';' = false := by decide
  rw [h ';' hmem] at hsemicolon
  cases hsemicolon

/-- A property of letters and hyphens with a text of styles makes a declaration. -/
theorem is_declaration_of_is_style_text {property value : String}
    (hproperty : ':' ∉ property.toList ∧ ';' ∉ property.toList)
    (hvalue : IsStyleText value.toList) : IsDeclaration (property, value) :=
  ⟨hproperty.1, hproperty.2, hvalue.not_mem⟩

end Widgetry.Html
