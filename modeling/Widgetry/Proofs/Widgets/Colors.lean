import Widgetry.Proofs.Decimals
import Widgetry.Proofs.Html.Styles
import Widgetry.Widget.Color

/-!
# The characters of colours

The check of colours accepts keywords, hexadecimal digits and calls of colour functions, whose
arguments are cut in two ways and end in numbers with signs, units and exponents. Whichever branch
accepts a text, the text consists of blanks, letters, digits and a few signs:
`is_style_text_of_is_valid`. The lemmas follow the check from the numbers outwards.
-/

namespace Widgetry.Color

open Html

variable {c : Char} {cs : List Char}

/-- Capital letters are letters. -/
theorem is_alphanum_of_is_upper (h : c.isUpper = true) : c.isAlphanum = true := by
  show ((c.isUpper || c.isLower) || c.isDigit) = true
  rw [h]
  rfl

/-- Small letters are letters. -/
theorem is_alphanum_of_is_lower (h : c.isLower = true) : c.isAlphanum = true := by
  show ((c.isUpper || c.isLower) || c.isDigit) = true
  rw [h, Bool.or_true]
  rfl

/-- Lowering a letter does not turn a character into one of styles. -/
theorem is_style_char_of_to_lower (h : isStyleChar c.toLower = true) : isStyleChar c = true := by
  by_cases hupper : c.val ≥ 'A'.val ∧ c.val ≤ 'Z'.val
  · have hcapital : c.isUpper = true := decide_eq_true hupper
    exact is_style_char_of_is_alphanum (is_alphanum_of_is_upper hcapital)
  · have hsame : c.toLower = c := dif_neg hupper
    rwa [hsame] at h

/-- A text is one of styles if its trimmed text is. -/
theorem is_style_text_of_trimmed (h : IsStyleText (Text.trimmed cs)) : IsStyleText cs := by
  intro c hc
  rcases Text.mem_trimmed hc with hblank | hkept
  · exact is_style_char_of_is_blank hblank
  · exact h c hkept

/-! ## Numbers -/

/-- A number is a text of styles. -/
theorem is_style_text_of_is_number (h : isNumber cs = true) : IsStyleText cs := by
  unfold isNumber at h
  split at h
  next x hread =>
    intro c hc
    rcases Decimal.mem_of_spells (Decimal.read?_eq_some_iff.mp hread) c hc with hdigit | hmark
    · exact is_style_char_of_is_digit hdigit
    · have hmarks : IsStyleText Decimal.marks := by decide
      exact hmarks c hmark
  next => cases h

/-- A number or a percentage is a text of styles. -/
theorem is_style_text_of_is_amount (h : isAmount cs = true) : IsStyleText cs := by
  rcases Bool.or_eq_true_iff.mp h with hnumber | hpercentage
  · exact is_style_text_of_is_number hnumber
  · unfold isPercentage at hpercentage
    split at hpercentage
    next number hbefore =>
      rw [Text.before?_eq_some_iff.mp hbefore, is_style_text_append]
      exact ⟨is_style_text_of_is_number hpercentage, by simp; decide⟩
    next => cases hpercentage

/-- A hue is a text of styles. -/
theorem is_style_text_of_is_hue (h : isHue cs = true) : IsStyleText cs := by
  have hunits : ∀ unit ∈ angleUnits, IsStyleText unit.toList := by decide
  unfold isHue at h
  split at h
  next number hfound =>
    obtain ⟨unit, hunit, hbefore⟩ := List.exists_of_findSome?_eq_some hfound
    rw [Text.before?_eq_some_iff.mp hbefore, is_style_text_append]
    exact ⟨is_style_text_of_is_number h, hunits unit hunit⟩
  next => exact is_style_text_of_is_number h

/-! ## Colour functions -/

/-- The texts of components. -/
def Components.texts (components : Components) : List (List Char) :=
  [components.first, components.second, components.third] ++ components.alpha.toList

/-- A text between commas is a text of styles if all its trimmed pieces are. -/
theorem is_style_text_of_pieces
    (h : ∀ piece ∈ (Text.pieces (· = ',') cs).map Text.trimmed, IsStyleText piece) :
    IsStyleText cs := by
  intro c hc
  rcases Text.mem_pieces (p := (· = ',')) hc with hcomma | ⟨piece, hpiece, hmem⟩
  · rw [of_decide_eq_true hcomma]
    decide
  · exact is_style_text_of_trimmed (h _ (List.mem_map_of_mem hpiece)) c hmem

/-- A text between blanks is a text of styles if all its words are. -/
theorem is_style_text_of_words (h : ∀ word ∈ Text.words Text.isBlank cs, IsStyleText word) :
    IsStyleText cs := by
  intro c hc
  rcases Text.mem_words (p := Text.isBlank) hc with hblank | ⟨word, hword, hmem⟩
  · exact is_style_char_of_is_blank hblank
  · exact h word hword c hmem

/-- Arguments are a text of styles if their components are, in either way to write them. -/
theorem is_style_text_of_components? {components : Components}
    (h : components? cs = some components) (htexts : ∀ text ∈ components.texts, IsStyleText text) :
    IsStyleText cs := by
  unfold components? at h
  split at h
  next =>
    refine is_style_text_of_pieces ?_
    split at h
    next hpieces =>
      cases h
      simpa [hpieces, Components.texts] using htexts
    next hpieces =>
      cases h
      simpa [hpieces, Components.texts] using htexts
    next => cases h
  next =>
    dsimp only at h
    split at h
    next hwords =>
      cases h
      cases hcut : Text.cutFirst? '/' cs with
      | none =>
          rw [hcut] at hwords htexts
          refine is_style_text_of_words ?_
          rw [hwords]
          simpa [Components.texts] using htexts
      | some parts =>
          obtain ⟨main, alpha⟩ := parts
          rw [hcut] at hwords htexts
          obtain ⟨rfl, _⟩ := Text.cut_first?_eq_some_iff.mp hcut
          rw [is_style_text_append, is_style_text_cons]
          refine ⟨is_style_text_of_words ?_, by decide, is_style_text_of_trimmed ?_⟩
          · rw [hwords]
            simp only [Components.texts, List.forall_mem_append] at htexts
            exact htexts.1
          · exact htexts _ (by simp [Components.texts])
    next => cases h

/-- The arguments of a colour function are a text of styles. -/
theorem is_style_text_of_is_color_of {first : List Char → Bool}
    (hfirst : ∀ {cs}, first cs = true → IsStyleText cs) (h : isColorOf first cs = true) :
    IsStyleText cs := by
  unfold isColorOf at h
  split at h
  next components hcomponents =>
    refine is_style_text_of_components? hcomponents ?_
    simp only [Bool.and_eq_true] at h
    obtain ⟨⟨⟨h₁, h₂⟩, h₃⟩, halpha⟩ := h
    simp only [Components.texts, List.cons_append, List.nil_append, List.forall_mem_cons]
    refine ⟨hfirst h₁, is_style_text_of_is_amount h₂, is_style_text_of_is_amount h₃, ?_⟩
    intro text htext
    rw [Option.mem_toList.mp htext] at halpha
    exact is_style_text_of_is_amount halpha
  next => cases h

/-- The call of a colour function is a text of styles, with any blanks after its name. -/
theorem is_style_text_of_is_call {name rest : List Char} (h : isCall name rest = true) :
    IsStyleText name ∧ IsStyleText rest := by
  have hname : ∀ function ∈ ["rgb", "rgba", "hsl", "hsla"],
      String.ofList (Text.dropEndWhile Text.isBlank name) = function → IsStyleText name := by
    intro function hfunction heq c hc
    rcases Text.mem_drop_end_while (p := Text.isBlank) hc with hblank | hkept
    · exact is_style_char_of_is_blank hblank
    · have hletters : ∀ function ∈ ["rgb", "rgba", "hsl", "hsla"],
          IsStyleText function.toList := by decide
      rw [← String.toList_ofList (l := Text.dropEndWhile Text.isBlank name), heq] at hkept
      exact hletters function hfunction c hkept
  unfold isCall at h
  split at h
  next => cases h
  next args hargs =>
    rw [Text.before?_eq_some_iff.mp hargs, is_style_text_append]
    have hclosing : IsStyleText [')'] := by simp; decide
    split at h
    next hfunction =>
      exact ⟨hname _ (by simp) hfunction,
        is_style_text_of_is_color_of is_style_text_of_is_amount h, hclosing⟩
    next hfunction =>
      exact ⟨hname _ (by simp) hfunction,
        is_style_text_of_is_color_of is_style_text_of_is_amount h, hclosing⟩
    next hfunction =>
      exact ⟨hname _ (by simp) hfunction,
        is_style_text_of_is_color_of is_style_text_of_is_hue h, hclosing⟩
    next hfunction =>
      exact ⟨hname _ (by simp) hfunction,
        is_style_text_of_is_color_of is_style_text_of_is_hue h, hclosing⟩
    next => cases h

/-! ## Colours -/

/-- Hexadecimal digits are a text of styles. -/
theorem is_style_text_of_is_hex (h : isHex cs = true) : IsStyleText cs := by
  intro c hc
  have hdigit := List.all_eq_true.mp (Bool.and_eq_true_iff.mp h).2 c hc
  rcases Bool.or_eq_true_iff.mp hdigit with hdigit | hletter
  · exact is_style_char_of_is_digit hdigit
  · refine is_style_char_of_is_alphanum ?_
    simp only [Bool.and_eq_true, decide_eq_true_eq, Char.le_def] at hletter
    have hle : c.val ≤ 'z'.val := UInt32.le_trans hletter.2 (by decide)
    refine is_alphanum_of_is_lower ?_
    show (decide (c.val ≥ 'a'.val) && decide (c.val ≤ 'z'.val)) = true
    rw [decide_eq_true hletter.1, decide_eq_true hle]
    rfl

/-- Keywords consist of letters. -/
theorem is_alphanum_of_keyword : ∀ name ∈ "transparent" :: "currentcolor" :: names,
    ∃ cs, name = String.ofList cs ∧ cs.all Char.isAlphanum = true := by
  unfold names
  -- A literal is by definition the text of its characters, which are found by unification.
  repeat refine List.forall_mem_cons.mpr ⟨⟨_, rfl, rfl⟩, ?_⟩
  exact nofun

/-- A keyword is a text of styles. -/
theorem is_style_text_of_keyword {name : String}
    (h : name ∈ "transparent" :: "currentcolor" :: names) : IsStyleText name.toList := by
  obtain ⟨cs, rfl, hletters⟩ := is_alphanum_of_keyword name h
  rw [String.toList_ofList]
  exact fun c hc => is_style_char_of_is_alphanum (List.all_eq_true.mp hletters c hc)

/-- Whatever passes for a colour consists of blanks, letters, digits and a few signs. -/
theorem is_style_text_of_is_valid {s : String} (h : isValid s = true) : IsStyleText s.toList := by
  refine is_style_text_of_trimmed ?_
  have hlowered : IsStyleText ((Text.trimmed s.toList).map Char.toLower) := by
    unfold isValid at h
    dsimp only at h
    split at h
    next digits hhash =>
      rw [hhash, is_style_text_cons]
      exact ⟨by decide, is_style_text_of_is_hex h⟩
    next =>
      split at h
      next name rest hcut =>
        rw [(Text.cut_first?_eq_some_iff.mp hcut).1, is_style_text_append, is_style_text_cons]
        obtain ⟨hname, hrest⟩ := is_style_text_of_is_call h
        exact ⟨hname, by decide, hrest⟩
      next =>
        have hkeyword : String.ofList ((Text.trimmed s.toList).map Char.toLower) ∈
            "transparent" :: "currentcolor" :: names := by
          simpa [or_assoc] using h
        simpa using is_style_text_of_keyword hkeyword
  intro c hc
  exact is_style_char_of_to_lower (hlowered _ (List.mem_map_of_mem hc))

end Widgetry.Color
