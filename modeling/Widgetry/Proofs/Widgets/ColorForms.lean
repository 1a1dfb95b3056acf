import Widgetry.Proofs.LetterCase
import Widgetry.Widget.Color

/-!
# The two ways to write a colour function

The components of a colour function stand between commas, or between blanks with the fourth one
after a slash. The main theorem, `color_forms_agree`, says that both ways are judged alike, with any
blanks around the components, the name and the whole, in either case of letters, and with or without
the final letter of the function's name. A call is accepted exactly if each component is a finite
number of the right form, which `Tokens.AreColor` spells out through the grammar of decimals.
-/

namespace Widgetry.Color

/-! ## Calls as they are written -/

/-- The functions that make a colour of three components, or of four. -/
inductive ColorFunction where
  | rgb
  | rgba
  | hsl
  | hsla

namespace ColorFunction

/-- The name of a function. -/
def name : ColorFunction → String
  | .rgb => "rgb"
  | .rgba => "rgba"
  | .hsl => "hsl"
  | .hsla => "hsla"

/-- The function whose name has the final letter more or less. -/
def twin : ColorFunction → ColorFunction
  | .rgb => .rgba
  | .rgba => .rgb
  | .hsl => .hsla
  | .hsla => .hsl

/-- The first component is a hue, and not an amount as the others are. -/
def takesHue : ColorFunction → Bool
  | .rgb | .rgba => false
  | .hsl | .hsla => true

end ColorFunction

/-- A run of blanks, possibly empty. -/
structure Blanks where
  chars : List Char
  blank : ∀ c ∈ chars, Text.isBlank c = true

/-- The blanks before and after something. -/
structure Margins where
  before : Blanks
  after : Blanks

/-- A text with blanks around it. -/
def Margins.around (margins : Margins) (cs : List Char) : List Char :=
  margins.before.chars ++ cs ++ margins.after.chars

/-- A nonempty text without blanks, commas and slashes. -/
structure Token where
  chars : List Char
  nonempty : chars ≠ []
  plain : ∀ c ∈ chars, Text.isBlank c = false ∧ c ≠ ',' ∧ c ≠ '/'

/-- The components of a call: three, and an optional fourth. -/
structure Tokens where
  first : Token
  second : Token
  third : Token
  alpha : Option Token

/-- The blanks in a call: around the whole, after the name, and around each component. -/
structure Spacing where
  outer : Margins
  name : Blanks
  first : Margins
  second : Margins
  third : Margins
  alpha : Margins

/-- What stands between the components of a call: commas, or blanks, and a slash before the
fourth. -/
inductive Separators where
  | commas
  | blanks (first second : Char) (hfirst : Text.isBlank first = true)
      (hsecond : Text.isBlank second = true)

namespace Separators

/-- The separator after the first component. -/
def first : Separators → Char
  | .commas => ','
  | .blanks first _ _ _ => first

/-- The separator after the second component. -/
def second : Separators → Char
  | .commas => ','
  | .blanks _ second _ _ => second

/-- The separator before the fourth component. -/
def last : Separators → Char
  | .commas => ','
  | .blanks _ _ _ _ => '/'

end Separators

namespace Tokens

/-- The first three arguments of a call as they are written. -/
def main (tokens : Tokens) (spacing : Spacing) (separators : Separators) : List Char :=
  spacing.first.around tokens.first.chars ++ separators.first ::
    (spacing.second.around tokens.second.chars ++ separators.second ::
      spacing.third.around tokens.third.chars)

/-- The arguments of a call as they are written. -/
def args (tokens : Tokens) (spacing : Spacing) (separators : Separators) : List Char :=
  tokens.main spacing separators ++
    match tokens.alpha with
    | none => []
    | some alpha => separators.last :: spacing.alpha.around alpha.chars

/-- A call as it is written. -/
def call (tokens : Tokens) (function : ColorFunction) (spacing : Spacing)
    (separators : Separators) : String :=
  String.ofList (spacing.outer.around
    (function.name.toList ++ spacing.name.chars ++
      '(' :: (tokens.args spacing separators ++ [')'])))

end Tokens

/-! ## What makes a colour -/

/-- The text spells a number that is finite when rounded. -/
def SpellsNumber (cs : List Char) : Prop :=
  ∃ x, Decimal.Spells cs x ∧ x.toBinary64.isFinite = true

/-- The text spells a number or a percentage. -/
def SpellsAmount (cs : List Char) : Prop :=
  SpellsNumber cs ∨ ∃ number, cs = number ++ ['%'] ∧ SpellsNumber number

/-- The text spells a number with an optional unit of angle, in either case of letters. -/
def SpellsHue (cs : List Char) : Prop :=
  ∃ number unit, cs = number ++ unit ∧ SpellsNumber number ∧
    (unit = [] ∨ String.ofList (unit.map Char.toLower) ∈ angleUnits)

/-- The components make a colour of the function. -/
def Tokens.AreColor (tokens : Tokens) (function : ColorFunction) : Prop :=
  (if function.takesHue then SpellsHue tokens.first.chars else SpellsAmount tokens.first.chars) ∧
    SpellsAmount tokens.second.chars ∧ SpellsAmount tokens.third.chars ∧
    ∀ alpha ∈ tokens.alpha, SpellsAmount alpha.chars

variable {cs : List Char}

/-! ## Components -/

/-- Numbers are what the grammar of decimals spells. -/
theorem is_number_iff : isNumber cs = true ↔ SpellsNumber cs := by
  unfold isNumber SpellsNumber
  simp only [← Decimal.read?_eq_some_iff]
  cases Decimal.read? cs <;> simp

theorem is_number_map_to_lower (cs : List Char) :
    isNumber (cs.map Char.toLower) = isNumber cs := by
  unfold isNumber
  rw [Decimal.read?_map_to_lower]

/-- A text ends in a percent sign if it does so in small letters. -/
theorem is_percentage_iff :
    isPercentage cs = true ↔ ∃ number, cs = number ++ ['%'] ∧ isNumber number = true := by
  unfold isPercentage
  simp only [← Text.before?_eq_some_iff]
  cases Text.before? ['%'] cs <;> simp

/-- Amounts are judged by what they spell, whatever the case of their letters. -/
theorem is_amount_map_to_lower_iff :
    isAmount (cs.map Char.toLower) = true ↔ SpellsAmount cs := by
  have hpercent : isPercentage (cs.map Char.toLower) = true ↔
      ∃ number, cs = number ++ ['%'] ∧ SpellsNumber number := by
    rw [is_percentage_iff]
    constructor
    · rintro ⟨lowered, hcs, hnumber⟩
      obtain ⟨number, sign, rfl, rfl, hsign⟩ := List.map_eq_append_iff.mp hcs
      obtain ⟨c, rfl, hc⟩ := List.map_eq_singleton_iff.mp hsign
      rw [Text.to_lower_eq_iff (by decide)] at hc
      rw [is_number_map_to_lower, is_number_iff] at hnumber
      exact ⟨number, by rw [hc], hnumber⟩
    · rintro ⟨number, rfl, hnumber⟩
      refine ⟨number.map Char.toLower, List.map_append, ?_⟩
      rwa [is_number_map_to_lower, is_number_iff]
  unfold isAmount SpellsAmount
  rw [Bool.or_eq_true_iff, is_number_map_to_lower, is_number_iff, hpercent]

/-- A number has no other letter than that of its exponent. -/
theorem not_mem_of_is_number {c : Char} (h : isNumber cs = true) (hdigit : c.isDigit = false)
    (hmark : c ∉ Decimal.marks) : c ∉ cs := by
  intro hc
  obtain ⟨x, hspells, _⟩ := is_number_iff.mp h
  rcases Decimal.mem_of_spells hspells c hc with hc | hc
  · rw [hdigit] at hc
    cases hc
  · exact hmark hc

/-- A text does not end in a unit whose last letter is another. -/
theorem before?_eq_none_of_last {number unit other : List Char} (hunit : unit ≠ [])
    (hother : other ≠ []) (hlast : other.getLast? ≠ unit.getLast?) :
    Text.before? other (number ++ unit) = none := by
  cases hbefore : Text.before? other (number ++ unit) with
  | none => rfl
  | some start =>
      have hends := congrArg List.getLast? (Text.before?_eq_some_iff.mp hbefore)
      rw [List.getLast?_append_of_ne_nil _ hunit, List.getLast?_append_of_ne_nil _ hother] at hends
      exact absurd hends.symm hlast

/-- A number does not end in the letter that gradians have more than radians. -/
theorem before?_grad_eq_none {number : List Char} (h : isNumber number = true) :
    Text.before? "grad".toList (number ++ "rad".toList) = none := by
  cases hbefore : Text.before? "grad".toList (number ++ "rad".toList) with
  | none => rfl
  | some start =>
      have hgrad : "grad".toList = ['g'] ++ "rad".toList := by decide
      have hsplit := Text.before?_eq_some_iff.mp hbefore
      rw [hgrad, ← List.append_assoc] at hsplit
      have hletter := not_mem_of_is_number (c := 'g') h (by decide) (by decide)
      rw [List.append_cancel_right hsplit] at hletter
      simp at hletter

/-- The unit of a number is found, although one unit ends another. -/
theorem find_unit {number : List Char} {unit : String} (h : isNumber number = true)
    (hunit : unit ∈ angleUnits) :
    angleUnits.findSome? (fun other => Text.before? other.toList (number ++ unit.toList)) =
      some number := by
  have hself : Text.before? unit.toList (number ++ unit.toList) = some number :=
    Text.before?_eq_some_iff.mpr rfl
  have hother : ∀ other : String, unit.toList ≠ [] → other.toList ≠ [] →
      other.toList.getLast? ≠ unit.toList.getLast? →
      Text.before? other.toList (number ++ unit.toList) = none :=
    fun _ => before?_eq_none_of_last
  simp only [angleUnits, List.mem_cons, List.not_mem_nil, or_false] at hunit
  rcases hunit with rfl | rfl | rfl | rfl
  · simp only [angleUnits, List.findSome?_cons, hself]
  · simp only [angleUnits, List.findSome?_cons, hother "deg" (by decide) (by decide) (by decide),
      hself]
  · simp only [angleUnits, List.findSome?_cons, hother "deg" (by decide) (by decide) (by decide),
      before?_grad_eq_none h, hself]
  · simp only [angleUnits, List.findSome?_cons, hother "deg" (by decide) (by decide) (by decide),
      hother "grad" (by decide) (by decide) (by decide),
      hother "rad" (by decide) (by decide) (by decide), hself]

/-- A number ends in no unit. -/
theorem find_no_unit {number : List Char} (h : isNumber number = true) :
    angleUnits.findSome? (fun unit => Text.before? unit.toList number) = none := by
  have hletter : ∀ unit ∈ angleUnits, ∃ c ∈ unit.toList, c.isDigit = false ∧ c ∉ Decimal.marks := by
    simp only [angleUnits, List.forall_mem_cons]
    exact ⟨⟨'g', by decide⟩, ⟨'g', by decide⟩, ⟨'r', by decide⟩, ⟨'t', by decide⟩, by simp⟩
  rw [List.findSome?_eq_none_iff]
  intro unit hunit
  cases hbefore : Text.before? unit.toList number with
  | none => rfl
  | some start =>
      obtain ⟨c, hc, hdigit, hmark⟩ := hletter unit hunit
      rw [Text.before?_eq_some_iff] at hbefore
      refine absurd ?_ (not_mem_of_is_number h hdigit hmark)
      rw [hbefore]
      exact List.mem_append_right _ hc

/-- A hue is a number with an optional unit. -/
theorem is_hue_iff : isHue cs = true ↔ ∃ number unit, cs = number ++ unit ∧
    isNumber number = true ∧ (unit = [] ∨ String.ofList unit ∈ angleUnits) := by
  unfold isHue
  constructor
  · intro h
    split at h
    next number hfound =>
      obtain ⟨unit, hunit, hbefore⟩ := List.exists_of_findSome?_eq_some hfound
      refine ⟨number, unit.toList, Text.before?_eq_some_iff.mp hbefore, h, .inr ?_⟩
      rwa [String.ofList_toList]
    next => exact ⟨cs, [], cs.append_nil.symm, h, .inl rfl⟩
  · rintro ⟨number, unit, rfl, hnumber, rfl | hunit⟩
    · rw [List.append_nil, find_no_unit hnumber]
      exact hnumber
    · rw [← String.toList_ofList (l := unit), find_unit hnumber hunit]
      exact hnumber

/-- Hues are judged by what they spell, whatever the case of their letters. -/
theorem is_hue_map_to_lower_iff : isHue (cs.map Char.toLower) = true ↔ SpellsHue cs := by
  rw [is_hue_iff]
  constructor
  · rintro ⟨lowered, unit, hcs, hnumber, hunit⟩
    obtain ⟨number, rest, rfl, rfl, rfl⟩ := List.map_eq_append_iff.mp hcs
    rw [is_number_map_to_lower, is_number_iff] at hnumber
    exact ⟨number, rest, rfl, hnumber, hunit.imp_left List.map_eq_nil_iff.mp⟩
  · rintro ⟨number, unit, rfl, hnumber, hunit⟩
    refine ⟨number.map Char.toLower, unit.map Char.toLower, List.map_append, ?_,
      hunit.imp_left List.map_eq_nil_iff.mpr⟩
    rwa [is_number_map_to_lower, is_number_iff]

/-! ## Components are read back -/

/-- Blanks in small letters. -/
def Blanks.lowered (blanks : Blanks) : Blanks where
  chars := blanks.chars.map Char.toLower
  blank := by
    simp only [List.forall_mem_map, Text.is_blank_to_lower]
    exact blanks.blank

/-- Margins in small letters. -/
def Margins.lowered (margins : Margins) : Margins :=
  ⟨margins.before.lowered, margins.after.lowered⟩

/-- A token in small letters. -/
def Token.lowered (token : Token) : Token where
  chars := token.chars.map Char.toLower
  nonempty := by simpa using token.nonempty
  plain := by
    simp only [List.forall_mem_map, Text.is_blank_to_lower, ne_eq]
    intro c hc
    rw [Text.to_lower_eq_iff (by decide), Text.to_lower_eq_iff (by decide)]
    exact token.plain c hc

/-- Components in small letters. -/
def Tokens.lowered (tokens : Tokens) : Tokens :=
  ⟨tokens.first.lowered, tokens.second.lowered, tokens.third.lowered,
    tokens.alpha.map Token.lowered⟩

/-- The blanks in a call in small letters. -/
def Spacing.lowered (spacing : Spacing) : Spacing :=
  ⟨spacing.outer.lowered, spacing.name.lowered, spacing.first.lowered, spacing.second.lowered,
    spacing.third.lowered, spacing.alpha.lowered⟩

/-- Separators in small letters. -/
def Separators.lowered : Separators → Separators
  | .commas => .commas
  | .blanks first second hfirst hsecond =>
      .blanks first.toLower second.toLower (by rwa [Text.is_blank_to_lower])
        (by rwa [Text.is_blank_to_lower])

/-- Arguments in small letters are written with everything in small letters. -/
theorem map_to_lower_args (tokens : Tokens) (spacing : Spacing) (separators : Separators) :
    (tokens.args spacing separators).map Char.toLower =
      tokens.lowered.args spacing.lowered separators.lowered := by
  have haround : ∀ (margins : Margins) (cs : List Char),
      (margins.around cs).map Char.toLower = margins.lowered.around (cs.map Char.toLower) := by
    intro margins cs
    simp only [Margins.around, List.map_append]
    rfl
  have hseparators : separators.first.toLower = separators.lowered.first ∧
      separators.second.toLower = separators.lowered.second ∧
      separators.last.toLower = separators.lowered.last := by
    cases separators <;> exact ⟨rfl, rfl, rfl⟩
  have hmain : (tokens.main spacing separators).map Char.toLower =
      tokens.lowered.main spacing.lowered separators.lowered := by
    unfold Tokens.main
    simp only [List.map_append, List.map_cons, haround, hseparators]
    rfl
  unfold Tokens.args
  rw [List.map_append, hmain]
  unfold Tokens.lowered
  cases tokens.alpha with
  | none => rfl
  | some alpha =>
      simp only [Option.map_some, List.map_cons, haround, hseparators]
      rfl

/-- A padded component has neither commas nor slashes. -/
theorem Margins.plain_around (margins : Margins) (token : Token) :
    ∀ c ∈ margins.around token.chars, c ≠ ',' ∧ c ≠ '/' := by
  have hblank : ∀ c, Text.isBlank c = true → c ≠ ',' ∧ c ≠ '/' := by
    rintro c hc
    constructor <;>
    · rintro rfl
      cases hc
  unfold Margins.around
  simp only [List.forall_mem_append]
  exact ⟨⟨fun c hc => hblank c (margins.before.blank c hc), fun c hc => (token.plain c hc).2⟩,
    fun c hc => hblank c (margins.after.blank c hc)⟩

/-- Trimming a padded component gives the component. -/
theorem Margins.trimmed_around (margins : Margins) (token : Token) :
    Text.trimmed (margins.around token.chars) = token.chars := by
  refine Text.trimmed_padded margins.before.blank margins.after.blank token.nonempty ?_ ?_
  · exact fun c hc => (token.plain c (List.mem_of_head? hc)).1
  · exact fun c hc => (token.plain c (List.mem_of_getLast? hc)).1

/-- A padded component is the first word of a text that goes on with a blank, if it goes on. -/
theorem Margins.words_around_append (margins : Margins) (token : Token) {rest : List Char}
    (hrest : ∀ c ∈ rest.head?, Text.isBlank c = true) :
    Text.words Text.isBlank (margins.around token.chars ++ rest) =
      token.chars :: Text.words Text.isBlank rest := by
  have hafter : ∀ c ∈ (margins.after.chars ++ rest).head?, Text.isBlank c = true := by
    cases hchars : margins.after.chars with
    | nil => exact hrest
    | cons blank blanks =>
        rintro c ⟨⟩
        exact margins.after.blank blank (hchars ▸ List.mem_cons_self)
  unfold Margins.around
  rw [List.append_assoc, List.append_assoc, Text.words_append margins.before.blank,
    Text.words_word_append token.nonempty (fun c hc => (token.plain c hc).1) hafter,
    Text.words_append margins.after.blank]

/-- Between commas, the trimmed pieces of written arguments are the tokens. -/
theorem pieces_args (tokens : Tokens) (spacing : Spacing) :
    (Text.pieces (· = ',') (tokens.args spacing .commas)).map Text.trimmed =
      [tokens.first.chars, tokens.second.chars, tokens.third.chars] ++
        (tokens.alpha.map Token.chars).toList := by
  have hcomma : ∀ (margins : Margins) (token : Token),
      ∀ c ∈ margins.around token.chars, decide (c = ',') = false := fun margins token c hc =>
    decide_eq_false (margins.plain_around token c hc).1
  unfold Tokens.args Tokens.main Separators.first Separators.second Separators.last
  simp only [List.append_assoc, List.cons_append]
  rw [Text.pieces_append_cons (hcomma _ _) (by decide),
    Text.pieces_append_cons (hcomma _ _) (by decide)]
  cases tokens.alpha with
  | none =>
      rw [List.append_nil, Text.pieces_eq_singleton (hcomma _ _)]
      simp [Margins.trimmed_around]
  | some alpha =>
      rw [Text.pieces_append_cons (hcomma _ _) (by decide),
        Text.pieces_eq_singleton (hcomma _ _)]
      simp [Margins.trimmed_around]

section Blanks

variable {gap gap' : Char} (hgap : Text.isBlank gap = true) (hgap' : Text.isBlank gap' = true)

include hgap hgap'

/-- Between blanks, the words of the first three arguments are the tokens. -/
theorem words_main (tokens : Tokens) (spacing : Spacing) :
    Text.words Text.isBlank (tokens.main spacing (.blanks gap gap' hgap hgap')) =
      [tokens.first.chars, tokens.second.chars, tokens.third.chars] := by
  have hskip : ∀ {gap : Char}, Text.isBlank gap = true → ∀ rest,
      Text.words Text.isBlank (gap :: rest) = Text.words Text.isBlank rest := fun hgap rest =>
    Text.words_append (List.forall_mem_singleton.mpr hgap) rest
  have hlast : Text.words Text.isBlank (spacing.third.around tokens.third.chars ++ []) =
      [tokens.third.chars] := spacing.third.words_around_append tokens.third (by simp)
  rw [List.append_nil] at hlast
  unfold Tokens.main Separators.first Separators.second
  rw [Margins.words_around_append _ _ (by simpa using hgap), hskip hgap,
    Margins.words_around_append _ _ (by simpa using hgap'), hskip hgap', hlast]

/-- Between blanks, the first three arguments have neither commas nor slashes. -/
theorem plain_main (tokens : Tokens) (spacing : Spacing) :
    ',' ∉ tokens.main spacing (.blanks gap gap' hgap hgap') ∧
      '/' ∉ tokens.main spacing (.blanks gap gap' hgap hgap') := by
  have hplain : ∀ (margins : Margins) (token : Token),
      ',' ∉ margins.around token.chars ∧ '/' ∉ margins.around token.chars :=
    fun margins token => ⟨fun hmem => (margins.plain_around token _ hmem).1 rfl,
      fun hmem => (margins.plain_around token _ hmem).2 rfl⟩
  have hblank : ∀ {gap : Char}, Text.isBlank gap = true → ',' ≠ gap ∧ '/' ≠ gap := by
    intro gap hgap
    constructor <;>
    · rintro rfl
      cases hgap
  simp [Tokens.main, Separators.first, Separators.second, hplain, hblank hgap, hblank hgap']

end Blanks

/-- The components of written arguments are the tokens, in either way to write them. -/
theorem components?_args (tokens : Tokens) (spacing : Spacing) (separators : Separators) :
    components? (tokens.args spacing separators) =
      some ⟨tokens.first.chars, tokens.second.chars, tokens.third.chars,
        tokens.alpha.map Token.chars⟩ := by
  cases separators with
  | commas =>
      unfold components?
      rw [if_pos (by simp [Tokens.args, Tokens.main, Separators.first]), pieces_args]
      cases tokens.alpha <;> rfl
  | blanks gap gap' hgap hgap' =>
      obtain ⟨hcomma, hslash⟩ := plain_main hgap hgap' tokens spacing
      have hwords := words_main hgap hgap' tokens spacing
      cases halpha : tokens.alpha with
      | none =>
          have hargs : tokens.args spacing (.blanks gap gap' hgap hgap') =
              tokens.main spacing (.blanks gap gap' hgap hgap') := by
            rw [Tokens.args, halpha]
            exact List.append_nil _
          rw [hargs, components?, if_neg (by simpa using hcomma), Text.cut_first?_eq_none hslash]
          dsimp only
          rw [hwords]
          rfl
      | some alpha =>
          have hargs : tokens.args spacing (.blanks gap gap' hgap hgap') =
              tokens.main spacing (.blanks gap gap' hgap hgap') ++
                '/' :: spacing.alpha.around alpha.chars := by
            rw [Tokens.args, halpha]
            rfl
          have hplain : ',' ∉ spacing.alpha.around alpha.chars := fun hmem =>
            (spacing.alpha.plain_around alpha _ hmem).1 rfl
          rw [hargs, components?, if_neg (by simp [hcomma, hplain]),
            Text.cut_first?_eq_some_iff.mpr ⟨rfl, hslash⟩]
          dsimp only
          rw [hwords, Margins.trimmed_around]
          rfl

/-! ## Calls -/

/-- The test of the first component. -/
def ColorFunction.first (function : ColorFunction) : List Char → Bool :=
  if function.takesHue then isHue else isAmount

/-- The name of a function begins with a letter, and has no other characters than small letters. -/
theorem ColorFunction.name_letters (function : ColorFunction) :
    ∃ first rest, function.name.toList = first :: rest ∧ first ≠ '#' ∧
      ∀ c ∈ first :: rest, Text.isBlank c = false ∧ c ≠ '(' ∧ c.toLower = c := by
  cases function
  · exact ⟨'r', ['g', 'b'], rfl, by decide, by simp; decide⟩
  · exact ⟨'r', ['g', 'b', 'a'], rfl, by decide, by simp; decide⟩
  · exact ⟨'h', ['s', 'l'], rfl, by decide, by simp; decide⟩
  · exact ⟨'h', ['s', 'l', 'a'], rfl, by decide, by simp; decide⟩

/-- A call without the blanks around it. -/
theorem trimmed_call (tokens : Tokens) (function : ColorFunction) (spacing : Spacing)
    (separators : Separators) :
    Text.trimmed (tokens.call function spacing separators).toList =
      function.name.toList ++ spacing.name.chars ++
        '(' :: (tokens.args spacing separators ++ [')']) := by
  obtain ⟨first, rest, hname, _, hletters⟩ := function.name_letters
  unfold Tokens.call
  rw [String.toList_ofList]
  refine Text.trimmed_padded spacing.outer.before.blank spacing.outer.after.blank (by simp) ?_ ?_
  · rw [hname]
    rintro c ⟨⟩
    exact (hletters first List.mem_cons_self).1
  · rw [← List.cons_append, ← List.append_assoc, List.getLast?_concat]
    rintro c ⟨⟩
    decide

/-- The same in small letters. The name has no others. -/
theorem map_to_lower_trimmed_call (tokens : Tokens) (function : ColorFunction)
    (spacing : Spacing) (separators : Separators) :
    (Text.trimmed (tokens.call function spacing separators).toList).map Char.toLower =
      (function.name.toList ++ spacing.name.lowered.chars) ++
        '(' :: ((tokens.args spacing separators).map Char.toLower ++ [')']) := by
  obtain ⟨first, rest, hname, _, hletters⟩ := function.name_letters
  have hsame : function.name.toList.map Char.toLower = function.name.toList := by
    rw [hname]
    exact (List.map_congr_left fun c hc => (hletters c hc).2.2).trans (List.map_id _)
  rw [trimmed_call]
  simp only [List.map_append, List.map_cons, hsame]
  rfl

/-- A call is judged by its arguments in small letters. -/
theorem is_valid_call (tokens : Tokens) (function : ColorFunction) (spacing : Spacing)
    (separators : Separators) :
    isValid (tokens.call function spacing separators) =
      isColorOf function.first ((tokens.args spacing separators).map Char.toLower) := by
  obtain ⟨first, rest, hname, hhash, hletters⟩ := function.name_letters
  have hparen : '(' ∉ function.name.toList ++ spacing.name.lowered.chars := by
    rw [hname, List.mem_append, not_or]
    refine ⟨fun hmem => (hletters _ hmem).2.1 rfl, fun hmem => ?_⟩
    cases spacing.name.lowered.blank _ hmem
  have hdropped : Text.dropEndWhile Text.isBlank
      (function.name.toList ++ spacing.name.lowered.chars) = function.name.toList := by
    rw [Text.drop_end_while_append spacing.name.lowered.blank, hname]
    exact Text.drop_end_while_eq_self fun c hc => (hletters c (List.mem_of_getLast? hc)).1
  unfold isValid
  dsimp only
  rw [map_to_lower_trimmed_call]
  generalize (tokens.args spacing separators).map Char.toLower = args
  split
  -- The name begins with a letter, so that the text is no hexadecimal colour.
  next digits hdigits =>
    rw [hname] at hdigits
    exact absurd (List.cons.inj hdigits).1 hhash
  next =>
    rw [Text.cut_first?_eq_some_iff.mpr ⟨rfl, hparen⟩]
    dsimp only
    unfold isCall
    rw [Text.before?_eq_some_iff.mpr rfl]
    dsimp only
    rw [hdropped, String.ofList_toList]
    cases function <;> rfl

/-- A call is a colour exactly if its components make one. -/
theorem is_valid_call_iff (tokens : Tokens) (function : ColorFunction) (spacing : Spacing)
    (separators : Separators) :
    isValid (tokens.call function spacing separators) = true ↔ tokens.AreColor function := by
  have hfirst : function.first tokens.lowered.first.chars = true ↔
      if function.takesHue then SpellsHue tokens.first.chars
      else SpellsAmount tokens.first.chars := by
    unfold ColorFunction.first
    cases function.takesHue with
    | false => exact is_amount_map_to_lower_iff
    | true => exact is_hue_map_to_lower_iff
  rw [is_valid_call, map_to_lower_args, isColorOf, components?_args]
  simp only [Bool.and_eq_true, and_assoc]
  refine and_congr hfirst (and_congr is_amount_map_to_lower_iff
    (and_congr is_amount_map_to_lower_iff ?_))
  unfold Tokens.lowered
  cases tokens.alpha with
  | none => simp
  | some alpha =>
      simp only [Option.map_some, Option.mem_some_iff, forall_eq']
      exact is_amount_map_to_lower_iff

/-- Texts that differ in the case of letters are judged alike. -/
theorem is_valid_of_lower_eq {s t : String} (h : Text.lower s = Text.lower t) :
    isValid s = isValid t := by
  have hletters : s.toList.map Char.toLower = t.toList.map Char.toLower :=
    String.ofList_injective h
  unfold isValid
  rw [← Text.trimmed_map_to_lower, ← Text.trimmed_map_to_lower, hletters]

/-- **The two ways to write a colour function agree.** Whatever the separators and the blanks, a
call is judged by its components: it is a colour exactly if each of them is a finite number of the
right form. The case of letters does not matter, nor does the final letter of the name. -/
theorem color_forms_agree (tokens : Tokens) (function : ColorFunction) :
    (∀ spacing spacing' separators separators',
      isValid (tokens.call function spacing separators) =
        isValid (tokens.call function spacing' separators')) ∧
    (∀ s t, Text.lower s = Text.lower t → isValid s = isValid t) ∧
    (∀ spacing separators, isValid (tokens.call function.twin spacing separators) =
      isValid (tokens.call function spacing separators)) ∧
    ∀ spacing separators, isValid (tokens.call function spacing separators) = true ↔
      tokens.AreColor function := by
  refine ⟨fun spacing spacing' separators separators' => ?_, fun s t => is_valid_of_lower_eq,
    fun spacing separators => ?_, is_valid_call_iff tokens function⟩
  · rw [Bool.eq_iff_iff, is_valid_call_iff, is_valid_call_iff]
  · have htwin : tokens.AreColor function.twin ↔ tokens.AreColor function := by
      cases function <;> rfl
    rw [Bool.eq_iff_iff, is_valid_call_iff, is_valid_call_iff, htwin]

/-- A hue in gradians, with two percentages and an opacity. -/
def gradians : Tokens where
  first := ⟨['1', 'e', '2', 'g', 'r', 'a', 'd'], by decide, by simp; decide⟩
  second := ⟨['5', '0', '%'], by decide, by simp; decide⟩
  third := ⟨['.', '5', '%'], by decide, by simp; decide⟩
  alpha := some ⟨['+', '1'], by decide, by simp; decide⟩

/-- The same blanks in every place of a call. -/
def Spacing.uniform (blanks : Blanks) : Spacing :=
  let margins := ⟨blanks, blanks⟩
  ⟨margins, blanks, margins, margins, margins, margins⟩

/-- Gradians are told from radians between commas, between blanks, and in capitals. -/
theorem color_forms_agree_gradians :
    isValid "hsla(1e2grad,50%,.5%,+1)" = true ∧
    isValid "\thsla\t(\t1e2grad\t \t50%\t\n\t.5%\t/\t+1\t)\t" = true ∧
    Text.lower "HSLA(1E2Grad,50%,.5%,+1)" = Text.lower "hsla(1e2grad,50%,.5%,+1)" ∧
    isValid "HSLA(1E2Grad,50%,.5%,+1)" = true := by
  obtain ⟨hforms, hcase, _⟩ := color_forms_agree gradians .hsla
  have htight : isValid "hsla(1e2grad,50%,.5%,+1)" = true := by decide +kernel
  have hlower : Text.lower "HSLA(1E2Grad,50%,.5%,+1)" = Text.lower "hsla(1e2grad,50%,.5%,+1)" := by
    decide +kernel
  refine ⟨htight, ?_, hlower, (hcase _ _ hlower).trans htight⟩
  have hloose := hforms (.uniform ⟨['\t'], by simp; decide⟩) (.uniform ⟨[], by simp⟩)
    (.blanks ' ' '\n' (by decide) (by decide)) .commas
  exact hloose.trans htight

end Widgetry.Color
