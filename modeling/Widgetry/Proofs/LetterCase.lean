import Mathlib
import Widgetry.Proofs.Decimals
import Widgetry.Proofs.Text

/-!
# The case of letters

Lowering the ASCII capitals of a text touches neither blanks nor digits nor signs. So it goes
together with trimming (`Text.trimmed_map_to_lower`), and a decimal is read as before
(`Decimal.read?_map_to_lower`), since the letter of an exponent may be a capital.
-/

namespace Widgetry

namespace Text

variable {c d : Char} {cs : List Char}

/-- Lowering letters yields nothing but letters where it changes anything. -/
theorem to_lower_eq_iff (hd : d.isAlpha = false) : c.toLower = d ↔ c = d := by
  by_cases hupper : c.isUpper = true
  · have halpha : c.isAlpha = true := by simp [Char.isAlpha, hupper]
    constructor
    · rintro rfl
      rw [Char.isAlpha_toLower_eq_isAlpha, halpha] at hd
      cases hd
    · rintro rfl
      rw [halpha] at hd
      cases hd
  · rw [Char.toLower_eq_of_not_isUpper hupper]

/-- A small letter comes from itself or from its capital. -/
theorem to_lower_eq_iff_of_is_lower (hd : d.isLower = true) :
    c.toLower = d ↔ c = d ∨ c = d.toUpper := by
  constructor
  · rintro rfl
    by_cases hlower : c.isLower = true
    · exact .inl (Char.toLower_eq_of_not_isUpper (Char.not_isUpper_of_isLower hlower)).symm
    · rw [Char.toUpper_toLower_eq_toUpper, Char.toUpper_eq_of_not_isLower hlower]
      exact .inr rfl
  · have hself : d.toLower = d := Char.toLower_eq_of_not_isUpper (Char.not_isUpper_of_isLower hd)
    rintro (rfl | rfl)
    · exact hself
    · rw [Char.toLower_toUpper_eq_toLower, hself]

/-- What is the same for all letters does not depend on their case. -/
theorem apply_to_lower {β : Type} {f : Char → β} {b : β} (hf : ∀ c, c.isAlpha = true → f c = b)
    (c : Char) : f c.toLower = f c := by
  by_cases halpha : c.isAlpha = true
  · rw [hf c halpha, hf c.toLower (by rwa [Char.isAlpha_toLower_eq_isAlpha])]
  · have hupper : ¬c.isUpper = true := fun h => halpha (by simp [Char.isAlpha, h])
    rw [Char.toLower_eq_of_not_isUpper hupper]

/-- The code of a letter. -/
theorem code_of_is_alpha (h : c.isAlpha = true) :
    (65 ≤ c.toNat ∧ c.toNat ≤ 90) ∨ (97 ≤ c.toNat ∧ c.toNat ≤ 122) := by
  simpa [Char.isAlpha, Char.isUpper, Char.isLower, UInt32.le_iff_toNat_le] using h

theorem not_is_blank_of_is_alpha (halpha : c.isAlpha = true) : isBlank c = false := by
  have hcode := code_of_is_alpha halpha
  simp only [isBlank, Bool.or_eq_false_iff, Bool.and_eq_false_imp, decide_eq_true_eq,
    decide_eq_false_iff_not, beq_eq_false_iff_ne]
  omega

theorem is_blank_to_lower (c : Char) : isBlank c.toLower = isBlank c :=
  apply_to_lower (fun _ => not_is_blank_of_is_alpha) c

theorem not_is_digit_of_is_alpha (halpha : c.isAlpha = true) : c.isDigit = false := by
  have hcode := code_of_is_alpha halpha
  simp only [Char.isDigit, UInt32.le_iff_toNat_le, Char.toNat_val, Bool.and_eq_false_imp,
    decide_eq_true_eq, decide_eq_false_iff_not]
  change 48 ≤ c.toNat → ¬c.toNat ≤ 57
  omega

theorem is_digit_to_lower (c : Char) : c.toLower.isDigit = c.isDigit :=
  apply_to_lower (fun _ => not_is_digit_of_is_alpha) c

/-- A trimmed text in small letters is the text in small letters, trimmed. -/
theorem trimmed_map_to_lower (cs : List Char) :
    trimmed (cs.map Char.toLower) = (trimmed cs).map Char.toLower := by
  have hblank : isBlank ∘ Char.toLower = isBlank := funext is_blank_to_lower
  unfold trimmed dropEndWhile
  rw [List.dropWhile_map, hblank, ← List.map_reverse, List.dropWhile_map, hblank, List.map_reverse]

/-- Numerals have no letters. -/
theorem natural?_map_to_lower (cs : List Char) : natural? (cs.map Char.toLower) = natural? cs := by
  have hletter : ∀ c : Char, c.isAlpha = true → digit? c = none := by
    intro c halpha
    unfold digit?
    rw [not_is_digit_of_is_alpha halpha]
    rfl
  have hread : ∀ value, readDigits value (cs.map Char.toLower) = readDigits value cs := by
    induction cs with
    | nil => exact fun _ => rfl
    | cons c cs ih =>
        intro value
        rw [List.map_cons, readDigits, readDigits, apply_to_lower hletter]
        simp only [ih]
  cases cs with
  | nil => rfl
  | cons c cs => exact hread 0

end Text

namespace Decimal

/-- A sign is no letter. -/
theorem sign_map_to_lower (cs : List Char) :
    sign (cs.map Char.toLower) = ((sign cs).1, (sign cs).2.map Char.toLower) := by
  cases cs with
  | nil => rfl
  | cons c cs =>
      by_cases hminus : c = '-'
      · subst hminus
        rfl
      · by_cases hplus : c = '+'
        · subst hplus
          rfl
        · have hself : sign (c :: cs) = (false, c :: cs) :=
            sign_append .absent (by simpa using hplus) (by simpa using hminus)
          rw [hself]
          refine sign_append .absent ?_ ?_
          · simpa [Text.to_lower_eq_iff (show '+'.isAlpha = false by decide)] using hplus
          · simpa [Text.to_lower_eq_iff (show '-'.isAlpha = false by decide)] using hminus

/-- Neither digits nor the point are letters. -/
theorem digits_map_to_lower (cs : List Char) :
    digits (cs.map Char.toLower) = ((digits cs).1.map Char.toLower,
      (digits cs).2.1.map Char.toLower, (digits cs).2.2.map Char.toLower) := by
  have hdigit : Char.isDigit ∘ Char.toLower = Char.isDigit := funext Text.is_digit_to_lower
  unfold digits
  simp only [List.takeWhile_map, List.dropWhile_map, hdigit]
  cases hrest : cs.dropWhile Char.isDigit with
  | nil => rfl
  | cons c rest =>
      by_cases hpoint : c = '.'
      · subst hpoint
        show (_, (rest.map Char.toLower).takeWhile Char.isDigit,
          (rest.map Char.toLower).dropWhile Char.isDigit) = _
        rw [List.takeWhile_map, List.dropWhile_map, hdigit]
        rfl
      · have hlower : c.toLower ≠ '.' := fun h =>
          hpoint ((Text.to_lower_eq_iff (by decide)).mp h)
        rw [List.map_cons]
        split
        next heq => exact absurd (List.cons.inj heq).1 hlower
        next =>
          split
          next heq => exact absurd (List.cons.inj heq).1 hpoint
          next => rfl

/-- The letter of an exponent may be a capital. -/
theorem exponent?_map_to_lower (cs : List Char) :
    exponent? (cs.map Char.toLower) = exponent? cs := by
  cases cs with
  | nil => rfl
  | cons c cs =>
      have hletter : (c.toLower = 'e' ∨ c.toLower = 'E') ↔ (c = 'e' ∨ c = 'E') := by
        have hcapital : c.toLower ≠ 'E' := by
          intro h
          have hupper := Char.isUpper_toLower_eq_false c
          rw [h] at hupper
          cases hupper
        rw [Text.to_lower_eq_iff_of_is_lower (by decide), or_iff_left hcapital]
        rfl
      have htest : (decide (c.toLower = 'e') || decide (c.toLower = 'E')) =
          (decide (c = 'e') || decide (c = 'E')) := by
        rw [← Bool.decide_or, ← Bool.decide_or]
        exact decide_eq_decide.mpr hletter
      rw [List.map_cons, exponent?, exponent?, htest, sign_map_to_lower]
      simp only [Text.natural?_map_to_lower]

/-- A decimal is read alike in small letters and in capitals. -/
theorem read?_map_to_lower (cs : List Char) : read? (cs.map Char.toLower) = read? cs := by
  unfold read?
  rw [sign_map_to_lower]
  dsimp only
  rw [digits_map_to_lower]
  dsimp only
  rw [← List.map_append, Text.natural?_map_to_lower, exponent?_map_to_lower, List.length_map]

end Decimal

end Widgetry
