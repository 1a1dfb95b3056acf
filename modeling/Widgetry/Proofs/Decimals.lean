import Widgetry.Number.Decimal
import Widgetry.Proofs.Numerals

/-!
# How decimals are written

`Decimal.Spells` is the grammar of decimals: an optional sign, digits with an optional point among
them, and an optional exponent. `read?_eq_some_iff` shows that reading accepts exactly these texts
and finds the number that they spell.
-/

namespace Widgetry.Decimal

/-- The texts of a sign. A number without one is not negative. -/
inductive SpellsSign : List Char → Bool → Prop where
  | absent : SpellsSign [] false
  | plus : SpellsSign ['+'] false
  | minus : SpellsSign ['-'] true

/-- The texts of digits with an optional point, and the digits before and after the point. -/
inductive SpellsDigits : List Char → List Char → List Char → Prop where
  | whole (whole) : (∀ c ∈ whole, c.isDigit = true) → SpellsDigits whole whole []
  | pointed (whole fraction) :
      (∀ c ∈ whole, c.isDigit = true) → (∀ c ∈ fraction, c.isDigit = true) →
      SpellsDigits (whole ++ '.' :: fraction) whole fraction

/-- The texts of an exponent. Without one the exponent is zero. -/
inductive SpellsExponent : List Char → Int → Prop where
  | absent : SpellsExponent [] 0
  | written (letter sign digits negative n) :
      letter = 'e' ∨ letter = 'E' → SpellsSign sign negative → Text.natural? digits = some n →
      SpellsExponent (letter :: (sign ++ digits)) (if negative then -(n : Int) else n)

/-- The texts of a decimal. At least one digit stands before or after the point. -/
inductive Spells : List Char → Decimal → Prop where
  | mk (sign digits exponent whole fraction negative coefficient power) :
      SpellsSign sign negative → SpellsDigits digits whole fraction →
      Text.natural? (whole ++ fraction) = some coefficient → SpellsExponent exponent power →
      Spells (sign ++ (digits ++ exponent)) ⟨negative, coefficient, power - fraction.length⟩

/-- The characters of decimals beside the digits. -/
def marks : List Char := ['+', '-', '.', 'e', 'E']

variable {cs rest : List Char}

/-! ## What is read is written -/

/-- A text begins with the sign that is split off. -/
theorem exists_sign (cs : List Char) :
    ∃ text, SpellsSign text (sign cs).1 ∧ cs = text ++ (sign cs).2 := by
  unfold sign
  split
  · exact ⟨['-'], .minus, rfl⟩
  · exact ⟨['+'], .plus, rfl⟩
  · exact ⟨[], .absent, rfl⟩

/-- A text begins with the digits that are split off. -/
theorem exists_digits (cs : List Char) :
    ∃ text, SpellsDigits text (digits cs).1 (digits cs).2.1 ∧ cs = text ++ (digits cs).2.2 := by
  have htaken : ∀ cs : List Char, ∀ c ∈ cs.takeWhile Char.isDigit, c.isDigit = true := fun cs =>
    List.all_eq_true.mp List.all_takeWhile
  have hsplit := cs.takeWhile_append_dropWhile (p := Char.isDigit)
  unfold digits
  dsimp only
  split
  next tail hpoint =>
    refine ⟨_, .pointed _ (tail.takeWhile Char.isDigit) (htaken cs) (htaken tail), ?_⟩
    rw [List.append_assoc, List.cons_append, List.takeWhile_append_dropWhile, ← hpoint, hsplit]
  next => exact ⟨_, .whole _ (htaken cs), hsplit.symm⟩

/-- What is read as an exponent is written as one. -/
theorem spells_exponent_of_exponent? {e : Int} (h : exponent? cs = some e) :
    SpellsExponent cs e := by
  cases cs with
  | nil =>
      cases h
      exact .absent
  | cons letter cs =>
      rw [exponent?] at h
      split at h
      next hletter =>
        obtain ⟨text, htext, hcs⟩ := exists_sign cs
        generalize sign cs = signed at h htext hcs
        obtain ⟨_, hnumber, rfl⟩ := Option.map_eq_some_iff.mp h
        obtain ⟨n, hn, hcast⟩ := Option.bind_eq_some_iff.mp hnumber
        cases hcast
        rw [hcs]
        exact .written letter text signed.2 signed.1 n (by simpa using hletter) htext hn
      next => cases h

/-! ## What is written is read -/

/-- A sign is split off from a text that begins with none. -/
theorem sign_append {text : List Char} {negative : Bool} (h : SpellsSign text negative)
    (hplus : cs.head? ≠ some '+') (hminus : cs.head? ≠ some '-') :
    sign (text ++ cs) = (negative, cs) := by
  cases h with
  | plus | minus => rfl
  | absent =>
      rw [List.nil_append]
      unfold sign
      split
      next => exact absurd rfl hminus
      next => exact absurd rfl hplus
      next => rfl

/-- A run of digits ends where something else begins. -/
theorem take_digits {whole : List Char} (hwhole : ∀ c ∈ whole, c.isDigit = true)
    (hrest : ∀ c ∈ rest.head?, c.isDigit = false) :
    (whole ++ rest).takeWhile Char.isDigit = whole ∧
      (whole ++ rest).dropWhile Char.isDigit = rest := by
  rw [List.takeWhile_append_of_pos hwhole, List.dropWhile_append_of_pos hwhole]
  cases rest with
  | nil => simp
  | cons c rest => simp [hrest c rfl]

/-- Digits are split off from a text that begins with neither a digit nor a point. -/
theorem digits_append {text whole fraction : List Char} (h : SpellsDigits text whole fraction)
    (hrest : ∀ c ∈ rest.head?, c.isDigit = false) (hpoint : rest.head? ≠ some '.') :
    digits (text ++ rest) = (whole, fraction, rest) := by
  unfold digits
  cases h with
  | whole _ hwhole =>
      obtain ⟨htake, hdrop⟩ := take_digits hwhole hrest
      dsimp only
      rw [htake, hdrop]
      split
      next => exact absurd rfl hpoint
      next => rfl
  | pointed _ _ hwhole hfraction =>
      have hdot : ∀ c ∈ ('.' :: (fraction ++ rest)).head?, c.isDigit = false := by
        rintro c ⟨⟩
        rfl
      obtain ⟨htake, hdrop⟩ := take_digits hwhole hdot
      obtain ⟨htake', hdrop'⟩ := take_digits hfraction hrest
      rw [List.append_assoc, List.cons_append, htake, hdrop]
      show (whole, (fraction ++ rest).takeWhile Char.isDigit,
        (fraction ++ rest).dropWhile Char.isDigit) = (whole, fraction, rest)
      rw [htake', hdrop']

/-- A written exponent is read. -/
theorem exponent?_of_spells {e : Int} (h : SpellsExponent cs e) : exponent? cs = some e := by
  cases h with
  | absent => rfl
  | written letter sign digits negative n hletter hsign hdigits =>
      have hfirst : ∀ c, digits.head? = some c → c.isDigit = true := fun c hc =>
        Text.is_digit_of_natural? hdigits c (List.mem_of_head? hc)
      rw [exponent?, if_pos (by simpa using hletter),
        sign_append hsign (fun hc => by simpa using hfirst _ hc)
          (fun hc => by simpa using hfirst _ hc)]
      dsimp only
      rw [hdigits]
      rfl

/-- An exponent begins with a letter. -/
theorem head_of_spells_exponent {e : Int} (h : SpellsExponent cs e) :
    ∀ c ∈ cs.head?, c = 'e' ∨ c = 'E' := by
  cases h with
  | absent => simp
  | written letter _ _ _ _ hletter =>
      intro c hc
      cases hc
      exact hletter

/-- The digits of a decimal begin with a digit or the point. -/
theorem head_of_spells_digits {text whole fraction : List Char} {n : Nat}
    (h : SpellsDigits text whole fraction) (hn : Text.natural? (whole ++ fraction) = some n) :
    ∃ c, text.head? = some c ∧ (c.isDigit = true ∨ c = '.') := by
  cases h with
  | whole _ hwhole =>
      cases text with
      | nil => cases hn
      | cons c text => exact ⟨c, rfl, .inl (hwhole c List.mem_cons_self)⟩
  | pointed _ _ hwhole _ =>
      cases whole with
      | nil => exact ⟨'.', rfl, .inr rfl⟩
      | cons c whole => exact ⟨c, rfl, .inl (hwhole c List.mem_cons_self)⟩

/-- Reading accepts exactly the texts that spell a decimal. -/
theorem read?_eq_some_iff {x : Decimal} : read? cs = some x ↔ Spells cs x := by
  constructor
  · intro h
    unfold read? at h
    dsimp only at h
    split at h
    next coefficient power hcoefficient hpower =>
      cases h
      obtain ⟨sign, hsign, hcs⟩ := exists_sign cs
      obtain ⟨digits, hdigits, hrest⟩ := exists_digits (Decimal.sign cs).2
      have hexponent := spells_exponent_of_exponent? hpower
      have hspells := Spells.mk _ _ _ _ _ _ _ _ hsign hdigits hcoefficient hexponent
      rwa [← hrest, ← hcs] at hspells
    next => cases h
  · rintro ⟨sign, digits, exponent, whole, fraction, negative, coefficient, power, hsign, hdigits,
      hcoefficient, hexponent⟩
    obtain ⟨first, hfirst, hkind⟩ := head_of_spells_digits hdigits hcoefficient
    have hhead : (digits ++ exponent).head? = some first := by
      rw [List.head?_append, hfirst]
      rfl
    have hletter := head_of_spells_exponent hexponent
    -- The exponent begins with its letter, so that neither digits nor a point run into it.
    have hend : ∀ c ∈ exponent.head?, c.isDigit = false := by
      intro c hc
      rcases hletter c hc with rfl | rfl <;> rfl
    have hpoint : exponent.head? ≠ some '.' := by
      intro hc
      simpa using hletter '.' hc
    have hsigned : Decimal.sign (sign ++ (digits ++ exponent)) =
        (negative, digits ++ exponent) := by
      refine sign_append hsign ?_ ?_ <;>
      · rw [hhead]
        rintro ⟨⟩
        simp at hkind
    unfold read?
    rw [hsigned]
    dsimp only
    rw [digits_append hdigits hend hpoint]
    dsimp only
    rw [hcoefficient, exponent?_of_spells hexponent]

/-! ## Characters -/

/-- A sign consists of marks. -/
theorem mem_of_spells_sign {negative : Bool} (h : SpellsSign cs negative) :
    ∀ c ∈ cs, c.isDigit = true ∨ c ∈ marks := by
  cases h with
  | absent => simp
  | plus | minus => simp [marks]

/-- A decimal consists of digits and marks. -/
theorem mem_of_spells {x : Decimal} (h : Spells cs x) :
    ∀ c ∈ cs, c.isDigit = true ∨ c ∈ marks := by
  obtain ⟨sign, digits, exponent, whole, fraction, _, _, _, hsign, hdigits, _, hexponent⟩ := h
  rw [List.forall_mem_append, List.forall_mem_append]
  refine ⟨mem_of_spells_sign hsign, ?_, ?_⟩
  · cases hdigits with
    | whole _ hwhole => exact fun c hc => .inl (hwhole c hc)
    | pointed _ _ hwhole hfraction =>
        rw [List.forall_mem_append, List.forall_mem_cons]
        exact ⟨fun c hc => .inl (hwhole c hc), .inr (by decide),
          fun c hc => .inl (hfraction c hc)⟩
  · cases hexponent with
    | absent => simp
    | written letter sign digits negative n hletter hsign hn =>
        rw [List.forall_mem_cons, List.forall_mem_append]
        refine ⟨.inr ?_, mem_of_spells_sign hsign, fun c hc => .inl ?_⟩
        · rcases hletter with rfl | rfl <;> decide
        · exact Text.is_digit_of_natural? hn c hc

end Widgetry.Decimal
