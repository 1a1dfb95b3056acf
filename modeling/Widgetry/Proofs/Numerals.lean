import Widgetry.Text.Basic

/-!
# Numerals

The decimal numeral of a number can be read back, so that different numbers have different
numerals.
-/

namespace Widgetry

/-- Different numbers have different numerals. -/
theorem decimal_injective {m n : Nat} (h : Text.decimal m = Text.decimal n) : m = n := by
  unfold Text.decimal at h
  have hdigits : Nat.toDigits 10 m = Nat.toDigits 10 n := String.ofList_injective h
  calc m = Nat.ofDigitChars 10 (Nat.toDigits 10 m) 0 := Nat.ofDigitChars_ten_toDigits.symm
    _ = Nat.ofDigitChars 10 (Nat.toDigits 10 n) 0 := by rw [hdigits]
    _ = n := Nat.ofDigitChars_ten_toDigits

namespace Text

/-- A run of digits is read as the number that it denotes. -/
theorem read_digits_of_digits {cs : List Char} (value : Nat)
    (hdigits : ∀ c ∈ cs, c.isDigit = true) :
    readDigits value cs = some (Nat.ofDigitChars 10 cs value) := by
  induction cs generalizing value with
  | nil => rfl
  | cons c cs ih =>
      have hc : digit? c = some (c.toNat - '0'.toNat) := by
        unfold digit?
        rw [if_pos (hdigits c List.mem_cons_self)]
      rw [readDigits, hc, Nat.ofDigitChars_cons]
      exact ih _ fun d hd => hdigits d (List.mem_cons_of_mem c hd)

/-- What is read as a run of digits consists of digits. -/
theorem is_digit_of_read_digits {cs : List Char} {value n : Nat}
    (h : readDigits value cs = some n) : ∀ c ∈ cs, c.isDigit = true := by
  induction cs generalizing value with
  | nil => nofun
  | cons c cs ih =>
      simp only [readDigits, Option.bind_eq_bind, Option.bind_eq_some_iff] at h
      obtain ⟨d, hd, hrest⟩ := h
      unfold digit? at hd
      split at hd
      next hdigit => exact List.forall_mem_cons.mpr ⟨hdigit, ih hrest⟩
      next => cases hd

/-- What is read as a natural number consists of digits. -/
theorem is_digit_of_natural? {cs : List Char} {n : Nat} (h : natural? cs = some n) :
    ∀ c ∈ cs, c.isDigit = true := by
  cases cs with
  | nil => cases h
  | cons c cs => exact is_digit_of_read_digits h

/-- A numeral consists of digits. -/
theorem is_digit_of_mem_decimal {n : Nat} {c : Char} (hc : c ∈ (decimal n).toList) :
    c.isDigit = true := by
  unfold decimal at hc
  rw [String.toList_ofList] at hc
  exact Nat.isDigit_of_mem_toDigits (by omega) (by omega) hc

/-- The number of a numeral is read back. -/
theorem natural?_decimal (n : Nat) : natural? (decimal n).toList = some n := by
  have hdigits : ∀ c ∈ (decimal n).toList, c.isDigit = true := fun c => is_digit_of_mem_decimal
  unfold decimal at hdigits ⊢
  rw [String.toList_ofList] at hdigits ⊢
  cases hcs : Nat.toDigits 10 n with
  | nil => exact absurd hcs Nat.toDigits_ne_nil
  | cons c cs =>
      rw [natural?, ← hcs, read_digits_of_digits 0 hdigits, Nat.ofDigitChars_ten_toDigits]
      simp

/-- A numeral does not begin with a zero, unless it is that of zero. -/
theorem head_to_digits {n : Nat} (hn : 0 < n) : (Nat.toDigits 10 n).head? ≠ some '0' := by
  induction n using Nat.strongRecOn with
  | ind n ih =>
      by_cases hlt : n < 10
      · have hall : ∀ m ∈ List.range 10, decide (0 < m → m.digitChar ≠ '0') = true :=
          List.all_eq_true.mp (by decide)
        rw [Nat.toDigits_of_lt_base hlt, List.head?_cons]
        intro hzero
        exact of_decide_eq_true (hall n (List.mem_range.mpr hlt)) hn (Option.some.inj hzero)
      · have hfront := ih (n / 10) (by omega) (by omega)
        rw [Nat.toDigits_of_base_le (by decide) (by omega), List.head?_append]
        cases hhead : (Nat.toDigits 10 (n / 10)).head? with
        | none => exact absurd (List.head?_eq_none_iff.mp hhead) Nat.toDigits_ne_nil
        | some c =>
            rw [hhead] at hfront
            exact hfront

/-- The numeral of a number below `2 ^ 64` is a word numeral. -/
theorem word?_decimal (n : UInt64) : word? (decimal n.toNat).toList = some n := by
  unfold word?
  split
  · -- A numeral begins with a digit, so there is no plus sign to be taken off.
    rename_i rest heq
    have hplus := is_digit_of_mem_decimal (c := '+') (heq ▸ List.mem_cons_self)
    cases hplus
  · dsimp only
    rw [natural?_decimal]
    dsimp only
    rw [dif_pos n.toNat_lt_size, UInt64.ofNatLT_toNat]

end Text

end Widgetry
