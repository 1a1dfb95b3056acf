/-!
# Binary64 numbers

A finite number is a sign, a mantissa and a binary exponent, and stands for
`mantissa * 2 ^ exponent`. `round` gives the number nearest to a ratio of naturals, a tie going to
the even mantissa. All arithmetic here is exact arithmetic on naturals followed by one `round`.
-/

namespace Widgetry

/-- A binary64 number. Finite ones have either a mantissa of 53 bits and an exponent from -1074
to 971, or a shorter mantissa and the exponent -1074. -/
inductive Binary64 where
  | finite (negative : Bool) (mantissa : Nat) (exponent : Int)
  | infinite (negative : Bool)
  | nan
  deriving Repr, DecidableEq

namespace Binary64

/-- The exponent of the smallest positive number. -/
def minExponent : Int := -1074

/-- The largest exponent of a finite number. -/
def maxExponent : Int := 971

/-- The zero with the given sign. -/
def zero (negative : Bool) : Binary64 :=
  .finite negative 0 minExponent

/-- The ratio `num / (den * 2 ^ e)` as two naturals. -/
def shifted (num den : Nat) (e : Int) : Nat × Nat :=
  if 0 ≤ e then (num, den * Nat.pow 2 e.toNat) else (num * Nat.pow 2 (-e).toNat, den)

/-- The least exponent, from `minExponent` on, for which the mantissa of `num / den` has at most
53 bits. -/
def exponentFor (num den : Nat) : Int :=
  let guess : Int := (Nat.log2 num : Int) - (Nat.log2 den : Int) - 53
  let (n, d) := shifted num den guess
  max (if Nat.pow 2 53 ≤ n / d then guess + 1 else guess) minExponent

/-- The quotient rounded to the nearest natural, a tie going to the even one. -/
def roundDiv (num den : Nat) : Nat :=
  let q := num / den
  let r := num % den
  if den < 2 * r || (2 * r == den && q % 2 == 1) then q + 1 else q

/-- The number nearest to `num / den`; `den` is positive. Too large a ratio gives infinity. -/
def round (negative : Bool) (num den : Nat) : Binary64 :=
  if num = 0 then zero negative
  else
    let e := exponentFor num den
    let (n, d) := shifted num den e
    let m := roundDiv n d
    let (m, e) := if m = Nat.pow 2 53 then (Nat.pow 2 52, e + 1) else (m, e)
    if maxExponent < e then .infinite negative else .finite negative m e

/-- The number nearest to an integer. -/
def ofInt (i : Int) : Binary64 :=
  round (i < 0) i.natAbs 1

/-- The magnitude of a finite number as a ratio of naturals. -/
def ratio (mantissa : Nat) (exponent : Int) : Nat × Nat :=
  if 0 ≤ exponent then (mantissa * Nat.pow 2 exponent.toNat, 1)
  else (mantissa, Nat.pow 2 (-exponent).toNat)

/-- The number is neither infinite nor a NaN. -/
def isFinite : Binary64 → Bool
  | .finite .. => true
  | _ => false

/-- The number is finite and greater than zero. -/
def isPositive : Binary64 → Bool
  | .finite negative mantissa _ => !negative && mantissa != 0
  | _ => false

/-- The product of two finite magnitudes, with the given sign. -/
def mul (negative : Bool) (x y : Nat × Nat) : Binary64 :=
  round negative (x.1 * y.1) (x.2 * y.2)

/-- The quotient of two finite magnitudes, with the given sign. -/
def div (negative : Bool) (x y : Nat × Nat) : Binary64 :=
  round negative (x.1 * y.2) (x.2 * y.1)

end Binary64

end Widgetry
