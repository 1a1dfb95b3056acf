import Widgetry.Number.Binary64
import Widgetry.Text.Basic

/-!
# Decimal numerals with fraction and exponent

`Decimal.read?` reads an optional sign, digits with an optional point, and an optional exponent.
At least one digit must stand beside the point. `Decimal.toBinary64` is the binary64 number
nearest to a decimal.
-/

namespace Widgetry

/-- The number `coefficient * 10 ^ exponent` with a sign. -/
structure Decimal where
  negative : Bool
  coefficient : Nat
  exponent : Int
  deriving Repr, DecidableEq

namespace Decimal

/-- Split off an optional sign. -/
def sign : List Char → Bool × List Char
  | '-' :: rest => (true, rest)
  | '+' :: rest => (false, rest)
  | cs => (false, cs)

/-- The exponent part: nothing, or a letter `e`, an optional sign and digits up to the end. -/
def exponent? : List Char → Option Int
  | [] => some 0
  | c :: rest =>
      if c = 'e' || c = 'E' then
        let (negative, digits) := sign rest
        (Text.natural? digits).map fun n => if negative then -(n : Int) else n
      else none

/-- The digits before the point, those after it, and what follows them. -/
def digits (cs : List Char) : List Char × List Char × List Char :=
  let whole := cs.takeWhile Char.isDigit
  match cs.dropWhile Char.isDigit with
  | '.' :: rest => (whole, rest.takeWhile Char.isDigit, rest.dropWhile Char.isDigit)
  | rest => (whole, [], rest)

/-- Read a whole text as a decimal. -/
def read? (cs : List Char) : Option Decimal :=
  let (negative, cs) := sign cs
  let (whole, fraction, rest) := digits cs
  match Text.natural? (whole ++ fraction), exponent? rest with
  | some coefficient, some exponent => some ⟨negative, coefficient, exponent - fraction.length⟩
  | _, _ => none

/-- The nearest binary64 number. Decimals beyond every finite number or below half of the smallest
are recognised by their length, so that no large power is computed. -/
def toBinary64 (x : Decimal) : Binary64 :=
  let size := (Nat.toDigits 10 x.coefficient).length + x.exponent
  if x.coefficient = 0 then Binary64.zero x.negative
  else if 310 < size then .infinite x.negative
  else if size < -330 then Binary64.zero x.negative
  else if 0 ≤ x.exponent then
    Binary64.round x.negative (x.coefficient * Nat.pow 10 x.exponent.toNat) 1
  else Binary64.round x.negative x.coefficient (Nat.pow 10 (-x.exponent).toNat)

end Decimal

end Widgetry
