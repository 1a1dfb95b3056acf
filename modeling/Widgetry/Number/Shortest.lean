import Widgetry.Number.Binary64
import Widgetry.Text.Basic

/-!
# The shortest decimal text of a binary64 number

The digits written are the fewest that read back as the number and, among those, the nearest to
it. `shortest` finds them by exact arithmetic: it tries the decimal grids from coarse to fine and
tests the number's two neighbours on each grid against the interval of reals that round to the
number. A `Layout` says how the digits are arranged.
-/

namespace Widgetry

namespace Binary64

/-- Which of two equally near candidates is written. -/
inductive Tie where
  | toEven
  | up
  deriving Repr, DecidableEq

/-- The reals that round to a positive number, in quarters of its last binary place: the number
itself, the two ends, and whether the ends belong to the interval. -/
structure Interval where
  value : Nat
  low : Nat
  high : Nat
  closed : Bool

/-- The interval of `mantissa * 2 ^ exponent`. The lower neighbour is half as far away at the
beginning of a binade. -/
def interval (mantissa : Nat) (exponent : Int) : Interval :=
  { value := 4 * mantissa
    low := if mantissa = Nat.pow 2 52 ∧ minExponent < exponent then 4 * mantissa - 1
      else 4 * mantissa - 2
    high := 4 * mantissa + 2
    closed := mantissa % 2 = 0 }

/-- A candidate numerator on the grid of size `unit`, compared with an interval whose numbers
carry the factor `scale`. -/
def Interval.contains (i : Interval) (scale unit candidate : Nat) : Bool :=
  let x := candidate * unit
  if i.closed then i.low * scale ≤ x && x ≤ i.high * scale
  else i.low * scale < x && x < i.high * scale

/-- The candidate on the grid of size `unit` that is to be written, if one lies in the interval. -/
def Interval.pick? (i : Interval) (tie : Tie) (scale unit : Nat) : Option Nat :=
  let below := i.value * scale / unit
  let above := below + 1
  -- Zero is never written for another number.
  let lowOk := below != 0 && i.contains scale unit below
  let highOk := i.contains scale unit above
  let gapLow := i.value * scale - below * unit
  let gapHigh := above * unit - i.value * scale
  match lowOk, highOk with
  | false, false => none
  | true, false => some below
  | false, true => some above
  | true, true =>
      if gapLow < gapHigh then some below
      else if gapHigh < gapLow then some above
      else
        match tie with
        | .up => some above
        | .toEven => some (if below % 2 = 0 then below else above)

/-- Search the grids `10 ^ k`, `10 ^ (k - 1)`, … for the first with a candidate. -/
def search (i : Interval) (tie : Tie) (exponent : Int) : (fuel : Nat) → (k : Int) → Nat × Int
  | 0, k => (i.value, k)
  | fuel + 1, k =>
      -- an interval number `n` stands for `n * 2 ^ (exponent - 2)`
      let e := exponent - 2
      let scale := (if 0 ≤ e then Nat.pow 2 e.toNat else 1) *
        (if 0 ≤ k then 1 else Nat.pow 10 (-k).toNat)
      let unit := (if 0 ≤ e then 1 else Nat.pow 2 (-e).toNat) *
        (if 0 ≤ k then Nat.pow 10 k.toNat else 1)
      match i.pick? tie scale unit with
      | some digits => (digits, k)
      | none => search i tie exponent fuel (k - 1)

/-- Remove trailing zeros of a decimal coefficient. -/
def strip : (fuel digits : Nat) → (k : Int) → Nat × Int
  | 0, digits, k => (digits, k)
  | fuel + 1, digits, k =>
      if digits % 10 = 0 && digits != 0 then strip fuel (digits / 10) (k + 1) else (digits, k)

/-- The largest power of ten, as an exponent, that does not exceed a positive number. -/
def magnitude (mantissa : Nat) (exponent : Int) : Int :=
  let (num, den) := ratio mantissa exponent
  if den ≤ num then ((Nat.toDigits 10 (num / den)).length : Int) - 1
  else
    let guess : Int := ((Nat.toDigits 10 num).length : Int) - ((Nat.toDigits 10 den).length : Int)
    if den ≤ num * Nat.pow 10 (-guess).toNat then guess else guess - 1

/-- The coefficient and decimal exponent of the shortest decimal that reads back as the positive
number `mantissa * 2 ^ exponent`. -/
def shortest (tie : Tie) (mantissa : Nat) (exponent : Int) : Nat × Int :=
  let (digits, k) := search (interval mantissa exponent) tie exponent 20
    (magnitude mantissa exponent)
  strip 20 digits k

/-- How shortest digits are arranged. -/
structure Layout where
  tie : Tie
  /-- The exponents of the leading digit that are written without an exponent part; `none` for
  all of them. -/
  positional : Option (Int × Int)
  /-- Integral numbers end in `.0`. -/
  point : Bool

/-- Digits written positionally; `k` is the exponent of the last digit. -/
def positionalText (layout : Layout) (digits : List Char) (k : Int) : List Char :=
  if 0 ≤ k then
    digits ++ List.replicate k.toNat '0' ++ (if layout.point then ['.', '0'] else [])
  else
    let places := (-k).toNat
    if places < digits.length then
      digits.take (digits.length - places) ++ '.' :: digits.drop (digits.length - places)
    else '0' :: '.' :: List.replicate (places - digits.length) '0' ++ digits

/-- Digits written with an exponent part, whose sign is always written. -/
def scientificText (digits : List Char) (e : Int) : List Char :=
  let fraction := digits.drop 1
  digits.take 1 ++ (if fraction.isEmpty then [] else '.' :: fraction) ++
    'e' :: (if e < 0 then '-' else '+') :: Nat.toDigits 10 e.natAbs

/-- The text of a number in a layout. -/
def text (layout : Layout) : Binary64 → String
  | .nan => "NaN"
  | .infinite negative => if negative then "-inf" else "inf"
  | .finite negative mantissa exponent =>
      let body :=
        if mantissa = 0 then '0' :: (if layout.point then ['.', '0'] else [])
        else
          let (coefficient, k) := shortest layout.tie mantissa exponent
          let digits := Nat.toDigits 10 coefficient
          let e := k + digits.length - 1
          let positional := match layout.positional with
            | none => true
            | some (low, high) => low ≤ e && e ≤ high
          if positional then positionalText layout digits k else scientificText digits e
      String.ofList (if negative then '-' :: body else body)

/-- The layout of numbers in JSON: positional from the exponent -5 to 15, integral numbers ending
in `.0`, a tie going to the even digit. -/
def jsonLayout : Layout := ⟨.toEven, some (-5, 15), true⟩

/-- The layout of plain numbers: positional, integral numbers without a point, a tie going up. -/
def plainLayout : Layout := ⟨.up, none, false⟩

/-- The layout of plain numbers that always show a point. -/
def pointLayout : Layout := ⟨.up, none, true⟩

end Binary64

end Widgetry
