import Widgetry.Text.Basic

/-!
# Ranges of characters

Classes of characters are written as texts: the codes of a range in hexadecimal, as `first-last` or
as a single code, and a blank between two ranges. The ranges of a class are in ascending order and
do not overlap, so that a character is looked up by halving. A range may carry a value, which
follows an equals sign.
-/

namespace Widgetry.Text

/-- A range of characters with a value. Of a range with step `n`, every `n`-th character counts. -/
structure Range (α : Type) where
  first : Nat
  last : Nat
  step : Nat
  value : α
  deriving Inhabited

/-- Ranges in ascending order. -/
abbrev Ranges (α : Type) := Array (Range α)

namespace Range

/-- The value of a hexadecimal digit. -/
def digit (c : Char) : Nat :=
  if c.isDigit then c.toNat - 0x30 else c.toNat - 0x61 + 10

/-- The number that hexadecimal digits write. -/
def numeral (cs : List Char) : Nat :=
  cs.foldl (fun n c => 16 * n + digit c) 0

/-- The range of two codes with a mark between them, or of one code. A colon as the mark stands for
every second character. -/
def ofCodes {α : Type} (cs : List Char) (value : α) : Range α :=
  match cutFirst? '-' cs with
  | some (first, last) => ⟨numeral first, numeral last, 1, value⟩
  | none =>
      match cutFirst? ':' cs with
      | some (first, last) => ⟨numeral first, numeral last, 2, value⟩
      | none => ⟨numeral cs, numeral cs, 1, value⟩

/-- The character counts. -/
def contains {α : Type} (range : Range α) (code : Nat) : Bool :=
  range.first ≤ code && code ≤ range.last && (code - range.first) % range.step == 0

end Range

namespace Ranges

/-- Read the ranges of a class. -/
def ofLines (lines : List String) : Ranges Unit :=
  (lines.flatMap fun line => (words (· == ' ') line.toList).map fun word =>
    Range.ofCodes word ()).toArray

/-- Read ranges with values, which are lists of codes with commas between them. -/
def ofValuedLines (lines : List String) : Ranges (List Nat) :=
  (lines.flatMap fun line => (words (· == ' ') line.toList).map fun word =>
    match cutFirst? '=' word with
    | some (codes, value) => Range.ofCodes codes ((pieces (· == ',') value).map Range.numeral)
    | none => Range.ofCodes word []).toArray

/-- The number of ranges that start at or before a code, which is at least `low` and at most
`low + width`. -/
def countFrom {α : Type} (ranges : Ranges α) (code : Nat) :
    (fuel low width : Nat) → Nat
  | 0, low, _ => low
  | fuel + 1, low, width =>
      let half := (width + 1) / 2
      if width = 0 then low
      else
        match ranges[low + half - 1]? with
        | none => low
        | some range =>
            if range.first ≤ code then countFrom ranges code fuel (low + half) (width - half)
            else countFrom ranges code fuel low (half - 1)

/-- The range that a character is in. -/
def find? {α : Type} (ranges : Ranges α) (c : Char) : Option (Range α) :=
  match ranges.countFrom c.toNat ranges.size 0 ranges.size with
  | 0 => none
  | count + 1 => ranges[count]?.filter fun range => range.contains c.toNat

/-- A character is in one of the ranges. -/
def contains {α : Type} (ranges : Ranges α) (c : Char) : Bool :=
  (ranges.find? c).isSome

end Ranges

end Widgetry.Text
