/-!
# Characters and texts

The blank characters are the twenty-five of the Unicode property White_Space, and trimming removes
them at both ends. Letter case is folded for the ASCII letters alone. Texts are cut at elements of a
class, where `pieces` keeps empty pieces and `words` drops them. A numeral is a nonempty run of
ASCII digits; a word numeral may also carry one leading plus sign and must denote a number below
`2 ^ 64`.
-/

namespace Widgetry.Text

/-! ## Blanks and letter case -/

/-- The character has the Unicode property White_Space. -/
def isBlank (c : Char) : Bool :=
  (0x09 ≤ c.toNat && c.toNat ≤ 0x0D) || c.toNat == 0x20 || c.toNat == 0x85 || c.toNat == 0xA0 ||
    c.toNat == 0x1680 || (0x2000 ≤ c.toNat && c.toNat ≤ 0x200A) || c.toNat == 0x2028 ||
    c.toNat == 0x2029 || c.toNat == 0x202F || c.toNat == 0x205F || c.toNat == 0x3000

/-- Remove the elements satisfying `p` at the end of a list. -/
def dropEndWhile {α : Type} (p : α → Bool) (cs : List α) : List α :=
  (cs.reverse.dropWhile p).reverse

/-- Remove blanks at both ends. -/
def trimmed (cs : List Char) : List Char :=
  dropEndWhile isBlank (cs.dropWhile isBlank)

/-- Remove blanks at both ends of a text. -/
def trim (s : String) : String :=
  String.ofList (trimmed s.toList)

/-- The text is empty or consists of blanks. -/
def isBlankText (s : String) : Bool :=
  s.toList.all isBlank

/-- Lower the ASCII capital letters of a text. -/
def lower (s : String) : String :=
  String.ofList (s.toList.map Char.toLower)

/-- Two texts are equal up to the case of ASCII letters. -/
def equalFolded (s t : String) : Bool :=
  lower s == lower t

/-! ## Cutting at separators -/

/-- The pieces between the elements satisfying `p`; there is always at least one. -/
def pieces {α : Type} (p : α → Bool) : List α → List (List α)
  | [] => [[]]
  | c :: rest =>
      if p c then [] :: pieces p rest
      else
        match pieces p rest with
        | [] => [[c]]
        | piece :: more => (c :: piece) :: more

/-- The nonempty pieces between the characters satisfying `p`. -/
def words (p : Char → Bool) (cs : List Char) : List (List Char) :=
  (pieces p cs).filter (fun piece => !piece.isEmpty)

/-- The parts before and after the first occurrence of `sep`. -/
def cutFirst? (sep : Char) : List Char → Option (List Char × List Char)
  | [] => none
  | c :: rest =>
      if c = sep then some ([], rest)
      else (cutFirst? sep rest).map fun (before, after) => (c :: before, after)

/-- The parts before and after the last occurrence of `sep`. -/
def cutLast? (sep : Char) (cs : List Char) : Option (List Char × List Char) :=
  (cutFirst? sep cs.reverse).map fun (after, before) => (before.reverse, after.reverse)

/-- The rest of a list after a given beginning. -/
def after? (start : List Char) (cs : List Char) : Option (List Char) :=
  match start, cs with
  | [], cs => some cs
  | _ :: _, [] => none
  | s :: start, c :: cs => if s = c then after? start cs else none

/-- The part of a list before a given end. -/
def before? (tail : List Char) (cs : List Char) : Option (List Char) :=
  (after? tail.reverse cs.reverse).map List.reverse

/-! ## Numerals -/

/-- The value of an ASCII digit. -/
def digit? (c : Char) : Option Nat :=
  if c.isDigit then some (c.toNat - '0'.toNat) else none

/-- The number written by a run of digits, read on from `value`. -/
def readDigits (value : Nat) : List Char → Option Nat
  | [] => some value
  | c :: rest => do
      let d ← digit? c
      readDigits (10 * value + d) rest

/-- The number written by a nonempty run of digits. -/
def natural? : List Char → Option Nat
  | [] => none
  | cs => readDigits 0 cs

/-- The number below `2 ^ 64` written by digits, possibly after one plus sign. Leading zeros are
allowed. -/
def word? (cs : List Char) : Option UInt64 :=
  let digits := match cs with
    | '+' :: rest => rest
    | cs => cs
  match natural? digits with
  | some n => if h : n < UInt64.size then some (UInt64.ofNatLT n h) else none
  | none => none

/-- The decimal numeral of a number, without leading zeros. -/
def decimal (n : Nat) : String :=
  String.ofList (Nat.toDigits 10 n)

/-- The decimal numeral of an integer. -/
def decimalInt (i : Int) : String :=
  if i < 0 then "-" ++ decimal i.natAbs else decimal i.natAbs

/-- The lower-case hexadecimal digit of a value below sixteen. -/
def hexDigit (n : Nat) : Char :=
  if n < 10 then Char.ofNat (0x30 + n) else Char.ofNat (0x61 + n - 10)

end Widgetry.Text
