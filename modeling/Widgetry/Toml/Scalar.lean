import Widgetry.Toml.Lexical

/-!
# Numbers and dates in TOML

Integers of 64 bits in four bases, binary64 numbers, and dates and times, which are checked but
carry no value here. Underscores may stand between digits.
-/

namespace Widgetry.Toml

/-- Read digits, each of which may follow an underscore. -/
def moreDigits? (isDigit : Char → Bool) : List Char → Option (List Char × List Char)
  | '_' :: c :: rest =>
      if isDigit c then do
        let (digits, rest) ← moreDigits? isDigit rest
        some (c :: digits, rest)
      else none
  | ['_'] => none
  | c :: rest =>
      if isDigit c then do
        let (digits, rest) ← moreDigits? isDigit rest
        some (c :: digits, rest)
      else some ([], c :: rest)
  | [] => some ([], [])

/-- Read at least one digit. -/
def digits? (isDigit : Char → Bool) : List Char → Option (List Char × List Char)
  | c :: rest =>
      if isDigit c then do
        let (digits, rest) ← moreDigits? isDigit rest
        some (c :: digits, rest)
      else none
  | [] => none

/-- Read the whole part of a decimal number: a single zero, or digits that start with none. -/
def whole? : List Char → Option (List Char × List Char)
  | '0' :: rest => some (['0'], rest)
  | cs => digits? Char.isDigit cs

/-- The number that digits denote in a base. -/
def valueOf (base : Nat) (digits : List Char) : Nat :=
  digits.foldl (fun n c => base * n + (Json.hexValue? c).getD 0) 0

/-- The integer fits into 64 bits with a sign. -/
def integer? (value : Int) : Option Datum :=
  if -Int.pow 2 63 ≤ value && value < Int.pow 2 63 then some (.integer value) else none

/-- Read the digits of an integer in another base. -/
def based? (base : Nat) (isDigit : Char → Bool) (cs : List Char) : Option (Datum × List Char) := do
  let (digits, rest) ← digits? isDigit cs
  let datum ← integer? (valueOf base digits)
  some (datum, rest)

/-- Read a fraction after its point. -/
def fraction? (cs : List Char) : Option (List Char × List Char) :=
  digits? Char.isDigit cs

/-- Read an optional exponent. -/
def exponent? : List Char → Option (Option Int × List Char)
  | c :: rest =>
      if c = 'e' || c = 'E' then do
        let (negative, rest) := Decimal.sign rest
        let (digits, rest) ← digits? Char.isDigit rest
        let n : Int := valueOf 10 digits
        some (some (if negative then -n else n), rest)
      else some (none, c :: rest)
  | [] => some (none, [])

/-- The number of a decimal numeral, unless it grows beyond every positive number. -/
def float? (negative : Bool) (digits fraction : List Char) (exponent : Int) : Option Datum :=
  let x := (Decimal.mk negative (valueOf 10 (digits ++ fraction))
    (exponent - fraction.length)).toBinary64
  match x with
  | .infinite false => none
  | x => some (.float x)

/-- Read a decimal number after its sign. -/
def decimal? (negative : Bool) (cs : List Char) : Option (Datum × List Char) := do
  let (whole, rest) ← whole? cs
  match rest with
  | '.' :: rest => do
      let (fraction, rest) ← fraction? rest
      let (exponent, rest) ← exponent? rest
      let datum ← float? negative whole fraction (exponent.getD 0)
      some (datum, rest)
  | rest =>
      match ← exponent? rest with
      | (some exponent, rest) => do
          let datum ← float? negative whole [] exponent
          some (datum, rest)
      | (none, rest) => do
          let n : Int := valueOf 10 whole
          let datum ← integer? (if negative then -n else n)
          some (datum, rest)

/-- Read a number. -/
def number? : List Char → Option (Datum × List Char)
  | '0' :: 'x' :: rest => based? 16 (fun c => (Json.hexValue? c).isSome) rest
  | '0' :: 'o' :: rest => based? 8 (fun c => '0' ≤ c && c ≤ '7') rest
  | '0' :: 'b' :: rest => based? 2 (fun c => c = '0' || c = '1') rest
  | cs =>
      match Decimal.sign cs with
      | (negative, 'i' :: 'n' :: 'f' :: rest) => some (.float (.infinite negative), rest)
      | (_, 'n' :: 'a' :: 'n' :: rest) => some (.float .nan, rest)
      | (negative, rest) => decimal? negative rest

/-! ## Dates and times -/

/-- Read exactly two digits as a number between two bounds. -/
def twoDigits? (least greatest : Nat) : List Char → Option (Nat × List Char)
  | a :: b :: rest =>
      if a.isDigit && b.isDigit then
        let n := valueOf 10 [a, b]
        if least ≤ n && n ≤ greatest then some (n, rest) else none
      else none
  | _ => none

/-- Read a given character. -/
def char? (c : Char) : List Char → Option (List Char)
  | d :: rest => if c = d then some rest else none
  | [] => none

/-- The number of days of a month. -/
def daysOf (year month : Nat) : Nat :=
  if month = 2 then
    if year % 4 = 0 && (year % 100 ≠ 0 || year % 400 = 0) then 29 else 28
  else if month = 4 || month = 6 || month = 9 || month = 11 then 30
  else 31

/-- Read a date after its year and the dash. -/
def monthAndDay? (year : Nat) (cs : List Char) : Option (List Char) := do
  let (month, rest) ← twoDigits? 1 12 cs
  let rest ← char? '-' rest
  let (_, rest) ← twoDigits? 1 (daysOf year month) rest
  some rest

/-- Drop the fraction of a second. -/
def skipSecondFraction : List Char → List Char
  | '.' :: c :: rest => if c.isDigit then rest.dropWhile Char.isDigit else '.' :: c :: rest
  | cs => cs

/-- Read a time after its hour and the colon. -/
def minuteAndSecond? (cs : List Char) : Option (List Char) := do
  let (_, rest) ← twoDigits? 0 59 cs
  let rest ← char? ':' rest
  let (_, rest) ← twoDigits? 0 60 rest
  some (skipSecondFraction rest)

/-- Read an optional offset from universal time. -/
def offset? : List Char → Option (List Char)
  | c :: rest =>
      if c = 'Z' || c = 'z' then some rest
      else if c = '+' || c = '-' then do
        let (_, rest) ← twoDigits? 0 23 rest
        let rest ← char? ':' rest
        let (_, rest) ← twoDigits? 0 59 rest
        some rest
      else some (c :: rest)
  | [] => some []

/-- The text starts with an hour and a colon. -/
def startsTime (cs : List Char) : Bool :=
  match twoDigits? 0 23 cs with
  | some (_, ':' :: _) => true
  | _ => false

/-- Read an optional time after a date. -/
def timeAfterDate? : List Char → Option (List Char)
  | c :: rest =>
      if (c = 'T' || c = 't' || c = ' ') && startsTime rest then do
        let rest ← minuteAndSecond? (rest.drop 3)
        offset? rest
      else some (c :: rest)
  | [] => some []

/-- The text starts with a year and a dash. -/
def startsDate : List Char → Bool
  | a :: b :: c :: d :: '-' :: _ => a.isDigit && b.isDigit && c.isDigit && d.isDigit
  | _ => false

/-- Read a number, a date or a time. A date has no value of its own and reads as a table without
entries. -/
def numberOrDate? (cs : List Char) : Option (Datum × List Char) :=
  if startsDate cs then do
    let rest ← monthAndDay? (valueOf 10 (cs.take 4)) (cs.drop 5)
    let rest ← timeAfterDate? rest
    some (.table [], rest)
  else if startsTime cs then do
    let rest ← minuteAndSecond? (cs.drop 3)
    some (.table [], rest)
  else number? cs

end Widgetry.Toml
