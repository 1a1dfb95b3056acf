import Widgetry.Json.Basic
import Widgetry.Number.Decimal
import Widgetry.Text.Utf8

/-!
# Reading JSON text

`scan?` checks the grammar of a whole text and gives its data. Parts that are grammatical but have
no value become `Datum.malformed`: numbers beyond the binary64 range, strings with unpaired
surrogates or bytes that are no text, and containers nested more than `maxDepth` deep.

A numeral without fraction and exponent that fits into 64 bits is an integer. Any other numeral is
read as a significand below `2 ^ 64` and a power of ten: the nearest number to the significand is
multiplied or divided once by the nearest number to the power, and each step rounds.
-/

namespace Widgetry.Json

/-- A text as read from bytes; `none` stands for a byte that belongs to no character. -/
abbrev Input := List (Option Char)

/-- The number of containers that may be open at once. -/
def maxDepth : Nat := 127

/-- Drop the blanks that may stand between tokens. -/
def skipBlanks : Input → Input
  | some c :: rest =>
      if c = ' ' || c = '\n' || c = '\t' || c = '\r' then skipBlanks rest else some c :: rest
  | input => input

/-- Read the characters of a fixed word. -/
def expect? : List Char → Input → Option Input
  | [], input => some input
  | c :: word, some d :: input => if c = d then expect? word input else none
  | _ :: _, _ => none

/-! ## Strings -/

/-- One element of a string literal: a character, a byte that is no text, or a unit of sixteen
bits written in hexadecimal. -/
inductive Piece where
  | char (c : Char)
  | stray
  | unit (n : Nat)

/-- The value of a hexadecimal digit. -/
def hexValue? (c : Char) : Option Nat :=
  if c.isDigit then some (c.toNat - '0'.toNat)
  else if 'a' ≤ c && c ≤ 'f' then some (c.toNat - 'a'.toNat + 10)
  else if 'A' ≤ c && c ≤ 'F' then some (c.toNat - 'A'.toNat + 10)
  else none

/-- The value of four hexadecimal digits. -/
def hex4? (a b c d : Char) : Option Nat := do
  let a ← hexValue? a
  let b ← hexValue? b
  let c ← hexValue? c
  let d ← hexValue? d
  some (((a * 16 + b) * 16 + c) * 16 + d)

/-- The character that a one-letter escape stands for. -/
def escape? (c : Char) : Option Char :=
  if c = '"' then some '"'
  else if c = '\\' then some '\\'
  else if c = '/' then some '/'
  else if c = 'b' then some (Char.ofNat 0x08)
  else if c = 'f' then some (Char.ofNat 0x0C)
  else if c = 'n' then some '\n'
  else if c = 'r' then some '\r'
  else if c = 't' then some '\t'
  else none

/-- Read the elements of a string literal up to and including its closing quote. -/
def pieces? : Input → Option (List Piece × Input)
  | some '"' :: rest => some ([], rest)
  | some '\\' :: some 'u' :: some a :: some b :: some c :: some d :: rest => do
      let unit ← hex4? a b c d
      let (pieces, rest) ← pieces? rest
      some (.unit unit :: pieces, rest)
  | some '\\' :: some e :: rest => do
      let c ← escape? e
      let (pieces, rest) ← pieces? rest
      some (.char c :: pieces, rest)
  | some '\\' :: _ => none
  | some c :: rest =>
      if c.toNat < 0x20 then none
      else do
        let (pieces, rest) ← pieces? rest
        some (.char c :: pieces, rest)
  | none :: rest => do
      let (pieces, rest) ← pieces? rest
      some (.stray :: pieces, rest)
  | [] => none

/-- The unit is the first half of a surrogate pair. -/
def isHigh (n : Nat) : Bool := 0xD800 ≤ n && n ≤ 0xDBFF

/-- The unit is the second half of a surrogate pair. -/
def isLow (n : Nat) : Bool := 0xDC00 ≤ n && n ≤ 0xDFFF

/-- The text of a string literal. Surrogates must come in pairs. -/
def assemble? : List Piece → Option (List Char)
  | [] => some []
  | .char c :: rest => (assemble? rest).map (c :: ·)
  | .stray :: _ => none
  | .unit n :: .unit m :: rest =>
      if isHigh n then
        if isLow m then
          (assemble? rest).map (Char.ofNat (0x10000 + (n - 0xD800) * 0x400 + (m - 0xDC00)) :: ·)
        else none
      else if isLow n then none
      else (assemble? (.unit m :: rest)).map (Char.ofNat n :: ·)
  | .unit n :: rest =>
      if isHigh n || isLow n then none else (assemble? rest).map (Char.ofNat n :: ·)

/-! ## Numbers -/

/-- The digits at the head of a text. -/
def takeDigits : Input → List Char × Input
  | some c :: rest =>
      if c.isDigit then
        let (digits, rest) := takeDigits rest
        (c :: digits, rest)
      else ([], some c :: rest)
  | input => ([], input)

/-- The parts of a numeral. -/
structure Numeral where
  negative : Bool
  whole : List Char
  fraction : Option (List Char)
  exponent : Option (Bool × List Char)

/-- Read the digits before the point: a single zero, or digits that do not start with one. -/
def whole? (input : Input) : Option (List Char × Input) :=
  match takeDigits input with
  | ([], _) => none
  | ('0' :: _ :: _, _) => none
  | (digits, rest) => some (digits, rest)

/-- Read an optional fraction: a point and at least one digit. -/
def fraction? : Input → Option (Option (List Char) × Input)
  | some '.' :: rest =>
      match takeDigits rest with
      | ([], _) => none
      | (digits, rest) => some (some digits, rest)
  | input => some (none, input)

/-- Read an optional exponent: a letter `e`, an optional sign and at least one digit. -/
def exponent? (input : Input) : Option (Option (Bool × List Char) × Input) :=
  match input with
  | some c :: rest =>
      if c = 'e' || c = 'E' then
        let (negative, rest) := match rest with
          | some '-' :: rest => (true, rest)
          | some '+' :: rest => (false, rest)
          | rest => (false, rest)
        match takeDigits rest with
        | ([], _) => none
        | (digits, rest) => some (some (negative, digits), rest)
      else some (none, input)
  | _ => some (none, input)

/-- Read a numeral. -/
def numeral? (input : Input) : Option (Numeral × Input) := do
  let (negative, input) := match input with
    | some '-' :: rest => (true, rest)
    | input => (false, input)
  let (whole, input) ← whole? input
  let (fraction, input) ← fraction? input
  let (exponent, input) ← exponent? input
  some (⟨negative, whole, fraction, exponent⟩, input)

/-- Take digits into a significand as long as it stays below `2 ^ 64`. The second number counts
the digits taken, the third those left over. -/
def significand : (value taken : Nat) → List Char → Nat × Nat × Nat
  | value, taken, [] => (value, taken, 0)
  | value, taken, c :: rest =>
      let value' := 10 * value + (c.toNat - '0'.toNat)
      if value' < Nat.pow 2 64 then significand value' (taken + 1) rest
      else (value, taken, rest.length + 1)

/-- The magnitude of the number nearest to a power of ten, from `10 ^ 0` to `10 ^ 308`. -/
def powerOfTen (k : Nat) : Nat × Nat :=
  match Binary64.round false (Nat.pow 10 k) 1 with
  | .finite _ m e => Binary64.ratio m e
  | _ => (1, 1)

/-- Scale a number by a power of ten, in steps of at most `10 ^ 308`; `none` if it grows beyond
every finite number. -/
def scale? (negative : Bool) : (fuel mantissa : Nat) → (exponent k : Int) → Option Binary64
  | 0, _, _, _ => some (Binary64.zero negative)
  | fuel + 1, mantissa, exponent, k =>
      if mantissa = 0 then some (Binary64.zero negative)
      else if 308 < k then none
      else if 0 ≤ k then
        match Binary64.mul negative (Binary64.ratio mantissa exponent) (powerOfTen k.toNat) with
        | .finite sign m e => some (.finite sign m e)
        | _ => none
      else if -308 ≤ k then
        some (Binary64.div negative (Binary64.ratio mantissa exponent) (powerOfTen (-k).toNat))
      else
        match Binary64.div negative (Binary64.ratio mantissa exponent) (powerOfTen 308) with
        | .finite _ m e => scale? negative fuel m e (k + 308)
        | _ => none

/-- The number of a significand and a power of ten. -/
def scaled? (negative : Bool) (value : Nat) (k : Int) : Option Binary64 :=
  match Binary64.round false value 1 with
  | .finite _ m e => scale? negative 4 m e k
  | _ => none

/-- The number that a run of digits denotes. -/
def digitsValue (digits : List Char) : Nat :=
  digits.foldl (fun value c => 10 * value + (c.toNat - '0'.toNat)) 0

/-- The datum that a numeral denotes. -/
def Numeral.datum (n : Numeral) : Datum :=
  let (value, _, dropped) := significand 0 0 n.whole
  match n.fraction, n.exponent with
  | none, none =>
      if dropped = 0 && !n.negative then .integer value
      else if dropped = 0 && 0 < value && value ≤ Nat.pow 2 63 then .integer (-(value : Int))
      else ((scaled? n.negative value dropped).map Datum.float).getD .malformed
  | fraction, exponent =>
      let (value, taken, _) := significand value 0 (fraction.getD [])
      let shift : Int := match exponent with
        | none => 0
        | some (negative, digits) =>
            if negative then -(digitsValue digits : Int) else digitsValue digits
      ((scaled? n.negative value (dropped - taken + shift)).map Datum.float).getD .malformed

/-! ## Values -/

mutual

/-- Read a value; `depth` containers may still be opened, and `fuel` bounds the recursion. -/
def value? : (fuel depth : Nat) → Input → Option (Datum × Input)
  | 0, _, _ => none
  | fuel + 1, depth, input =>
      match skipBlanks input with
      | some '"' :: rest => do
          let (pieces, rest) ← pieces? rest
          some (((assemble? pieces).map fun cs => .string (String.ofList cs)).getD .malformed, rest)
      | some '[' :: rest => do
          let (items, rest) ← match skipBlanks rest with
            | some ']' :: rest => some ([], rest)
            | rest => items? fuel (depth - 1) rest
          -- A list that is nested too deep is worthless, but its grammar counts.
          some (if depth = 0 then .malformed else .list items, rest)
      | some '{' :: rest => do
          let (entries, rest) ← match skipBlanks rest with
            | some '}' :: rest => some (some [], rest)
            | rest => entries? fuel (depth - 1) rest
          match entries with
          | some entries => some (if depth = 0 then .malformed else .table entries, rest)
          | none => some (.malformed, rest)
      | some 't' :: rest => (expect? ['r', 'u', 'e'] rest).map (.bool true, ·)
      | some 'f' :: rest => (expect? ['a', 'l', 's', 'e'] rest).map (.bool false, ·)
      | some 'n' :: rest => (expect? ['u', 'l', 'l'] rest).map (.null, ·)
      | input => (numeral? input).map fun (n, rest) => (n.datum, rest)

/-- Read the items of a list up to and including its closing bracket. -/
def items? : (fuel depth : Nat) → Input → Option (List Datum × Input)
  | 0, _, _ => none
  | fuel + 1, depth, input => do
      let (item, rest) ← value? fuel depth input
      match skipBlanks rest with
      | some ',' :: rest => do
          let (items, rest) ← items? fuel depth rest
          some (item :: items, rest)
      | some ']' :: rest => some ([item], rest)
      | _ => none

/-- Read the entries of a table up to and including its closing brace. A key that is no text makes
the table worthless, which is `none` in the first component. -/
def entries? : (fuel depth : Nat) → Input → Option (Option (List (String × Datum)) × Input)
  | 0, _, _ => none
  | fuel + 1, depth, input =>
      match skipBlanks input with
      | some '"' :: rest => do
          let (pieces, rest) ← pieces? rest
          match skipBlanks rest with
          | some ':' :: rest => do
              let (item, rest) ← value? fuel depth rest
              let (more, rest) ← match skipBlanks rest with
                | some ',' :: rest => entries? fuel depth rest
                | some '}' :: rest => some (some [], rest)
                | _ => none
              let key := (assemble? pieces).map String.ofList
              some (key.bind fun key => more.map ((key, item) :: ·), rest)
          | _ => none
      | _ => none

end

/-- The data of a whole text, if it is grammatical. -/
def scan? (input : Input) : Option Datum := do
  let (datum, rest) ← value? (2 * input.length + 2) maxDepth input
  match skipBlanks rest with
  | [] => some datum
  | _ => none

/-- The data of a list of bytes. -/
def scanBytes? (bytes : Text.Bytes) : Option Datum :=
  scan? (Text.Utf8.lenient bytes)

/-- The data of a text. -/
def scanText? (s : String) : Option Datum :=
  scan? (s.toList.map some)

/-- The value of a text. -/
def read? (s : String) : Option Json :=
  (scanText? s).bind ofDatum?

/-! ## Records -/

/-- Decode a record from the data of a text; `none` stands for an ungrammatical text. If it does not
decode, a text that is no JSON value as a whole is reported as unreadable, whatever else is wrong
with it. -/
def decodeScanned {ε ρ : Type} (unreadable : ε) (datum : Option Datum)
    (decode : Datum → Except ε ρ) : Except ε ρ :=
  match datum with
  | none => .error unreadable
  | some datum =>
      match decode datum with
      | .ok record => .ok record
      | .error fault => .error (if (ofDatum? datum).isSome then fault else unreadable)

end Widgetry.Json
