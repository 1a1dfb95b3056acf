/-!
# Characters written by ASCII ones

A label writes characters other than the ASCII ones by letters and digits. The ASCII characters come
first, with a hyphen after them. Numbers follow, each of which says how far to go on to the next
character and to the place where it is inserted: places are counted through one round of the text
for every code. A number is written with its lowest digit first, in a base that depends on the
numbers before.
-/

namespace Widgetry.Domain.Punycode

/-- The number of digits. -/
def base : Nat := 36

/-- The largest digit that always ends a number. -/
def leastThreshold : Nat := 1

/-- The smallest digit that never ends a number, for any bias. -/
def greatestThreshold : Nat := 26

/-- The first code that is not an ASCII one. -/
def firstCode : Nat := 0x80

/-- The bias before the first number. -/
def firstBias : Nat := 72

/-- Numbers from here on are too large. -/
def limit : Nat := Nat.pow 2 32

/-- The value of a digit: letters first, in either case. -/
def digit? (c : Char) : Option Nat :=
  if c.isDigit then some (c.toNat - 0x30 + 26)
  else if c.isAlpha then some (c.toLower.toNat - 0x61)
  else none

/-- A digit in a given place ends the number if it is below this threshold. -/
def threshold (bias place : Nat) : Nat :=
  if place ≤ bias then leastThreshold
  else if bias + greatestThreshold ≤ place then greatestThreshold
  else place - bias

/-- Divide a distance until it is small, counting the divisions. -/
def shrink : (fuel : Nat) → (distance divisions : Nat) → Nat × Nat
  | 0, distance, divisions => (distance, divisions)
  | fuel + 1, distance, divisions =>
      if 455 < distance then shrink fuel (distance / 35) (divisions + 1) else (distance, divisions)

/-- The bias after a number. -/
def adapt (distance length : Nat) (isFirst : Bool) : Nat :=
  let distance := if isFirst then distance / 700 else distance / 2
  let (distance, divisions) := shrink 32 (distance + distance / length) 0
  base * divisions + base * distance / (distance + 38)

/-- Read a number and add it to `sum`. The answer has the characters that are left. -/
def number? (bias : Nat) :
    List Char → (place weight sum : Nat) → Option (Nat × List Char)
  | [], _, _, _ => none
  | c :: rest, place, weight, sum => do
      let digit ← digit? c
      let sum := sum + digit * weight
      let t := threshold bias place
      if limit ≤ sum then none
      else if digit < t then some (sum, rest)
      else if limit ≤ weight * (base - t) then none
      else number? bias rest (place + base) (weight * (base - t)) sum

/-- The character with a code, if there is one. -/
def char? (code : Nat) : Option Char :=
  if code < 0xD800 ∨ (0xDFFF < code ∧ code < 0x110000) then some (Char.ofNat code) else none

/-- Insert characters into a text as the numbers say that are left. -/
def insertAll : (fuel : Nat) → (numbers text : List Char) → (code place bias : Nat) →
    Option (List Char)
  | _, [], text, _, _, _ => some text
  | 0, _ :: _, _, _, _, _ => none
  | fuel + 1, numbers, text, code, place, bias => do
      let (sum, rest) ← number? bias numbers base 1 place
      let length := text.length + 1
      let code := code + sum / length
      let c ← char? code
      let position := sum % length
      insertAll fuel rest (text.take position ++ c :: text.drop position) code (position + 1)
        (adapt (sum - place) length (place == 0))

/-- Cut a text at its last hyphen, unless that leads the text. -/
def cut (cs : List Char) : List Char × List Char :=
  let numbers := (cs.reverse.takeWhile (· ≠ '-')).reverse
  let before := cs.take (cs.length - numbers.length - 1)
  if before.isEmpty then ([], cs) else (before, numbers)

/-- The text that ASCII characters write. -/
def decode? (cs : List Char) : Option (List Char) :=
  let (text, numbers) := cut cs
  insertAll numbers.length numbers text firstCode 0 firstBias

end Widgetry.Domain.Punycode
