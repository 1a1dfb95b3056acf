import Widgetry.Domain
import Widgetry.Text.Basic
import Widgetry.Text.Encodings

/-!
# Hosts in URLs

The host of a URL is an address in brackets, a dotted address of numbers, or a domain name. The
hosts of the special schemes are read as names, after their percent escapes are resolved; those of
other schemes only have to be free of certain characters.
-/

namespace Widgetry.Host

/-- The value of a digit below `base`. -/
def digit? (base : Nat) (c : Char) : Option Nat :=
  let value :=
    if c.isDigit then c.toNat - 0x30
    else if c.isAlpha then c.toLower.toNat - 0x61 + 10
    else base
  if value < base then some value else none

/-- The number that digits write. -/
def numeral? (base : Nat) (cs : List Char) : Option Nat :=
  cs.foldlM (fun value c => (digit? base c).map (base * value + ·)) 0

/-- The number in one part of a dotted address: hexadecimal after `0x`, octal after `0`. -/
def part? : List Char → Option Nat
  | [] => none
  | '0' :: 'x' :: rest => numeral? 16 rest
  | '0' :: 'X' :: rest => numeral? 16 rest
  | '0' :: c :: rest => numeral? 8 (c :: rest)
  | cs => numeral? 10 cs

/-- The parts of a host between its dots, without an empty one at the end. -/
def parts (host : List Char) : List (List Char) :=
  let all := Text.pieces (· == '.') host
  if 1 < all.length && all.getLast? == some [] then all.dropLast else all

/-- The last part of the host is a number, so that the host has to be an address. -/
def endsInNumber (host : List Char) : Bool :=
  match (parts host).getLast? with
  | none => false
  | some last => (!last.isEmpty && last.all Char.isDigit) || (part? last).isSome

/-- The host is a dotted address: at most four numbers, of which the last one fills the bytes that
the others leave. -/
def isDotted (host : List Char) : Bool :=
  match (parts host).mapM part? with
  | none => false
  | some numbers =>
      numbers.length ≤ 4 && numbers.dropLast.all (· ≤ 255) &&
        numbers.getLast?.any (· < Nat.pow 256 (5 - numbers.length))

/-- The text is a byte in decimal without leading zeros. -/
def isByte (cs : List Char) : Bool :=
  !cs.isEmpty && (cs.length == 1 || cs.head? != some '0') && (numeral? 10 cs).any (· ≤ 255)

/-- The number of 16-bit units that pieces of a bracketed address write. The last piece may be four
bytes with dots between them, which count two units. -/
def units? : List (List Char) → Option Nat
  | [] => some 0
  | piece :: rest =>
      if !piece.isEmpty && piece.length ≤ 4 && (numeral? 16 piece).isSome then
        (units? rest).map (· + 1)
      else if rest.isEmpty && (Text.pieces (· == '.') piece).length == 4 &&
          (Text.pieces (· == '.') piece).all isByte then some 2
      else none

/-- The units of the pieces between colons; no text has no pieces. -/
def sideUnits? (cs : List Char) : Option Nat :=
  if cs.isEmpty then some 0 else units? (Text.pieces (· == ':') cs)

/-- Cut a text at its first double colon. -/
def cutGap? : List Char → Option (List Char × List Char)
  | ':' :: ':' :: rest => some ([], rest)
  | c :: rest => (cutGap? rest).map fun (before, after) => (c :: before, after)
  | [] => none

/-- The text between brackets is an address of eight units, of which a double colon may leave out
one or more. -/
def isBracketed (cs : List Char) : Bool :=
  match cutGap? cs with
  | none => sideUnits? cs == some 8
  | some (before, after) =>
      !before.contains '.' &&
        (match sideUnits? before, sideUnits? after with
          | some m, some n => m + n ≤ 7
          | _, _ => false)

/-- The character may not stand in a host that is no domain name. -/
def isForbidden (c : Char) : Bool :=
  "\x00\t\n\r #/:<>?@[\\]^|".toList.contains c

/-- The name that a host with percent escapes stands for: an address in brackets, a dotted address,
or a domain name. -/
def name? (host : List Char) : Option (List Char) :=
  match host with
  | '[' :: rest =>
      if rest.getLast? == some ']' && isBracketed rest.dropLast then some host else none
  | host => do
      let written ← (Text.Utf8.decode (Text.Percent.decode host)).toOption
      let name ← Domain.read? written.toList
      if endsInNumber name && !isDotted name then none else some name

/-- The host is in order. The hosts of the schemes of the web, which are special, are names; those
of other schemes are not looked into. -/
def isValid (special : Bool) (host : List Char) : Bool :=
  match host with
  | '[' :: rest => rest.getLast? == some ']' && isBracketed rest.dropLast
  | host => if special then (name? host).isSome else !host.any isForbidden

end Widgetry.Host
