import Widgetry.Text.Utf8

/-!
# Bytes in texts

A percent escape is a percent sign with two hexadecimal digits, and stands for one byte. A percent
sign without two digits stands for itself. In base64, bytes are written in groups of three as four
characters of the standard alphabet, and a short last group is padded with equals signs.
-/

namespace Widgetry.Text

namespace Percent

/-- The value of a hexadecimal digit. -/
def digit? (b : UInt8) : Option Nat :=
  if 0x30 ≤ b && b ≤ 0x39 then some (b.toNat - 0x30)
  else if 0x41 ≤ b && b ≤ 0x46 then some (b.toNat - 0x41 + 10)
  else if 0x61 ≤ b && b ≤ 0x66 then some (b.toNat - 0x61 + 10)
  else none

/-- Resolve the escapes in a list of bytes. -/
def decodeBytes : Bytes → Bytes
  | 0x25 :: a :: b :: rest =>
      match digit? a, digit? b with
      | some x, some y => (16 * x + y).toUInt8 :: decodeBytes rest
      | _, _ => 0x25 :: decodeBytes (a :: b :: rest)
  | b :: rest => b :: decodeBytes rest
  | [] => []

/-- The bytes that a text with escapes stands for. -/
def decode (cs : List Char) : Bytes :=
  decodeBytes (Utf8.encode (String.ofList cs))

end Percent

namespace Base64

/-- The character for a value below 64. -/
def symbol (n : Nat) : Char :=
  if n < 26 then Char.ofNat ('A'.toNat + n)
  else if n < 52 then Char.ofNat ('a'.toNat + (n - 26))
  else if n < 62 then Char.ofNat ('0'.toNat + (n - 52))
  else if n = 62 then '+'
  else '/'

/-- Write bytes as base64 characters. -/
def encodeList : Bytes → List Char
  | [] => []
  | [a] => [symbol (a.toNat / 4), symbol (a.toNat % 4 * 16), '=', '=']
  | [a, b] =>
      [symbol (a.toNat / 4), symbol (a.toNat % 4 * 16 + b.toNat / 16), symbol (b.toNat % 16 * 4),
        '=']
  | a :: b :: c :: rest =>
      symbol (a.toNat / 4) :: symbol (a.toNat % 4 * 16 + b.toNat / 16) ::
        symbol (b.toNat % 16 * 4 + c.toNat / 64) :: symbol (c.toNat % 64) :: encodeList rest

/-- Write bytes in base64. -/
def encode (bytes : Bytes) : String :=
  String.ofList (encodeList bytes)

end Base64

end Widgetry.Text
