import Widgetry.Json.Basic
import Widgetry.Text.Basic

/-!
# Compact JSON text

No blanks are written. In strings the quote, the backslash and the control characters are escaped,
the common ones by a letter and the others by four hexadecimal digits.
-/

namespace Widgetry.Json

/-- A character inside a string literal. -/
def escapeChar (c : Char) : List Char :=
  if c = '"' then ['\\', '"']
  else if c = '\\' then ['\\', '\\']
  else if c = '\n' then ['\\', 'n']
  else if c = '\r' then ['\\', 'r']
  else if c = '\t' then ['\\', 't']
  else if c.toNat = 0x08 then ['\\', 'b']
  else if c.toNat = 0x0C then ['\\', 'f']
  else if c.toNat < 0x20 then
    ['\\', 'u', '0', '0', Text.hexDigit (c.toNat / 16), Text.hexDigit (c.toNat % 16)]
  else [c]

/-- A string literal. -/
def quote (s : String) : List Char :=
  '"' :: s.toList.flatMap escapeChar ++ ['"']

/-- The text of a number. -/
def floatText (x : Binary64) : String :=
  x.text Binary64.jsonLayout

mutual

/-- The characters of a value. -/
def chars : Json → List Char
  | .null => ['n', 'u', 'l', 'l']
  | .bool true => ['t', 'r', 'u', 'e']
  | .bool false => ['f', 'a', 'l', 's', 'e']
  | .integer i => (Text.decimalInt i).toList
  | .float x => (floatText x).toList
  | .string s => quote s
  | .array [] => ['[', ']']
  | .array (item :: rest) => '[' :: chars item ++ charsItems rest
  | .object [] => ['{', '}']
  | .object ((key, item) :: rest) => '{' :: quote key ++ ':' :: chars item ++ charsMembers rest

/-- The items after the first one, and the closing bracket. -/
def charsItems : List Json → List Char
  | [] => [']']
  | item :: rest => ',' :: chars item ++ charsItems rest

/-- The members after the first one, and the closing brace. -/
def charsMembers : List (String × Json) → List Char
  | [] => ['}']
  | (key, item) :: rest => ',' :: quote key ++ ':' :: chars item ++ charsMembers rest

end

/-- The compact text of a value. -/
def compact (v : Json) : String :=
  String.ofList (chars v)

end Widgetry.Json
