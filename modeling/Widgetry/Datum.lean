import Widgetry.Number.Shortest
import Widgetry.Text.Quoted

/-!
# Data as read from a text

A `Datum` is what a reader makes of a text: scalars, lists and tables whose entries stand in the
order of the text, repeated keys included. A part that is grammatical but stands for no value (a
number out of range, a lone surrogate, too deep a nesting) is `malformed`; it does no harm where
nobody looks at it.

A record is decoded from a table of its fields or from the list of their values. The fields of a
table are decoded in the order of the text, a field may occur once, and unknown fields are passed
over unread. Required fields that are absent are reported afterwards, in the order of their
declaration. `Mismatch` lists what can be wrong.
-/

namespace Widgetry

/-- Self-describing data in the order of its text. -/
inductive Datum where
  | null
  | bool (value : Bool)
  | integer (value : Int)
  | float (value : Binary64)
  | string (value : String)
  | list (items : List Datum)
  | table (entries : List (String × Datum))
  | malformed
  deriving Repr, Inhabited

/-! ## Faults -/

/-- Why data does not decode. -/
inductive Mismatch where
  | type (found : Datum) (expected : String)
  | value (found : Int) (expected : String)
  | length (found : Nat) (expected : String)
  | missing (field : String)
  | duplicate (field : String)
  | variant (union : String)
  | trailing
  | unreadable
  deriving Repr, Inhabited

/-- What differs between the formats that data is read from: the text of numbers in messages, the
fault of a list with more values than its record has fields, and the name of the format. -/
structure Dialect where
  name : String
  floatText : Binary64 → String
  excess : Nat → Option Mismatch

namespace Dialect

/-- Data of a JSON text. -/
def jsonText : Dialect :=
  { name := "JSON"
    floatText := Binary64.text Binary64.jsonLayout
    excess := fun _ => some .trailing }

/-- Data of a JSON value. -/
def jsonValue : Dialect :=
  { jsonText with excess := fun n => some (.length n "fewer elements in array") }

/-- Data of a TOML text. -/
def toml : Dialect :=
  { name := "TOML"
    floatText := Binary64.text Binary64.pointLayout
    excess := fun _ => none }

/-- What a datum is, in the words of a message. -/
def describe (dialect : Dialect) : Datum → String
  | .null => "null"
  | .bool b => if b then "boolean `true`" else "boolean `false`"
  | .integer i => "integer `" ++ Text.decimalInt i ++ "`"
  | .float x => "floating point `" ++ dialect.floatText x ++ "`"
  | .string s => "string " ++ Text.quoted s
  | .list _ => "sequence"
  | .table _ => "map"
  | .malformed => "malformed text"

end Dialect

/-- The text of a mismatch. -/
def Mismatch.message (dialect : Dialect) : Mismatch → String
  | .type found expected =>
      "invalid type: " ++ dialect.describe found ++ ", expected " ++ expected
  | .value found expected =>
      "invalid value: integer `" ++ Text.decimalInt found ++ "`, expected " ++ expected
  | .length found expected =>
      "invalid length " ++ Text.decimal found ++ ", expected " ++ expected
  | .missing field => "missing field `" ++ field ++ "`"
  | .duplicate field => "duplicate field `" ++ field ++ "`"
  | .variant union => "data did not match any variant of untagged enum " ++ union
  | .trailing => "trailing characters"
  | .unreadable => "invalid " ++ dialect.name

namespace Datum

/-- The fault of finding a datum where something else is expected. -/
def unexpected (found : Datum) (expected : String) : Mismatch :=
  match found with
  | .malformed => .unreadable
  | found => .type found expected

/-- Decode a text. -/
def decodeText : Datum → Except Mismatch String
  | .string s => .ok s
  | found => .error (found.unexpected "a string")

/-- Decode a natural number below `limit`, named `name` in messages. -/
def decodeNatural (limit : Nat) (name : String) : Datum → Except Mismatch Nat
  | .integer i => if 0 ≤ i ∧ i < limit then .ok i.toNat else .error (.value i name)
  | found => .error (found.unexpected name)

/-- Decode a list of texts. -/
def decodeTexts : Datum → Except Mismatch (List String)
  | .list items => items.mapM decodeText
  | found => .error (found.unexpected "a sequence")

end Datum

/-- A field of a record of type `ρ`: its name, whether it must be present, and how its value is
stored. -/
structure Field (ρ : Type) where
  name : String
  required : Bool
  store : Datum → ρ → Except Mismatch ρ

namespace Field

variable {ρ : Type}

/-- Store the entries of a table in order. `seen` holds the names of the fields met so far. -/
def storeEntries (fields : List (Field ρ)) :
    List (String × Datum) → (seen : List String) → ρ → Except Mismatch (List String × ρ)
  | [], seen, record => .ok (seen, record)
  | (key, value) :: rest, seen, record =>
      match fields.find? fun field => field.name = key with
      | none => storeEntries fields rest seen record
      | some field =>
          if key ∈ seen then .error (.duplicate key)
          else do
            let record ← field.store value record
            storeEntries fields rest (key :: seen) record

/-- Store the values of a list in the order of the fields. `taken` counts those stored so far. -/
def storeItems (expected : String) :
    List (Field ρ) → List Datum → (taken : Nat) → ρ → Except Mismatch (List Datum × ρ)
  | [], items, _, record => .ok (items, record)
  | field :: fields, [], taken, record =>
      if field.required then .error (.length taken expected)
      else storeItems expected fields [] (taken + 1) record
  | field :: fields, item :: items, taken, record => do
      let record ← field.store item record
      storeItems expected fields items (taken + 1) record

/-- Decode a record called `name`; `start` holds the values of absent fields. -/
def decode (dialect : Dialect) (name : String) (fields : List (Field ρ)) (start : ρ) :
    Datum → Except Mismatch ρ
  | .table entries => do
      let (seen, record) ← storeEntries fields entries [] start
      match fields.find? fun field => field.required && !seen.contains field.name with
      | some field => .error (.missing field.name)
      | none => .ok record
  | .list items => do
      let expected := "struct " ++ name ++ " with " ++ Text.decimal fields.length ++ " elements"
      let (rest, record) ← storeItems expected fields items 0 start
      match if rest.isEmpty then none else dialect.excess items.length with
      | some fault => .error fault
      | none => .ok record
  | found => .error (found.unexpected ("struct " ++ name))

end Field

end Widgetry
