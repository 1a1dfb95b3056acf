import Widgetry.Datum
import Widgetry.Table

/-!
# JSON values

An object lists its members in increasing order of their keys, each key once. `Json.ofDatum?`
brings data into this form: of equal keys the last one wins, and nothing malformed is accepted.
-/

namespace Widgetry

/-- A JSON value. Integers and floats are told apart, as their texts are. -/
inductive Json where
  | null
  | bool (value : Bool)
  | integer (value : Int)
  | float (value : Binary64)
  | string (value : String)
  | array (items : List Json)
  | object (members : List (String × Json))
  deriving Repr, Inhabited, BEq

namespace Json

mutual

/-- The value of well-formed data. -/
def ofDatum? : Datum → Option Json
  | .null => some .null
  | .bool b => some (.bool b)
  | .integer i => some (.integer i)
  | .float x => some (.float x)
  | .string s => some (.string s)
  | .list items => (ofItems? items).map .array
  | .table entries => (ofEntries? entries).map fun members => .object (Table.ofList members)
  | .malformed => none

/-- The values of well-formed items. -/
def ofItems? : List Datum → Option (List Json)
  | [] => some []
  | item :: rest => do
      let item ← ofDatum? item
      let rest ← ofItems? rest
      some (item :: rest)

/-- The values of well-formed entries, in the order of the text. -/
def ofEntries? : List (String × Datum) → Option (List (String × Json))
  | [] => some []
  | (key, item) :: rest => do
      let item ← ofDatum? item
      let rest ← ofEntries? rest
      some ((key, item) :: rest)

end

mutual

/-- A value as data, its members in order. -/
def toDatum : Json → Datum
  | .null => .null
  | .bool b => .bool b
  | .integer i => .integer i
  | .float x => .float x
  | .string s => .string s
  | .array items => .list (toItems items)
  | .object members => .table (toEntries members)

/-- Values as data. -/
def toItems : List Json → List Datum
  | [] => []
  | item :: rest => toDatum item :: toItems rest

/-- Members as data. -/
def toEntries : List (String × Json) → List (String × Datum)
  | [] => []
  | (key, item) :: rest => (key, toDatum item) :: toEntries rest

end

/-- The member of an object. -/
def field? (key : String) : Json → Option Json
  | .object members => Table.get? key members
  | _ => none

/-- The value is `null`. -/
def isNull : Json → Bool
  | .null => true
  | _ => false

/-- The non-negative integer below `2 ^ 64` that a value is. -/
def word? : Json → Option UInt64
  | .integer i =>
      if h : i.toNat < UInt64.size then
        if 0 ≤ i then some (UInt64.ofNatLT i.toNat h) else none
      else none
  | _ => none

/-- The binary64 number nearest to a numeric value. -/
def binary64? : Json → Option Binary64
  | .integer i => some (Binary64.ofInt i)
  | .float x => some x
  | _ => none

end Json

end Widgetry
