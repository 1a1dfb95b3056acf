import Widgetry.Datum
import Widgetry.Json.Basic

/-!
# Widget identifiers

A widget is identified by a position below `2 ^ 64` or by a key. References inside a document and
its root identifier are written the same way: as an integer or as a string.
-/

namespace Widgetry

/-- The identifier of a widget record (`WidgetId`). -/
inductive Identifier where
  | index (position : UInt64)
  | key (name : String)
  deriving Repr, DecidableEq, Inhabited

namespace Identifier

/-- The text of an identifier in messages (`WidgetId::fmt`). -/
def text : Identifier → String
  | .index position => Text.decimal position.toNat
  | .key name => name

/-- The identifier that a JSON value writes (`WidgetId::from_value`). -/
def ofJson? : Json → Option Identifier
  | .string s => some (.key s)
  | value => value.word?.map .index

/-- Decode the identifier that a datum writes. -/
def decode : Datum → Except Mismatch Identifier
  | .string s => .ok (.key s)
  | .integer i =>
      match (Json.integer i).word? with
      | some position => .ok (.index position)
      | none => .error (.variant "WidgetId")
  | datum =>
      match Json.ofDatum? datum with
      | some _ => .error (.variant "WidgetId")
      | none => .error .unreadable

/-- The JSON value that writes an identifier. -/
def toJson : Identifier → Json
  | .index position => .integer position.toNat
  | .key name => .string name

end Identifier

end Widgetry
