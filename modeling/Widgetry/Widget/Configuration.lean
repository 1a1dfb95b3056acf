import Widgetry.Document.Basic
import Widgetry.Error
import Widgetry.Json.Printer

/-!
# Configurations

The fields of one record, read on behalf of a widget. Every failure names the widget and the path
of the field, such as `items[2].name`. A null field counts as absent, except for references, where
null stands for no widget.
-/

namespace Widgetry

/-- The fields of a record, or of an object nested in one, with the widget that reads them and the
path that leads to them. -/
structure Configuration where
  widget : String
  path : Option String
  fields : Fields
  deriving Inhabited

/-- The member of a choice written as its name, or as an object from its name to null. -/
def Json.choice? {α : Type} (ofName? : String → Option α) : Json → Option α
  | .string name => ofName? name
  | .object [(name, .null)] => ofName? name
  | _ => none

/-- The path of an array item. -/
def itemPath (field : String) (position : Nat) : String :=
  field ++ "[" ++ Text.decimal position ++ "]"

namespace Configuration

/-- The fields of a whole record (`Configuration::new`). -/
def ofFields (widget : String) (fields : Fields) : Configuration :=
  ⟨widget, none, fields⟩

/-- The path of a field (`Configuration::field_name`). -/
def fieldPath (c : Configuration) (field : String) : String :=
  match c.path with
  | some path => path ++ "." ++ field
  | none => field

/-- An error at a field (`Configuration::error`). -/
def error (c : Configuration) (field : String) (reason : Reason) : ConfigError :=
  ⟨c.widget, c.fieldPath field, reason⟩

/-- The field is present, be it null (`Configuration::has`). -/
def has (c : Configuration) (field : String) : Bool :=
  Table.contains field c.fields

/-- The value of a field that is present and not null (`Configuration::get`). -/
def get? (c : Configuration) (field : String) : Option Json :=
  (Table.get? field c.fields).filter fun value => !value.isNull

/-- The value of a field that must be present and not null (`Configuration::require`). -/
def require (c : Configuration) (field : String) : Except ConfigError Json :=
  match c.get? field with
  | some value => .ok value
  | none => .error (c.error field .required)

/-- The text of a label: a string or a number. -/
def labelText? : Json → Option String
  | .string s => some s
  | .integer i => some (Text.decimalInt i)
  | .float x => some (Json.floatText x)
  | _ => none

/-- The text of a value: a label or a truth value. -/
def plainText? : Json → Option String
  | .bool b => some (if b then "true" else "false")
  | value => labelText? value

/-- A field that is a string or a number, as text (`Configuration::label`). -/
def label (c : Configuration) (field : String) : Except ConfigError String := do
  match labelText? (← c.require field) with
  | some text => .ok text
  | none => .error (c.error field .notLabel)

/-- A field that is a string, a number or a truth value, as text (`Configuration::text`). -/
def text (c : Configuration) (field : String) : Except ConfigError String := do
  match plainText? (← c.require field) with
  | some text => .ok text
  | none => .error (c.error field .notText)

/-- A field that refers to a widget (`Configuration::reference`). It must be present; null refers to
no widget. -/
def reference (c : Configuration) (field : String) : Except ConfigError (Option Identifier) :=
  match Table.get? field c.fields with
  | none => .error (c.error field .required)
  | some value =>
      if value.isNull then .ok none
      else
        match Identifier.ofJson? value with
        | some id => .ok (some id)
        | none => .error (c.error field .notReference)

/-- A field that may be absent and is read by `read?` otherwise (`Configuration::optional`). -/
def optional {α : Type} (c : Configuration) (field : String) (read? : Json → Option α)
    (expected : String) : Except ConfigError (Option α) :=
  match c.get? field with
  | none => .ok none
  | some value =>
      match read? value with
      | some x => .ok (some x)
      | none => .error (c.error field (.expected expected))

/-- A field that is an array with at least one item (`Configuration::array`). -/
def array (c : Configuration) (field : String) : Except ConfigError (List Json) := do
  match ← c.require field with
  | .array [] => .error (c.error field .empty)
  | .array items => .ok items
  | _ => .error (c.error field .notArray)

/-- The items of an array as numbers greater than zero, the first of them at `position`. -/
def positiveItems (c : Configuration) (field : String) :
    (position : Nat) → List Json → Except ConfigError (List Binary64)
  | _, [] => .ok []
  | position, item :: items =>
      match item.binary64?.filter Binary64.isPositive with
      | some x => do
          let rest ← positiveItems c field (position + 1) items
          .ok (x :: rest)
      | none => .error (c.error (itemPath field position) .notPositive)

/-- A field that is an array of numbers greater than zero (`Configuration::positive_numbers`). -/
def positiveNumbers (c : Configuration) (field : String) : Except ConfigError (List Binary64) := do
  c.positiveItems field 0 (← c.array field)

/-- The configuration of a nested object (`Configuration::nested`). -/
def nested (c : Configuration) (path : String) (value : Json) :
    Except ConfigError Configuration :=
  match value with
  | .object fields => .ok ⟨c.widget, some (c.fieldPath path), fields⟩
  | _ => .error (c.error path .notObject)

end Configuration

end Widgetry
