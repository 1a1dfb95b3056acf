import Widgetry.Document.Basic
import Widgetry.Json.Reader

/-!
# Decoding structure documents

A document is a record of `widgets`, `types` and `main`. Each widget is a list of a type position
and, optionally, an object of fields. A document is decoded from a JSON value or from the bytes of
a JSON text. `Document.Fault` says why one does not decode: the first record at fault is reported
in list order or in the order of keys.
-/

namespace Widgetry

namespace Record

/-- Why a value is no widget record. -/
inductive Fault where
  | notList
  | length (found : Nat)
  | fields
  | type
  deriving Repr, DecidableEq

/-- The text of a fault, after the name of the record. -/
def Fault.message : Fault → String
  | .notList => "must be a [type, configuration] array"
  | .length found => "must have 1 or 2 elements, found " ++ Text.decimal found
  | .fields => "configuration must be an object"
  | .type => "type must be a non-negative integer"

/-- Decode the fields of a record: an object, or nothing. -/
def decodeFields : Option Json → Except Fault Fields
  | none => .ok []
  | some .null => .ok []
  | some (.object members) => .ok members
  | some _ => .error .fields

/-- Decode a widget record (`parse_record`). The fields are examined before the type. -/
def decode : Json → Except Fault Record
  | .array [type] => decodeTyped type none
  | .array [type, fields] => decodeTyped type (some fields)
  | .array items => .error (.length items.length)
  | _ => .error .notList
where
  decodeTyped (type : Json) (fields : Option Json) : Except Fault Record := do
    let fields ← decodeFields fields
    match type.word? with
    | some n => .ok ⟨n.toNat, fields⟩
    | none => .error .type

end Record

namespace Document

/-- Why data is no structure document. -/
inductive Fault where
  | mismatch (dialect : Dialect) (fault : Mismatch)
  | record (name : String) (fault : Record.Fault)

/-- The text of a fault. -/
def Fault.message : Fault → String
  | .mismatch dialect fault => fault.message dialect
  | .record name fault => "widget `" ++ name ++ "` " ++ fault.message

/-- The parts of a document before its records are examined (`RawDocument`). -/
structure Outline where
  widgets : Json
  types : List String
  main : Identifier

/-- Decode the widgets of a document, which are a list or an object of any values. -/
def decodeWidgets (datum : Datum) : Except Mismatch Json :=
  match Json.ofDatum? datum with
  | none => .error .unreadable
  | some (.array items) => .ok (.array items)
  | some (.object members) => .ok (.object members)
  | some _ => .error (.variant "RawWidgets")

/-- The fields of a document. -/
def outlineFields : List (Field Outline) :=
  [{ name := "widgets", required := true,
     store := fun datum outline => do
      let widgets ← decodeWidgets datum
      .ok { outline with widgets } },
   { name := "types", required := true,
     store := fun datum outline => do
      let types ← datum.decodeTexts
      .ok { outline with types } },
   { name := "main", required := true,
     store := fun datum outline => do
      let main ← Identifier.decode datum
      .ok { outline with main } }]

/-- Decode the parts of a document. -/
def decodeOutline (dialect : Dialect) (datum : Datum) : Except Mismatch Outline :=
  Field.decode dialect "RawDocument" outlineFields ⟨.array [], [], .index 0⟩ datum

/-- Decode listed records, the first of which stands at `position`. -/
def decodeList : (position : Nat) → List Json → Except Fault (List Record)
  | _, [] => .ok []
  | position, item :: rest => do
      let record ← (Record.decode item).mapError (.record (Text.decimal position))
      let records ← decodeList (position + 1) rest
      .ok (record :: records)

/-- Decode keyed records. -/
def decodeKeyed : List (String × Json) → Except Fault (List (String × Record))
  | [] => .ok []
  | (key, item) :: rest => do
      let record ← (Record.decode item).mapError (.record key)
      let records ← decodeKeyed rest
      .ok ((key, record) :: records)

/-- Decode the records of a document whose parts are known (`StructureDocument::from_raw`). -/
def ofOutline (outline : Outline) : Except Fault Document := do
  let records ← match outline.widgets with
    | .object members => Records.keyed <$> decodeKeyed members
    | .array items => Records.list <$> decodeList 0 items
    | _ => .ok (.list [])
  .ok ⟨records, outline.types, outline.main⟩

/-- Decode a document. -/
def decode (dialect : Dialect) (datum : Datum) : Except Fault Document := do
  let outline ← (decodeOutline dialect datum).mapError (.mismatch dialect)
  ofOutline outline

/-- Decode a document from a JSON value (`StructureDocument::from_value`). -/
def ofJson (value : Json) : Except Fault Document :=
  decode .jsonValue value.toDatum

/-- Decode a document from the bytes of a JSON text (`StructureDocument::parse`). -/
def ofBytes (bytes : Text.Bytes) : Except Fault Document :=
  Json.decodeScanned (.mismatch .jsonText .unreadable) (Json.scanBytes? bytes) (decode .jsonText)

end Document

end Widgetry
