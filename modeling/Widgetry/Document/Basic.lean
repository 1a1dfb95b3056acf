import Widgetry.Document.Identifier

/-!
# Structure documents

A document holds widget records in a list or under keys, the names of the widget types, and the
identifier of the root. Both kinds of identifier address both kinds of document: a numeric string
addresses a list position, an integer addresses the key that is its decimal numeral. `canonical`
gives the one spelling of an identifier that the document's own records bear.
-/

namespace Widgetry

/-- The fields of one widget, as written. -/
abbrev Fields := List (String × Json)

/-- A widget record (`WidgetRecord`): the position of its type among the type names, and its
fields. -/
structure Record where
  typeIndex : Nat
  fields : Fields
  deriving Repr, Inhabited

/-- The records of a document, in a list or under keys in increasing order (`Widgets`). -/
inductive Records where
  | list (records : List Record)
  | keyed (records : List (String × Record))
  deriving Repr, Inhabited

/-- A structure document (`StructureDocument`). -/
structure Document where
  records : Records
  types : List String
  root : Identifier
  deriving Repr, Inhabited

namespace Document

/-- The records stand under keys (`StructureDocument::is_keyed`). -/
def isKeyed (doc : Document) : Bool :=
  match doc.records with
  | .list _ => false
  | .keyed _ => true

/-- The number of records (`StructureDocument::len`). -/
def size (doc : Document) : Nat :=
  match doc.records with
  | .list records => records.length
  | .keyed records => records.length

/-- The record that an identifier addresses (`StructureDocument::record`). -/
def record? (doc : Document) (id : Identifier) : Option Record :=
  match doc.records, id with
  | .list records, .index position => records[position.toNat]?
  | .list records, .key name => (Text.word? name.toList).bind fun n => records[n.toNat]?
  | .keyed records, .key name => Table.get? name records
  | .keyed records, .index position => Table.get? (Text.decimal position.toNat) records

/-- The spelling of an identifier that the document's records bear: a position for a list if the
identifier denotes one, and a key for keyed records (`StructureDocument::canonical_id`). -/
def canonical (doc : Document) (id : Identifier) : Identifier :=
  match doc.records, id with
  | .list _, .key name =>
      match Text.word? name.toList with
      | some position => .index position
      | none => .key name
  | .keyed _, .index position => .key (Text.decimal position.toNat)
  | _, id => id

end Document

end Widgetry
