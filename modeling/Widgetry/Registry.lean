import Widgetry.Document.Decode
import Widgetry.Widget.Factory

/-!
# The registry of widget types

A registry maps declared names to factories, holds at most one structure document, and resolves
identifiers of the document into configured widgets. `resolve` follows references depth first. It
fails at a reference back into its own chain, and at a chain longer than the budget.
-/

namespace Widgetry

/-- Declared widget types, the document, and the longest chain of references
(`StructureRegistry`). -/
structure Registry where
  declarations : List (String × Factory)
  document : Option Document
  maxDepth : Nat

namespace Registry

/-- The longest chain of references by default. -/
def defaultMaxDepth : Nat := 64

/-- A registry without declarations (`StructureRegistry::with_max_depth`). A chain may always hold
the root. -/
def empty (maxDepth : Nat) : Registry :=
  ⟨[], none, max maxDepth 1⟩

/-- The factory of a declared name (`StructureRegistry::factory`). -/
def factory? (registry : Registry) (name : String) : Option Factory :=
  Table.get? name registry.declarations

/-- The name is declared (`StructureRegistry::is_declared`). -/
def isDeclared (registry : Registry) (name : String) : Bool :=
  Table.contains name registry.declarations

/-- The declared names in order (`StructureRegistry::declared_types`). -/
def declared (registry : Registry) : List String :=
  registry.declarations.map Prod.fst

/-- Declare a name that is not declared yet (`StructureRegistry::declare_widget`). -/
def declare (registry : Registry) (name : String) (factory : Factory) :
    Except StructureError Registry :=
  if registry.isDeclared name then .error (.duplicateType name)
  else .ok { registry with declarations := Table.insert name factory registry.declarations }

/-- Declare names in order up to the first that is declared already. The declarations before it
remain. -/
def declareAll (registry : Registry) :
    List (String × Factory) → Registry × Except StructureError Unit
  | [] => (registry, .ok ())
  | (name, factory) :: rest =>
      match registry.declare name factory with
      | .ok registry => declareAll registry rest
      | .error e => (registry, .error e)

/-- Declare the core widget types (`register_core_widgets`). -/
def declareCore (registry : Registry) : Registry × Except StructureError Unit :=
  registry.declareAll Factory.core

/-- A registry that declares the core widget types. -/
def core (maxDepth : Nat) : Registry :=
  (empty maxDepth).declareCore.1

/-- Install a document unless there is one (`StructureRegistry::set_document`). The answer tells
whether it was installed. -/
def setDocument (registry : Registry) (document : Document) : Registry × Bool :=
  match registry.document with
  | some _ => (registry, false)
  | none => ({ registry with document := some document }, true)

/-- The document has a record for the identifier (`StructureRegistry::widget_exists`). -/
def hasWidget (registry : Registry) (id : Identifier) : Bool :=
  match registry.document with
  | some document => (document.record? id).isSome
  | none => false

/-- The factory and the fields of a record. -/
def lookup (registry : Registry) (document : Document) (id : Identifier) :
    Except StructureError (Factory × Fields) :=
  match document.record? id with
  | none => .error (.missingWidget id.text)
  | some record =>
      match document.types[record.typeIndex]? with
      | none => .error (.unknownType ("#" ++ Text.decimal record.typeIndex))
      | some name =>
          match registry.factory? name with
          | none => .error (.unknownType name)
          | some factory => .ok (factory, record.fields)

/-- The outline of the widget at the end of a chain of identifiers (`Scope::instantiate`). -/
def outline (registry : Registry) (document : Document) (id : Identifier)
    (chain : List Identifier) : Except Error Outline := do
  let (factory, fields) ← (registry.lookup document id).mapError .structure
  factory.outline fields chain

/-- Fill slots in order, each by `resolve` (`Scope::resolve_optional`). An empty slot gets the void
widget. -/
def fill (resolve : Identifier → Except Error Widget) : List Slot → Except Error (List Widget)
  | [] => .ok []
  | .error e :: _ => .error (.config e)
  | .ok none :: slots => do
      let rest ← fill resolve slots
      .ok (.void :: rest)
  | .ok (some id) :: slots => do
      let widget ← resolve id
      let rest ← fill resolve slots
      .ok (widget :: rest)

/-- Resolve an identifier below the chain of its ancestors, with as many more levels as `budget`
says (`Scope::resolve`). -/
def resolveBelow (registry : Registry) (document : Document) :
    (budget : Nat) → (ancestry : List Identifier) → Identifier → Except Error Widget
  | budget, ancestry, id =>
      let id := document.canonical id
      if id ∈ ancestry then
        .error (.recursive id.text ((ancestry ++ [id]).map Identifier.text))
      else
        match budget with
        | 0 => .error (.recursive id.text [])
        | budget + 1 => do
            let chain := ancestry ++ [id]
            let outline ← registry.outline document id chain
            let children ← fill (resolveBelow registry document budget chain) outline.slots
            .ok (.node outline.frame children)

/-- Resolve an identifier of a document (`StructureRegistry::resolve`). -/
def resolve (registry : Registry) (document : Document) (id : Identifier) :
    Except Error Widget :=
  registry.resolveBelow document registry.maxDepth [] id

/-- Resolve an identifier of the loaded document (`StructureRegistry::widget`). -/
def widget (registry : Registry) (id : Identifier) : Except Error Widget :=
  match registry.document with
  | some document => registry.resolve document id
  | none => .error (.structure .notLoaded)

end Registry

end Widgetry
