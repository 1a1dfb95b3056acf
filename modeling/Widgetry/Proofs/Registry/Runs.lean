import Widgetry.Proofs.Resolution.Unfolding
import Widgetry.Registry.Load

/-!
# Runs of a registry

A registry is used by any sequence of operations, over fetches with any outcomes. Each operation
extends the registry: what is declared stays declared, and the document stays. From this one step a
whole run extends the registry too. The main theorem, `runs_extend_and_load_once`, adds when an
operation fetches, what a failed load leaves behind, and which document later operations use.
-/

namespace Widgetry.Registry

/-- An operation on a registry. Each load brings the transport that it meets, so that the outcome
of a URL may be another one every time. -/
inductive Operation where
  | declare (name : String) (factory : Factory)
  | declareCore
  | setDocument (document : Document)
  | load (transport : Transport) (url : String)
  | generate (transport : Transport) (url : String)
  | widget (id : Identifier)

/-- The answer to an operation. A load that hangs has none. -/
inductive Answer where
  | declared (result : Except StructureError Unit)
  | installed (fresh : Bool)
  | loaded (result : Option (Except StructureError Document))
  | resolved (result : Option (Except Error Widget))

/-- A registry and the session in which it fetches. -/
structure State where
  session : Session
  registry : Registry

namespace State

/-- Perform an operation. -/
def perform (state : State) : Operation → State × Answer
  | .declare name factory =>
      match state.registry.declare name factory with
      | .ok registry => ({ state with registry }, .declared (.ok ()))
      | .error e => (state, .declared (.error e))
  | .declareCore =>
      let (registry, result) := state.registry.declareCore
      ({ state with registry }, .declared result)
  | .setDocument document =>
      let (registry, fresh) := state.registry.setDocument document
      ({ state with registry }, .installed fresh)
  | .load transport url =>
      let (session, registry, result) := state.registry.load transport state.session url
      (⟨session, registry⟩, .loaded result)
  | .generate transport url =>
      let (session, registry, result) := state.registry.generate transport state.session url
      (⟨session, registry⟩, .resolved result)
  | .widget id => (state, .resolved (some (state.registry.widget id)))

/-- Perform operations in order. -/
def run (state : State) : List Operation → State
  | [] => state
  | operation :: rest => (state.perform operation).1.run rest

end State

/-- The transport and the URL of an operation that loads. -/
def Operation.target? : Operation → Option (Transport × String)
  | .load transport url => some (transport, url)
  | .generate transport url => some (transport, url)
  | _ => none

/-- What a fetch of a document brings. There is nothing if it hangs. -/
def brought (transport : Transport) (url : String) : Option (Except StructureError Document) :=
  match transport url with
  | .never => none
  | .after _ (.error e) => some (.error (.documentFetch url e.message))
  | .after _ (.ok fetched) =>
      match Document.ofBytes fetched.bytes with
      | .error fault => some (.error (.documentParse url fault.message))
      | .ok document => some (.ok document)

/-- The registry with the document that a fetch has brought. It is the same if there is none. -/
def adopt (registry : Registry) : Option (Except StructureError Document) → Registry
  | some (.ok document) => { registry with document := some document }
  | _ => registry

/-- The root of a document, unless there was an error before. -/
def rootOf (registry : Registry) : Except StructureError Document → Except Error Widget
  | .ok document => registry.resolve document document.root
  | .error e => .error (.structure e)

/-- The later registry has all that the earlier one has. -/
structure Extends (earlier later : Registry) : Prop where
  factories : ∀ name factory, earlier.factory? name = some factory →
    later.factory? name = some factory
  document : ∀ document, earlier.document = some document → later.document = some document
  maxDepth : later.maxDepth = earlier.maxDepth

namespace Extends

variable {first second third : Registry}

theorem refl (registry : Registry) : registry.Extends registry :=
  ⟨fun _ _ h => h, fun _ h => h, rfl⟩

theorem trans (h : first.Extends second) (h' : second.Extends third) : first.Extends third :=
  ⟨fun name factory hname => h'.factories name factory (h.factories name factory hname),
    fun document hdocument => h'.document document (h.document document hdocument),
    h'.maxDepth.trans h.maxDepth⟩

end Extends

/-! ## What one operation does -/

variable {registry : Registry} {transport : Transport} {session : Session} {url : String}

/-- A name is declared once. -/
theorem declare_eq_ok_iff {declared : Registry} {name : String} {factory : Factory} :
    registry.declare name factory = .ok declared ↔
      registry.factory? name = none ∧
        declared =
          { registry with declarations := Table.insert name factory registry.declarations } := by
  have hdeclared : registry.isDeclared name = (registry.factory? name).isSome := rfl
  rw [declare, hdeclared]
  cases registry.factory? name with
  | none => simp [eq_comm]
  | some found => simp

/-- A declaration keeps what is there. -/
theorem extends_declare {declared : Registry} {name : String} {factory : Factory}
    (h : registry.declare name factory = .ok declared) : registry.Extends declared := by
  obtain ⟨hnew, hdeclared⟩ := declare_eq_ok_iff.mp h
  refine ⟨?_, ?_, by rw [hdeclared]⟩
  · intro other found hfound
    have hother : other ≠ name := by
      intro heq
      rw [heq, hnew] at hfound
      cases hfound
    rw [factory?_declare h, if_neg hother, hfound]
  · intro document hdocument
    rw [hdeclared]
    exact hdocument

/-- Declarations keep what is there, up to the one that fails if there is one. -/
theorem extends_declare_all (registry : Registry) (declarations : List (String × Factory)) :
    registry.Extends (registry.declareAll declarations).1 := by
  induction declarations generalizing registry with
  | nil => exact .refl registry
  | cons declaration rest ih =>
      obtain ⟨name, factory⟩ := declaration
      rw [declareAll]
      cases hdeclare : registry.declare name factory with
      | error e => exact .refl registry
      | ok declared => exact (extends_declare hdeclare).trans (ih declared)

/-- Adopting a document where there is none keeps what is there. -/
theorem extends_adopt (h : registry.document = none)
    (result : Option (Except StructureError Document)) :
    registry.Extends (registry.adopt result) := by
  unfold adopt
  split
  next document =>
    refine ⟨fun _ _ hfound => hfound, ?_, rfl⟩
    intro found hfound
    rw [h] at hfound
    cases hfound
  next => exact .refl registry

/-- Only a document is adopted. -/
theorem adopt_of_ne {result : Option (Except StructureError Document)}
    (h : ∀ document, result ≠ some (.ok document)) : registry.adopt result = registry := by
  unfold adopt
  split
  next document => exact absurd rfl (h document)
  next => rfl

/-- A document is installed if there is none. -/
theorem set_document_eq (registry : Registry) (document : Document) :
    registry.setDocument document =
      (if registry.document.isNone then registry.adopt (some (.ok document)) else registry,
        registry.document.isNone) := by
  unfold setDocument
  cases registry.document <;> rfl

/-- A loaded document is not fetched again. -/
theorem load_of_some {document : Document} (h : registry.document = some document) :
    registry.load transport session url = (session, registry, some (.ok document)) := by
  rw [load, h]

/-- A load without a document issues one fetch, and adopts and answers what that brings. -/
theorem load_of_none (transport : Transport) (session : Session) (url : String)
    (h : registry.document = none) :
    ∃ later : Session, later.calls = session.calls ++ [url] ∧
      registry.load transport session url =
        (later, registry.adopt (brought transport url), brought transport url) := by
  unfold load brought
  rw [h]
  dsimp only
  cases transport url with
  | never => exact ⟨_, rfl, rfl⟩
  | after rounds answer =>
      cases answer with
      | error e => exact ⟨_, rfl, rfl⟩
      | ok fetched =>
          dsimp only [receive]
          cases Document.ofBytes fetched.bytes with
          | error fault => exact ⟨_, rfl, rfl⟩
          | ok document =>
              dsimp only
              rw [set_document_eq, h]
              exact ⟨_, rfl, rfl⟩

/-- Generating is loading, with an answer about the root. -/
theorem generate_of_load {later : Session} {adopted : Registry}
    {result : Option (Except StructureError Document)}
    (h : registry.load transport session url = (later, adopted, result)) :
    registry.generate transport session url = (later, adopted, result.map adopted.rootOf) := by
  rw [generate, h]
  match result with
  | none => rfl
  | some (.error e) => rfl
  | some (.ok document) => rfl

namespace State

variable {state : State} {operation : Operation}

/-- An operation that loads, performed without a document, issues one fetch and adopts what it
brings. -/
theorem perform_of_none (h : state.registry.document = none)
    (htarget : operation.target? = some (transport, url)) :
    (state.perform operation).1.session.calls = state.session.calls ++ [url] ∧
      (state.perform operation).1.registry = state.registry.adopt (brought transport url) := by
  obtain ⟨later, hcalls, hload⟩ := load_of_none transport state.session url h
  cases operation with
  | load transport' url' =>
      obtain ⟨rfl, rfl⟩ := Prod.mk.inj (Option.some.inj htarget)
      rw [perform, hload]
      exact ⟨hcalls, rfl⟩
  | generate transport' url' =>
      obtain ⟨rfl, rfl⟩ := Prod.mk.inj (Option.some.inj htarget)
      rw [perform, generate_of_load hload]
      exact ⟨hcalls, rfl⟩
  | _ => cases htarget

/-- With a document, loading changes nothing and answers the document. -/
theorem perform_load_of_some {document : Document} (h : state.registry.document = some document) :
    state.perform (.load transport url) = (state, .loaded (some (.ok document))) := by
  rw [perform, load_of_some h]

/-- With a document, generating changes nothing and answers its root. -/
theorem perform_generate_of_some {document : Document}
    (h : state.registry.document = some document) :
    state.perform (.generate transport url) =
      (state, .resolved (some (state.registry.resolve document document.root))) := by
  rw [perform, generate_of_load (load_of_some h)]
  rfl

/-- An operation that does not load issues no fetch. -/
theorem session_perform (htarget : operation.target? = none) :
    (state.perform operation).1.session = state.session := by
  cases operation with
  | declare name factory =>
      rw [perform]
      split <;> rfl
  | declareCore => rfl
  | setDocument document => rfl
  | load transport url => cases htarget
  | generate transport url => cases htarget
  | widget id => rfl

/-- With a document, an operation that loads changes nothing. -/
theorem perform_of_some {document : Document} (h : state.registry.document = some document)
    (htarget : operation.target? = some (transport, url)) :
    (state.perform operation).1 = state := by
  cases operation with
  | load transport' url' => rw [perform_load_of_some h]
  | generate transport' url' => rw [perform_generate_of_some h]
  | _ => cases htarget

/-- With a document, no operation issues a fetch. -/
theorem session_perform_of_some {document : Document}
    (h : state.registry.document = some document) (operation : Operation) :
    (state.perform operation).1.session = state.session := by
  cases htarget : operation.target? with
  | none => exact session_perform htarget
  | some target => rw [perform_of_some h htarget]

/-- An operation that loads extends the registry. -/
theorem extends_perform_of_target? (htarget : operation.target? = some (transport, url)) :
    state.registry.Extends (state.perform operation).1.registry := by
  cases hdocument : state.registry.document with
  | none =>
      rw [(perform_of_none hdocument htarget).2]
      exact extends_adopt hdocument _
  | some document =>
      rw [perform_of_some hdocument htarget]
      exact .refl _

/-- An operation extends the registry. -/
theorem extends_perform (state : State) (operation : Operation) :
    state.registry.Extends (state.perform operation).1.registry := by
  cases operation with
  | declare name factory =>
      rw [perform]
      cases hdeclare : state.registry.declare name factory with
      | error e => exact .refl _
      | ok declared => exact extends_declare hdeclare
  | declareCore => exact extends_declare_all state.registry Factory.core
  | setDocument document =>
      show state.registry.Extends (state.registry.setDocument document).1
      rw [set_document_eq]
      dsimp only
      split
      next hnone => exact extends_adopt (Option.isNone_iff_eq_none.mp hnone) _
      next => exact .refl _
  | load transport url => exact extends_perform_of_target? rfl
  | generate transport url => exact extends_perform_of_target? rfl
  | widget id => exact .refl _

/-! ## Whole runs -/

/-- A run extends the registry. -/
theorem extends_run (state : State) (operations : List Operation) :
    state.registry.Extends (state.run operations).registry := by
  induction operations generalizing state with
  | nil => exact .refl _
  | cons operation rest ih => exact (extends_perform state operation).trans (ih _)

/-- From the document on, a run issues no fetch. -/
theorem session_run_of_some {document : Document} (h : state.registry.document = some document)
    (operations : List Operation) : (state.run operations).session = state.session := by
  induction operations generalizing state with
  | nil => rfl
  | cons operation rest ih =>
      have hdocument := (extends_perform state operation).document document h
      exact (ih hdocument).trans (session_perform_of_some h operation)

end State

/-- Runs of any operations with any outcomes extend the registry and load one document.

Between any two points of a run the later registry has every declaration of the earlier one, and
its document. Without a document, an operation that loads issues one fetch, of its own URL. If that
brings a document, then it is adopted, and otherwise the registry is the same as before. Once there
is a document no operation fetches, and loading and generating use that document whatever URL they
name. A document is installed from outside exactly if there is none yet. -/
theorem runs_extend_and_load_once (start : State) (operations more : List Operation) :
    let earlier := start.run operations
    let later := earlier.run more
    earlier.registry.Extends later.registry ∧
      (∀ operation transport url, later.registry.document = none →
        operation.target? = some (transport, url) →
          let next := (later.perform operation).1
          next.session.calls = later.session.calls ++ [url] ∧
            (∀ document, brought transport url = some (.ok document) →
              next.registry = { later.registry with document := some document }) ∧
            ((∀ document, brought transport url ≠ some (.ok document)) →
              next.registry = later.registry)) ∧
      (∀ document, earlier.registry.document = some document →
        later.session = earlier.session ∧
          ∀ transport url,
            later.perform (.load transport url) = (later, .loaded (some (.ok document))) ∧
              later.perform (.generate transport url) =
                (later, .resolved (some (later.registry.resolve document document.root)))) ∧
      (∀ operation, operation.target? = none →
        (later.perform operation).1.session = later.session) ∧
      ∀ document, (later.perform (.setDocument document)).2 = .installed true ↔
        later.registry.document = none := by
  intro earlier later
  have hextends : earlier.registry.Extends later.registry := State.extends_run earlier more
  refine ⟨hextends, ?_, ?_, fun _ => State.session_perform, ?_⟩
  · intro operation transport url hnone htarget
    obtain ⟨hcalls, hregistry⟩ := State.perform_of_none hnone htarget
    refine ⟨hcalls, ?_, ?_⟩
    · intro document hbrought
      rw [hregistry, hbrought]
      rfl
    · intro hbrought
      rw [hregistry, adopt_of_ne hbrought]
  · intro document hdocument
    have hlater := hextends.document document hdocument
    exact ⟨State.session_run_of_some hdocument more, fun transport url =>
      ⟨State.perform_load_of_some hlater, State.perform_generate_of_some hlater⟩⟩
  · intro document
    show Answer.installed (later.registry.setDocument document).2 = .installed true ↔ _
    rw [set_document_eq, Answer.installed.injEq, Option.isNone_iff_eq_none]

end Widgetry.Registry
