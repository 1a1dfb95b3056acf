import Widgetry.Module.Rounds
import Widgetry.Page
import Widgetry.Registry.Load
import Widgetry.Rendering

/-!
# Starting a user interface

A start requests the modules, waits for them, loads and resolves the structure document, loads the
stylesheet side by side with all this, and renders the root. Any failure ends the start, and the
page of that failure takes the place of the user interface.
-/

namespace Widgetry

/-- What a start is told: the name, the URLs of the structure, the stylesheet and the modules, and
the longest chain of references. -/
structure Plan where
  name : String
  structureUrl : String
  stylesheetUrl : String
  modules : List String
  maxDepth : Nat
  deriving Repr, DecidableEq, Inhabited

/-- The load of the stylesheet. -/
def Plan.stylesheetLoad (plan : Plan) : Client × String :=
  (Client.awaited 0, plan.stylesheetUrl)

namespace Gui

/-- A user interface with the core widget types (`Bootstrap::new`). -/
def new (maxDepth : Nat) : Gui :=
  ⟨.empty, .core maxDepth, .empty⟩

/-- How far the structure has come: the modules are awaited and some of them watched, the document
is fetched, or the root is resolved. A fetch is answered in the round `due`, or never. -/
inductive StructurePhase where
  | modules (watched : List String)
  | fetching (due : Option Nat)
  | resolved (root : Widget)

/-- How far the two activities of a start have come. -/
structure Phase where
  start : Nat
  structurePart : StructurePhase
  stylesheet : Option Stylesheet

/-- Take over the answer to the fetch of the document and resolve the root. -/
def receiveDocument (g : Gui) (url : String) (answer : Except FetchError Fetched) :
    Gui × Except Error Widget :=
  match g.registry.receive url answer with
  | .error e => (g, .error (.structure e))
  | .ok (registry, document) =>
      ({ g with registry := registry }, registry.resolve document document.root)

/-- Look whether the fetch of the document is answered. -/
def pollDocument (transport : Transport) (g : Gui) (url : String) (due : Option Nat) :
    Gui × Except Error StructurePhase :=
  match transport url, due with
  | .after _ answer, some round =>
      if round ≤ g.session.now then
        let (g, root) := g.receiveDocument url answer
        (g, root.map .resolved)
      else (g, .ok (.fetching due))
  | _, _ => (g, .ok (.fetching due))

/-- Resolve the root of the document that is there, or fetch the document. -/
def generate (transport : Transport) (g : Gui) (url : String) :
    Gui × Except Error StructurePhase :=
  match g.registry.document with
  | some document => (g, (g.registry.resolve document document.root).map .resolved)
  | none =>
      { g with session := g.session.spend.call url }.pollDocument transport url
        ((transport url).due g.session.now)

/-- Poll the structure activity. -/
def pollStructure (transport : Transport) (url : String) (g : Gui) :
    StructurePhase → Gui × Except Error StructurePhase
  | .modules watched =>
      let (loader, answer) := g.loader.check watched
      let g := { g with loader := loader }
      match answer with
      | .inl watched => (g, .ok (.modules watched))
      | .inr (.error e) => (g, .error (.resource e))
      | .inr (.ok ()) => g.generate transport url
  | .fetching due => g.pollDocument transport url due
  | .resolved root => (g, .ok (.resolved root))

/-- Poll the stylesheet activity. -/
def pollStylesheet (transport : Transport) (url : String) (g : Gui) :
    Option Stylesheet → Gui × Except Error (Option Stylesheet)
  | some stylesheet => (g, .ok (some stylesheet))
  | none =>
      let (session, outcome) := g.session.poll transport (Client.awaited 0) url
      let g := { g with session := session }
      match outcome with
      | none => (g, .ok none)
      | some loaded =>
          match Stylesheet.ofLoaded url loaded with
          | .ok stylesheet => (g, .ok (some stylesheet))
          | .error e => (g, .error (.resource e))

/-- Poll the structure first, then the stylesheet. -/
def pollStructureFirst (transport : Transport) (plan : Plan) (g : Gui) (phase : Phase) :
    Gui × Except Error Phase :=
  match g.pollStructure transport plan.structureUrl phase.structurePart with
  | (g, .error e) => (g, .error e)
  | (g, .ok structurePart) =>
      match g.pollStylesheet transport plan.stylesheetUrl phase.stylesheet with
      | (g, .error e) => (g, .error e)
      | (g, .ok stylesheet) => (g, .ok ⟨phase.start, structurePart, stylesheet⟩)

/-- Poll the stylesheet first, then the structure. -/
def pollStylesheetFirst (transport : Transport) (plan : Plan) (g : Gui) (phase : Phase) :
    Gui × Except Error Phase :=
  match g.pollStylesheet transport plan.stylesheetUrl phase.stylesheet with
  | (g, .error e) => (g, .error e)
  | (g, .ok stylesheet) =>
      match g.pollStructure transport plan.structureUrl phase.structurePart with
      | (g, .error e) => (g, .error e)
      | (g, .ok structurePart) => (g, .ok ⟨phase.start, structurePart, stylesheet⟩)

/-- Poll the two activities of a start, which take turns in going first. -/
def pollStart (transport : Transport) (plan : Plan) (g : Gui) (phase : Phase) :
    Gui × Except Error Phase :=
  if (g.session.now - phase.start) % 2 = 0 then g.pollStructureFirst transport plan phase
  else g.pollStylesheetFirst transport plan phase

/-- One round of a start: a failure, the root and the stylesheet, or the phase reached. -/
def stepStart (transport : Transport) (plan : Plan) (phase : Phase) (g : Gui) :
    Gui × Sum Phase (Except Error (Widget × Stylesheet)) :=
  match g.pollStart transport plan phase with
  | (g, .error e) => (g, .inr (.error e))
  | (g, .ok phase) =>
      match phase.structurePart, phase.stylesheet with
      | .resolved root, some stylesheet => (g, .inr (.ok (root, stylesheet)))
      | _, _ => (g, .inl phase)

/-- The round that a start waits for. -/
def startDue (plan : Plan) (phase : Phase) (g : Gui) : Option Nat :=
  let stylesheet := match phase.stylesheet with
    | some _ => none
    | none => g.session.nextDue [plan.stylesheetLoad]
  match phase.structurePart with
  | .fetching due => Session.earlier due stylesheet
  | _ => stylesheet

/-- Load the modules, the root and the stylesheet. A stylesheet still under way when the start
fails is given up. -/
def prepare (transport : Transport) (hooks : Hooks) (plan : Plan) (g : Gui) :
    Gui × Option (Except Error (Widget × Stylesheet)) :=
  let g := { g with loader := g.loader.enqueueAll plan.modules }
  match g.drive transport hooks (stepStart transport plan) (startDue plan) (g.rounds hooks 2)
      ⟨g.session.now, .modules [], none⟩ with
  | (g, some (.error e)) =>
      ({ g with session := g.session.release [plan.stylesheetLoad] }, some (.error e))
  | answer => answer

/-- Start a user interface (`Bootstrap::run`). There is no answer if a load hangs. -/
def run (transport : Transport) (hooks : Hooks) (support : MediaSupport) (plan : Plan) (g : Gui) :
    Gui × Option (Except Error Page) :=
  match g.prepare transport hooks plan with
  | (g, none) => (g, none)
  | (g, some (.error e)) => (g, some (.error e))
  | (g, some (.ok (root, stylesheet))) =>
      let (session, body) := g.session.render transport support root
      let g := { g with session := session }
      (g, body.map fun body =>
        body.map fun body => ⟨Page.titleOf plan.name, some stylesheet, g.loader.loaded, body⟩)

/-- Start a user interface, with the page of a failure in its place if it fails (`Bootstrap::page`).
The failure is logged. -/
def page (transport : Transport) (hooks : Hooks) (support : MediaSupport) (plan : Plan) (g : Gui) :
    Gui × Option Page :=
  match g.run transport hooks support plan with
  | (g, none) => (g, none)
  | (g, some (.ok page)) => (g, some page)
  | (g, some (.error e)) =>
      ({ g with session := g.session.note (.startFailed e.message) }, some (Page.ofError e))

end Gui

end Widgetry
