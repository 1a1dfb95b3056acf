import Widgetry.Module.Loader
import Widgetry.Registry
import Widgetry.Resource.Session

/-!
# Module hooks

A hook runs when the bytes of a module have arrived, before the module counts as loaded. It may
request further modules and declare a widget type, and it may then fail or crash. `Gui` gathers all
that a start and the hooks of its modules change.
-/

namespace Widgetry

/-- How a hook ends. -/
inductive Ending where
  | done
  | crashes
  | fails (e : ResourceError)

/-- What a hook does, in order (`ModuleHook`). -/
structure Hook where
  enqueue : List String
  declare : Option (String × Factory)
  ending : Ending

namespace Hook

/-- The hook that does nothing. -/
def none : Hook :=
  ⟨[], Option.none, .done⟩

end Hook

/-- The hooks of modules by URL. -/
abbrev Hooks := List (String × Hook)

namespace Hooks

/-- The hook of a module. -/
def hook (hooks : Hooks) (url : String) : Hook :=
  (Table.get? url hooks).getD Hook.none

/-- All modules that hooks may request. -/
def mentioned (hooks : Hooks) : List String :=
  hooks.flatMap fun (_, hook) => hook.enqueue

end Hooks

/-- A user interface in the making: its loads, its widget types and document, its modules
(`Bootstrap`). -/
structure Gui where
  session : Session
  registry : Registry
  loader : Loader

namespace Gui

/-- Request a module (`ModuleLoader::enqueue`). The answer tells whether it was not requested
before. -/
def enqueue (g : Gui) (url : String) : Gui × Bool :=
  ({ g with loader := g.loader.enqueue url }, !g.loader.requested.contains url)

/-- A module has failed. The failure is logged. -/
def failModule (g : Gui) (url : String) (e : ResourceError) : Gui :=
  { g with
    session := g.session.note (.moduleFailed url (Loader.failureOf url e).message)
    loader := g.loader.failModule url e }

/-- Declare the widget type of a hook. -/
def declare (g : Gui) (url : String) :
    Option (String × Factory) → Except ResourceError Gui
  | none => .ok g
  | some (name, factory) =>
      match g.registry.declare name factory with
      | .ok registry => .ok { g with registry := registry }
      | .error e => .error (.moduleLoad url e.message)

/-- Run the hook of a module whose bytes have arrived (`ModuleLoader::finish`). -/
def arrive (hooks : Hooks) (g : Gui) (m : Module) : Gui :=
  let hook := hooks.hook m.url
  let g := { g with loader := g.loader.enqueueAll hook.enqueue }
  match g.declare m.url hook.declare with
  | .error e => g.failModule m.url e
  | .ok g =>
      match hook.ending with
      | .done => { g with loader := g.loader.finish m }
      | .crashes => { g with loader := g.loader.crash m.url }
      | .fails e => g.failModule m.url e

end Gui

end Widgetry
