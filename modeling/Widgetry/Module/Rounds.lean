import Widgetry.Module.Hook

/-!
# Rounds

While somebody waits, rounds pass. In every round the waiting activity is polled first. If it is
not finished, outstanding modules are polled, at first in the order of their requests, those
requested in the course of the round last. Modules that are still waiting come up in the reverse
order in the next round. A round has a limited number of turns; modules that got none come first in
the next round. The next round in which anything can happen follows.
-/

namespace Widgetry

namespace Gui

/-- The number of modules that may be polled in one round. -/
def turns : Nat := 61

/-- Poll an outstanding module (`ModuleLoader::run`). The answer tells whether it is still
outstanding. -/
def pollModule (transport : Transport) (hooks : Hooks) (g : Gui) (url : String) : Gui × Bool :=
  let (session, outcome) := g.session.poll transport Client.loader url
  let g := { g with session := session }
  match outcome with
  | none => (g, true)
  | some (.error e) => (g.failModule url e, false)
  | some (.ok resource) => (g.arrive hooks ⟨url, resource⟩, false)

/-- Poll outstanding modules from a position on, until the end of the list is reached or there are
no more turns. Modules that leave the list make room; new ones join at its end. The answer has the
position reached. -/
def pollModulesFrom (transport : Transport) (hooks : Hooks) :
    (turns : Nat) → Gui → (position : Nat) → Gui × Nat
  | 0, g, position => (g, position)
  | turns + 1, g, position =>
      match g.loader.outstanding[position]? with
      | none => (g, position)
      | some url =>
          match g.pollModule transport hooks url with
          | (g, true) => pollModulesFrom transport hooks turns g (position + 1)
          -- The module behind it has moved up to this position.
          | (g, false) => pollModulesFrom transport hooks turns g position

/-- Poll the outstanding modules of a round. -/
def pollModules (transport : Transport) (hooks : Hooks) (g : Gui) : Gui × Nat :=
  g.pollModulesFrom transport hooks turns 0

/-- Move on to a later round, after the modules up to a position were polled. -/
def advanceTo (g : Gui) (position round : Nat) : Gui :=
  { g with
    session := g.session.advanceTo round
    loader := g.loader.reorder position (round - g.session.now) }

/-- Some module that was outstanding before is no longer. -/
def hasProgressed (before after : Gui) : Bool :=
  before.loader.outstanding.any fun url => !after.loader.outstanding.contains url

/-- The loads of the outstanding modules. -/
def moduleLoads (g : Gui) : List (Client × String) :=
  g.loader.outstanding.map fun url => (Client.loader, url)

/-- The round in which to look again: the next one if a module has left, otherwise the first in
which something can change. -/
def nextRound (before after : Gui) (due : Option Nat) : Option Nat :=
  if hasProgressed before after then some (after.session.now + 1)
  else Session.earlier due (after.session.nextDue after.moduleLoads)

/-- Poll an activity, and the outstanding modules after it, round after round until the activity
has an answer. The activity has a state of its own and tells which round it waits for. There is no
answer if nothing can happen any more. -/
def drive {σ α : Type} (transport : Transport) (hooks : Hooks)
    (activity : σ → Gui → Gui × Sum σ α) (due : σ → Gui → Option Nat) :
    (fuel : Nat) → σ → Gui → Gui × Option α
  | 0, _, g => (g, none)
  | fuel + 1, state, g =>
      match activity state g with
      | (g, .inr answer) => (g, some answer)
      | (g, .inl state) =>
          let (after, position) := g.pollModules transport hooks
          match nextRound g after (due state after) with
          | none => (after, none)
          | some round =>
              drive transport hooks activity due fuel state (after.advanceTo position round)

/-- The number of modules that may still have to be polled. -/
def workload (hooks : Hooks) (g : Gui) : Nat :=
  g.loader.outstanding.length + hooks.mentioned.length

/-- Enough rounds for a few other loads and for all modules to leave: between two of these events
every module gets its turn. -/
def rounds (hooks : Hooks) (g : Gui) (others : Nat) : Nat :=
  3 * Nat.pow (g.workload hooks + others + 1) 2

/-- Wait until all modules are loaded or one has failed (`ModuleLoader::await_all`). -/
def awaitModules (transport : Transport) (hooks : Hooks) (g : Gui) :
    Gui × Option (Except ResourceError Unit) :=
  g.drive transport hooks
    (fun watched g =>
      let (loader, answer) := g.loader.check watched
      ({ g with loader := loader }, answer))
    (fun _ _ => none) (g.rounds hooks 0) []

/-- Load a URL through the cache that the modules use. -/
def load (transport : Transport) (hooks : Hooks) (g : Gui) (url : String) :
    Gui × Option Loaded :=
  let client := Client.awaited 0
  g.drive transport hooks
    (fun _ g =>
      let (session, outcome) := g.session.poll transport client url
      let g := { g with session := session }
      match outcome with
      | some outcome => (g, .inr outcome)
      | none => (g, .inl ()))
    (fun _ g => g.session.nextDue [(client, url)]) (g.rounds hooks 1) ()

end Gui

end Widgetry
