import Widgetry.Proofs.Startup.Gathering

/-!
# The activities of a start

A start waits for its modules, fetches and resolves the structure, and loads the stylesheet, all
over one cache. `Plan.Underway` holds of a start in every round if every fetch has a fixed outcome
and no hook crashes, and `Plan.work` counts the steps that are left to it.

The main theorem, `step_start_cases`, is about one round: a start gives its answer, which is right,
or it goes on, with fewer steps left if its structure or its stylesheet could take one.
-/

namespace Widgetry

open Session

namespace Plan

/-- The load of the stylesheet, while it is under way. -/
def stylesheetLoads (plan : Plan) (phase : Gui.Phase) : List (Client × String) :=
  match phase.stylesheet with
  | some _ => []
  | none => [plan.stylesheetLoad]

end Plan

/-- The number of steps left to the structure, at most. -/
def Gui.StructurePhase.steps : Gui.StructurePhase → Nat
  | .modules _ => 2
  | .fetching _ => 1
  | .resolved _ => 0

namespace Plan

/-- The number of steps left to a start, at most. -/
def work (hooks : Hooks) (plan : Plan) (phase : Gui.Phase) (g : Gui) : Nat :=
  g.session.work (plan.stylesheetLoads phase) + g.session.work g.moduleLoads +
    3 * (hooks.unrequested g.loader).length + phase.structurePart.steps

/-- What holds of the structure in each of its phases. -/
def Builds (outcomes : Outcomes) (hooks : Hooks) (registry : Registry) (plan : Plan) (g : Gui) :
    Gui.StructurePhase → Prop
  | .modules _ => g.HasDeclared hooks registry
  | .fetching due =>
      (g.registry = g.extension hooks registry ∧ g.registry.document = none ∧
        ∃ round, due = some round) ∧ g.loader.outstanding = [] ∧ g.loader.failure = none
  | .resolved root =>
      plan.root outcomes (g.extension hooks registry) = .ok root ∧
        g.loader.outstanding = [] ∧ g.loader.failure = none

/-- What holds of a start while it is under way. -/
structure Underway (outcomes : Outcomes) (hooks : Hooks) (registry : Registry) (plan : Plan)
    (phase : Gui.Phase) (g : Gui) : Prop where
  coherent : g.session.IsCoherent outcomes
  unreserved : g.session.IsUnreserved
  attended : g.session.IsAttended (plan.stylesheetLoads phase ++ g.moduleLoads)
  gathers : plan.Gathers outcomes hooks registry g.loader g.session.cache
  builds : plan.Builds outcomes hooks registry g phase.structurePart
  stylesheet : ∀ stylesheet, phase.stylesheet = some stylesheet →
    Stylesheet.ofLoaded plan.stylesheetUrl (outcomes.loaded plan.stylesheetUrl) = .ok stylesheet

/-- The structure can take its next step. -/
def IsBuildable (phase : Gui.Phase) (g : Gui) : Prop :=
  match phase.structurePart with
  | .modules _ => g.loader.outstanding = [] ∨ g.loader.failure ≠ none
  | .fetching due => ∃ round, due = some round ∧ round ≤ g.session.now
  | .resolved _ => False

/-- What one poll makes of a start: it changes nothing but lines, or there are fewer steps left. -/
structure Moves (hooks : Hooks) (plan : Plan) (phase : Gui.Phase) (g : Gui) (phase' : Gui.Phase)
    (g' : Gui) : Prop where
  now : g'.session.now = g.session.now
  outstanding : g'.loader.outstanding = g.loader.outstanding
  failure : g'.loader.failure = g.loader.failure
  work_le : plan.work hooks phase' g' ≤ plan.work hooks phase g
  rests_or_lt : g.session.Rests g'.session ∨ plan.work hooks phase' g' < plan.work hooks phase g

variable {outcomes : Outcomes} {delays : String → Nat} {hooks : Hooks} {registry : Registry}
  {plan : Plan} {phase phase' phase₁ : Gui.Phase} {g g' g₁ : Gui}

/-- A poll that does nothing. -/
theorem Moves.refl (hooks : Hooks) (plan : Plan) (phase : Gui.Phase) (g : Gui) :
    plan.Moves hooks phase g phase g :=
  ⟨rfl, rfl, rfl, Nat.le_refl _, .inl ⟨fun _ => rfl, rfl, rfl⟩⟩

/-- One poll after another. -/
theorem Moves.trans (h : plan.Moves hooks phase g phase₁ g₁)
    (h₁ : plan.Moves hooks phase₁ g₁ phase' g') : plan.Moves hooks phase g phase' g' where
  now := h₁.now.trans h.now
  outstanding := h₁.outstanding.trans h.outstanding
  failure := h₁.failure.trans h.failure
  work_le := Nat.le_trans h₁.work_le h.work_le
  rests_or_lt := by
    have hle := h.work_le
    have hle₁ := h₁.work_le
    rcases h.rests_or_lt with hrests | hless
    · rcases h₁.rests_or_lt with hrests₁ | hless₁
      · exact .inl (hrests.trans hrests₁)
      · right
        omega
    · right
      omega

/-- What holds of the structure depends on the registry and the loader. -/
theorem Builds.congr {part : Gui.StructurePhase}
    (hbuilds : plan.Builds outcomes hooks registry g part)
    (hregistry : g'.registry = g.registry) (hloader : g'.loader = g.loader) :
    plan.Builds outcomes hooks registry g' part := by
  unfold Builds Gui.HasDeclared Gui.extension at hbuilds ⊢
  rw [hregistry, hloader]
  exact hbuilds

/-- While the structure waits for modules, those that are loaded have been declared. -/
theorem Underway.has_declared (h : plan.Underway outcomes hooks registry phase g)
    {watched : List String} (hpart : phase.structurePart = .modules watched) :
    g.HasDeclared hooks registry := by
  have hbuilds := h.builds
  rw [hpart] at hbuilds
  exact hbuilds

/-! ## The stylesheet -/

/-- How a loaded stylesheet is read does not depend on its handle. -/
theorem of_loaded_eq {s : Session} {url : String} {outcome : Loaded}
    (hcoherent : s.IsCoherent outcomes) (houtcome : s.cache.outcome? url = some outcome) :
    Stylesheet.ofLoaded url outcome = Stylesheet.ofLoaded url (outcomes.loaded url) := by
  have hgives := hcoherent.faithful url outcome houtcome
  unfold Outcomes.loaded Cache.judge Loaded.ofAnswer
  cases outcome with
  | error e =>
      obtain ⟨cause, hcause, rfl⟩ := hgives
      rw [hcause]
  | ok resource =>
      obtain ⟨fetched, hfetched, _, _, hbytes⟩ := hgives
      rw [hfetched]
      simp only [Stylesheet.ofLoaded, Resource.text, hbytes]

/-- The poll of the stylesheet, which is then still under way or read. -/
theorem Underway.poll_stylesheet (h : plan.Underway outcomes hooks registry phase g)
    (phase' : Gui.Phase) (hnone : phase.stylesheet = none)
    (hpart : phase'.structurePart = phase.structurePart) {s : Session}
    (hpolled : g.session.Polled (outcomes.after delays) (Client.awaited 0) plan.stylesheetUrl s)
    (hsweep : Sweep (outcomes.after delays) g.session [plan.stylesheetLoad] s
      (plan.stylesheetLoads phase'))
    (hread : ∀ stylesheet, phase'.stylesheet = some stylesheet →
      Stylesheet.ofLoaded plan.stylesheetUrl (outcomes.loaded plan.stylesheetUrl) =
        .ok stylesheet) :
    plan.Underway outcomes hooks registry phase' { g with session := s } ∧
      plan.Moves hooks phase g phase' { g with session := s } ∧
      (g.session.IsReady (Client.awaited 0) plan.stylesheetUrl →
        plan.work hooks phase' { g with session := s } < plan.work hooks phase g) := by
  have hloads : plan.stylesheetLoads phase = [plan.stylesheetLoad] := by
    unfold stylesheetLoads
    rw [hnone]
  have hattended := h.attended
  rw [hloads] at hattended
  obtain ⟨hle, hrests, hlt⟩ := hsweep.work_among h.unreserved g.moduleLoads
  have hbefore : plan.work hooks phase g = g.session.work [plan.stylesheetLoad] +
      g.session.work g.moduleLoads + 3 * (hooks.unrequested g.loader).length +
        phase.structurePart.steps := by
    unfold work
    rw [hloads]
  have hafter : plan.work hooks phase' { g with session := s } =
      s.work (plan.stylesheetLoads phase') + s.work g.moduleLoads +
        3 * (hooks.unrequested g.loader).length + phase.structurePart.steps := by
    unfold work
    rw [hpart]
    rfl
  refine ⟨⟨hsweep.is_coherent h.coherent, hsweep.is_unreserved h.unreserved, ?_,
    h.gathers.polled hpolled, ?_, hread⟩, ⟨?_, rfl, rfl, ?_, ?_⟩, ?_⟩
  · exact (hsweep.is_attended (hattended.perm List.perm_append_comm)).perm List.perm_append_comm
  · rw [hpart]
    exact h.builds.congr rfl rfl
  · exact (hsweep.works h.unreserved).2
  · omega
  · rcases hrests with hrests | hless
    · exact .inl hrests.1
    · right
      omega
  · intro hready
    have hless := hlt ⟨plan.stylesheetLoad, List.mem_singleton_self _, hready⟩
    omega

/-- Polling the stylesheet fails only if it cannot be read. -/
theorem poll_stylesheet_cases (h : plan.Underway outcomes hooks registry phase g) :
    (∃ g' e, g.pollStylesheet (outcomes.after delays) plan.stylesheetUrl phase.stylesheet =
        (g', .error e) ∧ plan.Fails outcomes hooks registry) ∨
    ∃ g' stylesheet,
      g.pollStylesheet (outcomes.after delays) plan.stylesheetUrl phase.stylesheet =
        (g', .ok stylesheet) ∧
      plan.Underway outcomes hooks registry ⟨phase.start, phase.structurePart, stylesheet⟩ g' ∧
      plan.Moves hooks phase g ⟨phase.start, phase.structurePart, stylesheet⟩ g' ∧
      (phase.stylesheet = none → g.session.IsReady (Client.awaited 0) plan.stylesheetUrl →
        plan.work hooks ⟨phase.start, phase.structurePart, stylesheet⟩ g' <
          plan.work hooks phase g) := by
  cases hstylesheet : phase.stylesheet with
  | some stylesheet =>
      right
      have hphase : phase = ⟨phase.start, phase.structurePart, some stylesheet⟩ := by
        rw [← hstylesheet]
      refine ⟨g, some stylesheet, rfl, ?_, ?_, nofun⟩
      · rw [← hphase]
        exact h
      · rw [← hphase]
        exact .refl hooks plan phase g
  | none =>
      have hpolled := poll_polled (outcomes.after delays) (Client.awaited 0) plan.stylesheetUrl
        g.session
      have houtcome := poll_outcome (outcomes.after delays) (Client.awaited 0) plan.stylesheetUrl
        g.session
      unfold Gui.pollStylesheet
      generalize g.session.poll (outcomes.after delays) (Client.awaited 0) plan.stylesheetUrl =
        polled at hpolled houtcome ⊢
      obtain ⟨s, outcome⟩ := polled
      dsimp only at hpolled houtcome ⊢
      cases outcome with
      | none =>
          right
          obtain ⟨hunderway, hmoves, hless⟩ :=
            h.poll_stylesheet ⟨phase.start, phase.structurePart, none⟩ hstylesheet rfl hpolled
              (.waiting hpolled houtcome.symm (.nil s)) nofun
          exact ⟨_, none, rfl, hunderway, hmoves, fun _ => hless⟩
      | some outcome =>
          have hread := of_loaded_eq (h.coherent.polled hpolled) houtcome.symm
          dsimp only
          cases hloaded : Stylesheet.ofLoaded plan.stylesheetUrl outcome with
          | error e =>
              left
              refine ⟨_, _, rfl, ?_⟩
              -- A start that comes to something has read this stylesheet.
              intro needed root stylesheet hassembles
              rw [hassembles.stylesheet, hloaded] at hread
              cases hread
          | ok stylesheet =>
              right
              rw [hloaded] at hread
              obtain ⟨hunderway, hmoves, hless⟩ :=
                h.poll_stylesheet ⟨phase.start, phase.structurePart, some stylesheet⟩ hstylesheet
                  rfl hpolled (.arrived outcome hpolled houtcome.symm (.nil s)) fun _ hsome =>
                    Option.some.inj hsome ▸ hread.symm
              exact ⟨_, some stylesheet, rfl, hunderway, hmoves, fun _ => hless⟩

/-! ## The structure -/

/-- The structure comes to a phase in which it has at most as many steps left. -/
theorem Underway.build (h : plan.Underway outcomes hooks registry phase g) (g' : Gui)
    (part : Gui.StructurePhase) {unwatched : List String}
    (hcache : g'.session.cache = g.session.cache)
    (hnow : g'.session.now = g.session.now)
    (hloader : g'.loader = { g.loader with unwatched := unwatched })
    (hbuilds : plan.Builds outcomes hooks registry g' part)
    (hsteps : part.steps < phase.structurePart.steps ∨
      part.steps = phase.structurePart.steps ∧ g'.session = g.session) :
    plan.Underway outcomes hooks registry ⟨phase.start, part, phase.stylesheet⟩ g' ∧
      plan.Moves hooks phase g ⟨phase.start, part, phase.stylesheet⟩ g' ∧
      (part.steps < phase.structurePart.steps →
        plan.work hooks ⟨phase.start, part, phase.stylesheet⟩ g' < plan.work hooks phase g) := by
  have hloads : g'.moduleLoads = g.moduleLoads := by
    unfold Gui.moduleLoads
    rw [hloader]
  have hwork :
      plan.work hooks ⟨phase.start, part, phase.stylesheet⟩ g' + phase.structurePart.steps =
        plan.work hooks phase g + part.steps := by
    have hsame : ∀ loads, g'.session.work loads = g.session.work loads := by
      intro loads
      unfold Session.work
      rw [hcache]
    have hunrequested : hooks.unrequested g'.loader = hooks.unrequested g.loader := by
      unfold Hooks.unrequested
      rw [hloader]
    unfold work
    rw [hsame, hsame, hloads, hunrequested]
    show g.session.work (plan.stylesheetLoads phase) + _ + _ + part.steps + _ = _
    omega
  refine ⟨⟨?_, ?_, ?_, ?_, hbuilds, h.stylesheet⟩, ⟨hnow, ?_, ?_, ?_, ?_⟩, ?_⟩
  · exact ⟨hcache ▸ h.coherent.numbered, hcache ▸ h.coherent.faithful⟩
  · intro url owner line
    rw [hcache]
    exact h.unreserved url owner line
  · intro url owner due line
    rw [hcache, hloads]
    exact h.attended url owner due line
  · rw [hcache, hloader]
    exact h.gathers.watch unwatched
  · rw [hloader]
  · rw [hloader]
  · omega
  · rcases hsteps with hless | ⟨_, hsession⟩
    · right
      omega
    · left
      rw [hsession]
      exact ⟨fun _ => rfl, rfl, rfl⟩
  · intro hless
    omega

/-- The answer to the fetch of the document gives the root. -/
theorem receive_document (hdocument : g.registry.document = none) :
    ∃ registry', g.receiveDocument plan.structureUrl (outcomes plan.structureUrl) =
      ({ g with registry := registry' }, plan.root outcomes g.registry) := by
  unfold Gui.receiveDocument root
  rw [hdocument]
  dsimp only
  cases g.registry.receive plan.structureUrl (outcomes plan.structureUrl) with
  | error e => exact ⟨g.registry, rfl⟩
  | ok received => exact ⟨received.1, rfl⟩

/-- Where the root is not resolved, a start fails: another order of the modules gives no other
root. -/
theorem fails_of_root (h : plan.Underway outcomes hooks registry phase g)
    (hfinished : g.loader.outstanding = [] ∧ g.loader.failure = none) {e : Error}
    (hroot : plan.root outcomes (g.extension hooks registry) = .error e) :
    plan.Fails outcomes hooks registry := by
  intro needed root stylesheet hassembles
  have hnodup := (h.gathers.balances_nil hfinished.2).nodup_modules
  obtain ⟨_, hother⟩ := hassembles.perm hnodup fun url =>
    h.gathers.mem_modules_iff hfinished.1 hfinished.2
  have hok := hother.root
  unfold Gui.extension at hroot
  rw [hroot] at hok
  cases hok

/-- The document is received if its fetch is answered, and otherwise awaited. -/
theorem poll_document_cases (delays : String → Nat) (g₁ : Gui)
    (h : plan.Underway outcomes hooks registry phase g) {unwatched : List String}
    (hcache : g₁.session.cache = g.session.cache) (hnow : g₁.session.now = g.session.now)
    (hloader : g₁.loader = { g.loader with unwatched := unwatched })
    (hregistry : g₁.registry = g.extension hooks registry)
    (hdocument : g₁.registry.document = none)
    (hfinished : g.loader.outstanding = [] ∧ g.loader.failure = none)
    (hsteps : 1 < phase.structurePart.steps ∨
      1 = phase.structurePart.steps ∧ g₁.session = g.session) (round : Nat) :
    (∃ g' e, g₁.pollDocument (outcomes.after delays) plan.structureUrl (some round) =
        (g', .error e) ∧ plan.Fails outcomes hooks registry) ∨
    ∃ g' part, g₁.pollDocument (outcomes.after delays) plan.structureUrl (some round) =
        (g', .ok part) ∧
      plan.Underway outcomes hooks registry ⟨phase.start, part, phase.stylesheet⟩ g' ∧
      plan.Moves hooks phase g ⟨phase.start, part, phase.stylesheet⟩ g' ∧
      (1 < phase.structurePart.steps ∨ round ≤ g.session.now →
        plan.work hooks ⟨phase.start, part, phase.stylesheet⟩ g' < plan.work hooks phase g) ∧
      ∀ watched, part ≠ .modules watched := by
  have hfinished₁ : g₁.loader.outstanding = [] ∧ g₁.loader.failure = none := by
    rw [hloader]
    exact hfinished
  have hextension : g₁.extension hooks registry = g.extension hooks registry := by
    unfold Gui.extension
    rw [hloader]
  by_cases hdue : round ≤ g₁.session.now
  · obtain ⟨registry', hreceived⟩ :
        ∃ registry', g₁.receiveDocument plan.structureUrl (outcomes plan.structureUrl) =
          ({ g₁ with registry := registry' }, plan.root outcomes g₁.registry) :=
      receive_document hdocument
    have hpoll : g₁.pollDocument (outcomes.after delays) plan.structureUrl (some round) =
        ({ g₁ with registry := registry' },
          (plan.root outcomes g₁.registry).map Gui.StructurePhase.resolved) := by
      simp only [Gui.pollDocument, Outcomes.after, if_pos hdue, hreceived]
    rw [hpoll, hregistry]
    cases hroot : plan.root outcomes (g.extension hooks registry) with
    | error e => exact .inl ⟨_, e, rfl, fails_of_root h hfinished hroot⟩
    | ok root =>
        right
        have hless : (Gui.StructurePhase.resolved root).steps < phase.structurePart.steps := by
          show 0 < phase.structurePart.steps
          omega
        obtain ⟨hunderway, hmoves, hwork⟩ :=
          h.build { g₁ with registry := registry' } (.resolved root) hcache hnow hloader
            ⟨hextension.symm ▸ hroot, hfinished₁⟩ (.inl hless)
        exact ⟨_, _, rfl, hunderway, hmoves, fun _ => hwork hless, nofun⟩
  · have hpoll : g₁.pollDocument (outcomes.after delays) plan.structureUrl (some round) =
        (g₁, .ok (.fetching (some round))) := by
      simp only [Gui.pollDocument, Outcomes.after, if_neg hdue]
    rw [hpoll]
    right
    obtain ⟨hunderway, hmoves, hwork⟩ :=
      h.build g₁ (.fetching (some round)) hcache hnow hloader
        ⟨⟨hregistry.trans hextension.symm, hdocument, round, rfl⟩, hfinished₁⟩ hsteps
    refine ⟨_, _, rfl, hunderway, hmoves, ?_, nofun⟩
    intro hready
    rcases hready with hless | hready
    · exact hwork hless
    · rw [hnow] at hdue
      exact (hdue hready).elim

/-- When the modules are complete, the root is resolved or the document is fetched. -/
theorem generate_cases (delays : String → Nat) (h : plan.Underway outcomes hooks registry phase g)
    (hregistry : g.registry = g.extension hooks registry)
    (hsteps : phase.structurePart.steps = 2)
    (hfinished : g.loader.outstanding = [] ∧ g.loader.failure = none) :
    (∃ g' e, g.generate (outcomes.after delays) plan.structureUrl = (g', .error e) ∧
        plan.Fails outcomes hooks registry) ∨
    ∃ g' part, g.generate (outcomes.after delays) plan.structureUrl = (g', .ok part) ∧
      plan.Underway outcomes hooks registry ⟨phase.start, part, phase.stylesheet⟩ g' ∧
      plan.Moves hooks phase g ⟨phase.start, part, phase.stylesheet⟩ g' ∧
      plan.work hooks ⟨phase.start, part, phase.stylesheet⟩ g' < plan.work hooks phase g ∧
      ∀ watched, part ≠ .modules watched := by
  unfold Gui.generate
  cases hdocument : g.registry.document with
  | some document =>
      have hroot : plan.root outcomes g.registry =
          g.registry.resolve document document.root := by
        unfold root
        rw [hdocument]
      dsimp only
      rw [← hroot, hregistry]
      cases hresolved : plan.root outcomes (g.extension hooks registry) with
      | error e => exact .inl ⟨g, e, rfl, fails_of_root h hfinished hresolved⟩
      | ok root =>
          right
          have hless : (Gui.StructurePhase.resolved root).steps < phase.structurePart.steps := by
            rw [hsteps]
            exact Nat.zero_lt_two
          obtain ⟨hunderway, hmoves, hwork⟩ :=
            h.build g (.resolved root) rfl rfl rfl ⟨hresolved, hfinished⟩ (.inl hless)
          exact ⟨g, _, rfl, hunderway, hmoves, hwork hless, nofun⟩
  | none =>
      have hone : 1 < phase.structurePart.steps := by omega
      rcases poll_document_cases delays
        { g with session := g.session.spend.call plan.structureUrl } h rfl rfl rfl hregistry
        hdocument hfinished (.inl hone) (g.session.now + delays plan.structureUrl) with
        hfails | ⟨g', part, hpoll, hunderway, hmoves, hwork, hpart⟩
      · exact .inl hfails
      · exact .inr ⟨g', part, hpoll, hunderway, hmoves, hwork (.inl hone), hpart⟩

/-- A structure that waits for modules goes on when they are complete, and fails if one has. -/
theorem poll_waiting_cases (h : plan.Underway outcomes hooks registry phase g)
    {watched : List String} (hpart : phase.structurePart = .modules watched) :
    (∃ g' e, g.pollStructure (outcomes.after delays) plan.structureUrl (.modules watched) =
        (g', .error e) ∧ plan.Fails outcomes hooks registry) ∨
    ∃ g' part, g.pollStructure (outcomes.after delays) plan.structureUrl (.modules watched) =
        (g', .ok part) ∧
      plan.Underway outcomes hooks registry ⟨phase.start, part, phase.stylesheet⟩ g' ∧
      plan.Moves hooks phase g ⟨phase.start, part, phase.stylesheet⟩ g' ∧
      (g.loader.outstanding = [] ∨ g.loader.failure ≠ none →
        plan.work hooks ⟨phase.start, part, phase.stylesheet⟩ g' < plan.work hooks phase g) ∧
      ∀ watched, part = .modules watched → g'.loader.outstanding ≠ [] := by
  have hdeclared := h.has_declared hpart
  have hsteps : phase.structurePart.steps = 2 := by
    rw [hpart]
    rfl
  obtain ⟨failures, hbalances⟩ := h.gathers.balances
  have hfailure := hbalances.failure_eq_none_iff
  unfold Gui.pollStructure
  dsimp only
  rcases hbalances.check_cases watched with ⟨url, e, rest, hfailures, hcheck⟩ |
    ⟨hfailures, hnone, hcheck⟩ | ⟨hfailures, hwaits, hcheck⟩
  · left
    rw [hcheck]
    refine ⟨_, _, rfl, h.gathers.fails fun hnone => ?_⟩
    rw [hfailure, hfailures] at hnone
    cases hnone
  · rw [hcheck]
    dsimp only
    rw [← hfailure] at hfailures
    rcases generate_cases delays h (hdeclared hfailures) hsteps ⟨hnone, hfailures⟩ with
      hfails | ⟨g', part, heq, hunderway, hmoves, hwork, hlast⟩
    · exact .inl hfails
    · refine .inr ⟨g', part, heq, hunderway, hmoves, fun _ => hwork, ?_⟩
      intro watched hmodules
      exact (hlast watched hmodules).elim
  · -- The structure takes no step, but it watches the modules that were enqueued last.
    rw [hcheck]
    dsimp only
    right
    obtain ⟨hunderway, hmoves, _⟩ :=
      h.build { g with loader := { g.loader with unwatched := [] } }
        (.modules (watched ++ g.loader.unwatched)) rfl rfl rfl hdeclared (.inr ⟨hsteps.symm, rfl⟩)
    refine ⟨_, _, rfl, hunderway, hmoves, ?_, fun _ _ => hwaits⟩
    intro hready
    rcases hready with hempty | hfailed
    · exact (hwaits hempty).elim
    · exact (hfailed (hfailure.mpr hfailures)).elim

/-- Polling the structure fails only if a module has failed or the root is not resolved. -/
theorem poll_structure_cases (h : plan.Underway outcomes hooks registry phase g) :
    (∃ g' e, g.pollStructure (outcomes.after delays) plan.structureUrl phase.structurePart =
        (g', .error e) ∧ plan.Fails outcomes hooks registry) ∨
    ∃ g' part, g.pollStructure (outcomes.after delays) plan.structureUrl phase.structurePart =
        (g', .ok part) ∧
      plan.Underway outcomes hooks registry ⟨phase.start, part, phase.stylesheet⟩ g' ∧
      plan.Moves hooks phase g ⟨phase.start, part, phase.stylesheet⟩ g' ∧
      (IsBuildable phase g →
        plan.work hooks ⟨phase.start, part, phase.stylesheet⟩ g' < plan.work hooks phase g) ∧
      ∀ watched, part = .modules watched → g'.loader.outstanding ≠ [] := by
  have hbuilds := h.builds
  unfold IsBuildable
  cases hpart : phase.structurePart with
  | modules watched => exact poll_waiting_cases h hpart
  | fetching due =>
      rw [hpart] at hbuilds
      obtain ⟨⟨hregistry, hdocument, round, rfl⟩, hfinished⟩ := hbuilds
      rcases poll_document_cases delays g h rfl rfl rfl hregistry hdocument
        hfinished (.inr ⟨by rw [hpart]; rfl, rfl⟩) round with
        hfails | ⟨g', part, heq, hunderway, hmoves, hwork, hlast⟩
      · exact .inl hfails
      · refine .inr ⟨g', part, heq, hunderway, hmoves, ?_, ?_⟩
        · intro hready
          obtain ⟨_, hsame, hdue⟩ := hready
          cases hsame
          exact hwork (.inr hdue)
        · intro watched hmodules
          exact (hlast watched hmodules).elim
  | resolved root =>
      right
      have hphase : phase = ⟨phase.start, .resolved root, phase.stylesheet⟩ := by rw [← hpart]
      refine ⟨g, .resolved root, rfl, ?_, ?_, nofun, nofun⟩
      · rw [← hphase]
        exact h
      · rw [← hphase]
        exact .refl hooks plan phase g

/-! ## One round of a start -/

/-- The structure or the stylesheet can take its next step. -/
def IsPoised (plan : Plan) (phase : Gui.Phase) (g : Gui) : Prop :=
  IsBuildable phase g ∨
    phase.stylesheet = none ∧ g.session.IsReady (Client.awaited 0) plan.stylesheetUrl

/-- A start proceeds in a round: it takes a step if it can, and waits only for modules that are
outstanding. -/
structure Proceeds (outcomes : Outcomes) (hooks : Hooks) (registry : Registry) (plan : Plan)
    (phase : Gui.Phase) (g : Gui) (phase' : Gui.Phase) (g' : Gui) : Prop where
  underway : plan.Underway outcomes hooks registry phase' g'
  moves : plan.Moves hooks phase g phase' g'
  work_lt : plan.IsPoised phase g → plan.work hooks phase' g' < plan.work hooks phase g
  waits : ∀ watched, phase'.structurePart = .modules watched → g'.loader.outstanding ≠ []

/-- What can be built can be built after polling the stylesheet. -/
theorem IsBuildable.congr (hbuildable : IsBuildable phase g)
    (hpart : phase'.structurePart = phase.structurePart)
    (hmoves : plan.Moves hooks phase g phase' g') :
    IsBuildable phase' g' := by
  unfold IsBuildable at hbuildable ⊢
  rw [hpart, hmoves.outstanding, hmoves.failure, hmoves.now]
  exact hbuildable

/-- Polling the structure and then the stylesheet. -/
theorem poll_structure_first_cases (h : plan.Underway outcomes hooks registry phase g) :
    (∃ g' e, g.pollStructureFirst (outcomes.after delays) plan phase = (g', .error e) ∧
        plan.Fails outcomes hooks registry) ∨
    ∃ g' phase', g.pollStructureFirst (outcomes.after delays) plan phase = (g', .ok phase') ∧
      plan.Proceeds outcomes hooks registry phase g phase' g' := by
  unfold Gui.pollStructureFirst
  rcases poll_structure_cases h with
    ⟨g₁, e, hpoll, hfails⟩ | ⟨g₁, part, hpoll, hunderway, hmoves, hless, hwaits⟩
  · rw [hpoll]
    exact .inl ⟨g₁, e, rfl, hfails⟩
  · rw [hpoll]
    dsimp only
    rcases poll_stylesheet_cases hunderway with
      ⟨g', e, hpoll', hfails⟩ | ⟨g', stylesheet, hpoll', hunderway', hmoves', hless'⟩
    · rw [hpoll']
      exact .inl ⟨g', e, rfl, hfails⟩
    · rw [hpoll']
      refine .inr ⟨g', _, rfl, hunderway', hmoves.trans hmoves', ?_, ?_⟩
      · intro hpoised
        rcases hpoised with hbuildable | ⟨hnone, hready⟩
        · exact Nat.lt_of_le_of_lt hmoves'.work_le (hless hbuildable)
        · rcases hmoves.rests_or_lt with hrests | hsteps
          · exact Nat.lt_of_lt_of_le (hless' hnone (hrests.is_ready hready)) hmoves.work_le
          · exact Nat.lt_of_le_of_lt hmoves'.work_le hsteps
      · intro watched hmodules
        rw [hmoves'.outstanding]
        exact hwaits watched hmodules

/-- Polling the stylesheet and then the structure. -/
theorem poll_stylesheet_first_cases (h : plan.Underway outcomes hooks registry phase g) :
    (∃ g' e, g.pollStylesheetFirst (outcomes.after delays) plan phase = (g', .error e) ∧
        plan.Fails outcomes hooks registry) ∨
    ∃ g' phase', g.pollStylesheetFirst (outcomes.after delays) plan phase = (g', .ok phase') ∧
      plan.Proceeds outcomes hooks registry phase g phase' g' := by
  unfold Gui.pollStylesheetFirst
  rcases poll_stylesheet_cases h with
    ⟨g₁, e, hpoll, hfails⟩ | ⟨g₁, stylesheet, hpoll, hunderway, hmoves, hless⟩
  · rw [hpoll]
    exact .inl ⟨g₁, e, rfl, hfails⟩
  · rw [hpoll]
    dsimp only
    rcases poll_structure_cases hunderway with
      ⟨g', e, hpoll', hfails⟩ | ⟨g', part, hpoll', hunderway', hmoves', hless', hwaits⟩
    · rw [hpoll']
      exact .inl ⟨g', e, rfl, hfails⟩
    · rw [hpoll']
      refine .inr ⟨g', _, rfl, hunderway', hmoves.trans hmoves', ?_, hwaits⟩
      intro hpoised
      rcases hpoised with hbuildable | ⟨hnone, hready⟩
      · exact Nat.lt_of_lt_of_le (hless' (hbuildable.congr rfl hmoves)) hmoves.work_le
      · exact Nat.lt_of_le_of_lt hmoves'.work_le (hless hnone hready)

/-- A start has come to its root and its stylesheet: all modules are loaded and no load is under
way. -/
structure Finishes (outcomes : Outcomes) (hooks : Hooks) (registry : Registry) (plan : Plan)
    (g : Gui) (root : Widget) (stylesheet : Stylesheet) : Prop where
  assembles : plan.Assembles outcomes hooks registry (g.loader.modules.map Module.url) root
    stylesheet
  coherent : g.session.IsCoherent outcomes
  quiet : g.session.IsQuiet
  gathers : plan.Gathers outcomes hooks registry g.loader g.session.cache
  outstanding : g.loader.outstanding = []
  failure : g.loader.failure = none

/-- The answer of a start is right: it has what it comes to, or it comes to nothing. -/
def Answers (outcomes : Outcomes) (hooks : Hooks) (registry : Registry) (plan : Plan) (g : Gui) :
    Except Error (Widget × Stylesheet) → Prop
  | .ok (root, stylesheet) => plan.Finishes outcomes hooks registry g root stylesheet
  | .error _ => plan.Fails outcomes hooks registry

/-- A start with a root and a stylesheet is finished. -/
theorem Underway.finishes {root : Widget} {stylesheet : Stylesheet}
    (h : plan.Underway outcomes hooks registry phase g)
    (hroot : phase.structurePart = .resolved root)
    (hstylesheet : phase.stylesheet = some stylesheet) :
    plan.Finishes outcomes hooks registry g root stylesheet := by
  have hbuilds := h.builds
  rw [hroot] at hbuilds
  obtain ⟨hresolved, hnone, hfailure⟩ := hbuilds
  have hloads : plan.stylesheetLoads phase ++ g.moduleLoads = [] := by
    unfold stylesheetLoads Gui.moduleLoads
    rw [hstylesheet, hnone]
    rfl
  have hattended := h.attended
  rw [hloads] at hattended
  refine ⟨⟨(h.gathers.balances_nil hfailure).nodup_modules,
    fun url => h.gathers.mem_modules_iff hnone hfailure, ?_, ?_, h.gathers.declared hfailure,
    hresolved, h.stylesheet stylesheet hstylesheet⟩, h.coherent,
    is_quiet_of_attended h.unreserved hattended, h.gathers, hnone, hfailure⟩
  · intro url hurl
    obtain ⟨m, hm, rfl⟩ := List.mem_map.mp hurl
    obtain ⟨fetched, hfetched, _⟩ := h.coherent.faithful m.url _ (h.gathers.loaded m hm)
    exact ⟨fetched, hfetched⟩
  · intro url hurl
    obtain ⟨m, hm, rfl⟩ := List.mem_map.mp hurl
    exact (h.gathers.passed m hm).1

/-- One round of a start gives its answer or goes on. -/
theorem step_start_cases (delays : String → Nat)
    (h : plan.Underway outcomes hooks registry phase g) :
    (∃ g' answer, Gui.stepStart (outcomes.after delays) plan phase g = (g', .inr answer) ∧
        plan.Answers outcomes hooks registry g' answer) ∨
    ∃ g' phase', Gui.stepStart (outcomes.after delays) plan phase g = (g', .inl phase') ∧
      plan.Proceeds outcomes hooks registry phase g phase' g' ∧
      ∀ root, phase'.structurePart = .resolved root → phase'.stylesheet = none := by
  have hpolled : (∃ g' e, g.pollStart (outcomes.after delays) plan phase = (g', .error e) ∧
        plan.Fails outcomes hooks registry) ∨
      ∃ g' phase', g.pollStart (outcomes.after delays) plan phase = (g', .ok phase') ∧
        plan.Proceeds outcomes hooks registry phase g phase' g' := by
    unfold Gui.pollStart
    split
    · exact poll_structure_first_cases h
    · exact poll_stylesheet_first_cases h
  unfold Gui.stepStart
  rcases hpolled with ⟨g', e, hpoll, hfails⟩ | ⟨g', phase', hpoll, hproceeds⟩
  · rw [hpoll]
    exact .inl ⟨g', _, rfl, hfails⟩
  · rw [hpoll]
    dsimp only
    split
    · rename_i root stylesheet hroot hstylesheet
      exact .inl ⟨g', _, rfl, hproceeds.underway.finishes hroot hstylesheet⟩
    · rename_i hunfinished
      refine .inr ⟨g', phase', rfl, hproceeds, ?_⟩
      intro root hroot
      cases hstylesheet : phase'.stylesheet with
      | none => rfl
      | some stylesheet => exact (hunfinished root stylesheet hroot hstylesheet).elim

end Plan

end Widgetry
