import Widgetry.Proofs.Startup.Preparation

/-!
# A start comes to an answer

Rounds follow each other until the start has its answer. A round that takes no step changes nothing
but lines, and then a load that is ready comes closer to the front of the modules; if there was
none, there is one in the next round. So the rounds suffice: `prepare_answers` says that a start
whose hooks do not crash always has an answer, and the right one.
-/

namespace Widgetry

open Session

namespace Gui

/-- Rounds follow each other until there is an answer, if something that each of them makes smaller
is less than their number. -/
theorem drive_answers {σ α : Type} {transport : Transport} {hooks : Hooks}
    {activity : σ → Gui → Gui × Sum σ α} {due : σ → Gui → Option Nat}
    {Within : Nat → σ → Gui → Prop} {Answers : Gui → α → Prop}
    (hround : ∀ bound state g, Within bound state g →
      (∃ g' answer, activity state g = (g', .inr answer) ∧ Answers g' answer) ∨
      ∃ g₁ state' g₂ position round bound', activity state g = (g₁, .inl state') ∧
        g₁.pollModules transport hooks = (g₂, position) ∧
        nextRound g₁ g₂ (due state' g₂) = some round ∧ bound' < bound ∧
        Within bound' state' (g₂.advanceTo position round))
    (fuel : Nat) {bound : Nat} {state : σ} {g : Gui} (hwithin : Within bound state g)
    (hfuel : bound < fuel) :
    ∃ g' answer, g.drive transport hooks activity due fuel state = (g', some answer) ∧
      Answers g' answer := by
  induction fuel generalizing bound state g with
  | zero => exact (Nat.not_lt_zero bound hfuel).elim
  | succ fuel ih =>
      rw [drive]
      rcases hround bound state g hwithin with ⟨g', answer, hactivity, hanswer⟩ |
        ⟨g₁, state', g₂, position, round, bound', hactivity, hmodules, hnext, hless, hwithin'⟩
      · rw [hactivity]
        exact ⟨g', answer, rfl, hanswer⟩
      · rw [hactivity]
        dsimp only
        rw [hmodules]
        dsimp only
        rw [hnext]
        exact ih hwithin' (by omega)

/-- The loads of modules tell the modules. -/
theorem loads_of_injective {urls others : List String} (h : loadsOf urls = loadsOf others) :
    urls = others := by
  have hmap : ∀ list : List String, (loadsOf list).map Prod.snd = list := by
    intro list
    unfold loadsOf
    rw [List.map_map]
    exact List.map_id list
  rw [← hmap urls, h, hmap]

end Gui

namespace Plan

variable {outcomes : Outcomes} {delays : String → Nat} {hooks : Hooks} {registry : Registry}
  {plan : Plan} {phase : Gui.Phase} {g g' : Gui}

/-! ## Modules -/

/-- The loads under way, those of modules in front set apart. -/
theorem perm_loads (loads : List (Client × String)) (front behind : List String) :
    (loads ++ Gui.loadsOf (front ++ behind)).Perm
      ((loads ++ Gui.loadsOf behind) ++ Gui.loadsOf front) := by
  unfold Gui.loadsOf
  rw [List.map_append, List.append_assoc]
  exact List.perm_append_comm.append_left loads

/-- The steps left to a start, those of modules in front set apart. -/
theorem work_eq (hooks : Hooks) (plan : Plan) (phase : Gui.Phase) {front behind : List String}
    (houtstanding : g.loader.outstanding = front ++ behind) :
    plan.work hooks phase g = g.session.work (Gui.loadsOf front) +
      g.session.work (plan.stylesheetLoads phase ++ Gui.loadsOf behind) +
        3 * (hooks.unrequested g.loader).length + phase.structurePart.steps := by
  have hloads : g.moduleLoads = Gui.loadsOf (front ++ behind) := by
    rw [← houtstanding]
    rfl
  have hperm := work_perm g.session (perm_loads (plan.stylesheetLoads phase) front behind)
  rw [work_append, work_append] at hperm
  unfold work
  rw [hloads]
  omega

/-- Modules that join take no more steps than were set aside for them. -/
theorem work_join (hooks : Hooks) (plan : Plan) (phase : Gui.Phase) {joined : List String}
    (hrequested : g'.loader.requested = g.loader.requested ++ joined)
    (hnodup : g'.loader.requested.Nodup) (hmentioned : ∀ url ∈ joined, url ∈ hooks.mentioned)
    {front behind : List String} (hsplit : g.loader.outstanding ++ joined = front ++ behind) :
    g.session.work (Gui.loadsOf front) +
        g.session.work (plan.stylesheetLoads phase ++ Gui.loadsOf behind) +
        3 * (hooks.unrequested g'.loader).length + phase.structurePart.steps ≤
      plan.work hooks phase g := by
  have hunrequested := hooks.length_unrequested_le hrequested hnodup hmentioned
  have hjoined := work_le_length g.session (Gui.loadsOf joined)
  have hperm := work_perm g.session (perm_loads (plan.stylesheetLoads phase) front behind)
  have hloads : Gui.loadsOf (front ++ behind) = g.moduleLoads ++ Gui.loadsOf joined := by
    unfold Gui.loadsOf
    rw [← hsplit, List.map_append]
    rfl
  have hlength : (Gui.loadsOf joined).length = joined.length := List.length_map _
  rw [hlength] at hjoined
  rw [hloads, work_append, work_append, work_append] at hperm
  unfold work
  omega

/-- While modules are outstanding, the structure waits for them. -/
theorem Underway.exists_watched (h : plan.Underway outcomes hooks registry phase g)
    (houtstanding : g.loader.outstanding ≠ []) :
    ∃ watched, phase.structurePart = .modules watched := by
  have hbuilds := h.builds
  cases hpart : phase.structurePart with
  | modules watched => exact ⟨watched, rfl⟩
  | fetching due | resolved root =>
      rw [hpart] at hbuilds
      exact (houtstanding hbuilds.2.1).elim

/-- After the modules in front were polled, every fetch still has somebody in charge of it. -/
theorem Underway.is_attended_of_polls (h : plan.Underway outcomes hooks registry phase g)
    {rest joined : List String}
    (hpolls : Gui.PollsModules outcomes delays hooks registry plan Gui.turns []
      g.loader.outstanding g rest joined g') :
    g'.session.IsAttended (plan.stylesheetLoads phase ++ g'.moduleLoads) := by
  have hsplit := List.take_append_drop Gui.turns (g.loader.outstanding ++ joined)
  have hattended : g.session.IsAttended (plan.stylesheetLoads phase ++ Gui.loadsOf
      ((g.loader.outstanding ++ joined).take Gui.turns ++
        (g.loader.outstanding ++ joined).drop Gui.turns)) := by
    intro url owner due line hentry
    obtain ⟨hmem, hdue⟩ := h.attended url owner due line hentry
    refine ⟨?_, hdue⟩
    rw [hsplit, Gui.loadsOf, List.map_append, ← List.append_assoc]
    exact List.mem_append_left _ hmem
  have hattended' := (hpolls.sweeps.is_attended (hattended.perm (perm_loads _ _ _))).perm
    (perm_loads _ _ _).symm
  have hplaces := hpolls.outstanding
  rw [List.nil_append] at hplaces
  rw [← hplaces] at hattended'
  exact hattended'

/-- The modules in front are polled. -/
theorem poll_modules_cases (hcrash : hooks.NeverCrash) (delays : String → Nat)
    (h : plan.Underway outcomes hooks registry phase g) :
    ∃ g' rest joined, g.pollModules (outcomes.after delays) hooks = (g', rest.length) ∧
      plan.Underway outcomes hooks registry phase g' ∧
      g'.loader.outstanding = rest ++ (g.loader.outstanding ++ joined).drop Gui.turns ∧
      plan.work hooks phase g' ≤ plan.work hooks phase g ∧
      ((g.session.Rests g'.session ∧ joined = [] ∧ rest = g.loader.outstanding.take Gui.turns) ∨
        plan.work hooks phase g' < plan.work hooks phase g) ∧
      ((∃ url ∈ g.loader.outstanding.take Gui.turns, g.session.IsReady Client.loader url) →
        plan.work hooks phase g' < plan.work hooks phase g) := by
  by_cases hnone : g.loader.outstanding = []
  · refine ⟨g, [], [], Gui.poll_modules_of_none hnone, h, by rw [hnone]; rfl, Nat.le_refl _, ?_, ?_⟩
    · left
      rw [hnone]
      exact ⟨⟨fun _ => rfl, rfl, rfl⟩, rfl, rfl⟩
    · rw [hnone]
      rintro ⟨url, hurl, _⟩
      exact (List.not_mem_nil hurl).elim
  -- Modules are outstanding, so that the structure waits for them.
  obtain ⟨watched, hpart⟩ := h.exists_watched hnone
  have hdeclared := h.has_declared hpart
  obtain ⟨g', rest, joined, hpoll, hpolls⟩ :=
    Gui.poll_modules_sweeps delays hcrash h.coherent h.gathers hdeclared
  have hsweep := hpolls.sweeps
  have hplaces := hpolls.outstanding
  rw [List.nil_append] at hplaces
  have hsplit := (List.take_append_drop Gui.turns (g.loader.outstanding ++ joined)).symm
  obtain ⟨failures, hbalances⟩ := hpolls.gathers.balances
  have hbefore := work_join hooks plan phase hpolls.requested hbalances.nodup hpolls.mentioned
    hsplit
  have hafter := work_eq hooks plan phase hplaces
  obtain ⟨hle, hrests, hlt⟩ := hsweep.work_among h.unreserved
    (plan.stylesheetLoads phase ++
      Gui.loadsOf ((g.loader.outstanding ++ joined).drop Gui.turns))
  refine ⟨g', rest, joined, hpoll, ⟨hsweep.is_coherent h.coherent,
    hsweep.is_unreserved h.unreserved, h.is_attended_of_polls hpolls, hpolls.gathers, ?_,
    h.stylesheet⟩, hplaces, ?_, ?_, ?_⟩
  · rw [hpart]
    exact hpolls.declared
  · omega
  · rcases hrests with ⟨hrests, hrest⟩ | hless
    · left
      have hstays := Gui.loads_of_injective hrest
      have hnil : joined = [] := by
        rcases hpolls.left with hnil | hless
        · exact hnil
        · rw [hstays] at hless
          exact (Nat.lt_irrefl _ hless).elim
      rw [hnil, List.append_nil] at hstays
      exact ⟨hrests, hnil, hstays⟩
    · right
      omega
  · intro hready
    obtain ⟨url, hurl, hready⟩ := hready
    have hfront : url ∈ (g.loader.outstanding ++ joined).take Gui.turns := by
      rw [List.take_append]
      exact List.mem_append_left _ hurl
    have hless := hlt ⟨(Client.loader, url), List.mem_map.mpr ⟨url, hfront, rfl⟩, hready⟩
    omega

/-! ## The next round -/

/-- Moving on to a later round changes no more than the order of modules. -/
theorem Underway.advance (h : plan.Underway outcomes hooks registry phase g)
    (position round : Nat) :
    plan.Underway outcomes hooks registry phase (g.advanceTo position round) ∧
      plan.work hooks phase (g.advanceTo position round) = plan.work hooks phase g := by
  have hperm : (g.advanceTo position round).loader.outstanding.Perm g.loader.outstanding :=
    Loader.perm_reorder g.loader position _
  have hloads : (g.advanceTo position round).moduleLoads.Perm g.moduleLoads := hperm.map _
  refine ⟨⟨h.coherent.advance round, h.unreserved, ?_, h.gathers.reorder position _, ?_,
    h.stylesheet⟩, ?_⟩
  · intro url owner due line hentry
    exact (h.attended.perm (hloads.symm.append_left _)) url owner due line hentry
  · have hbuilds := h.builds
    cases hpart : phase.structurePart with
    | modules watched =>
        rw [hpart] at hbuilds
        exact hbuilds
    | fetching due | resolved root =>
        rw [hpart] at hbuilds
        obtain ⟨hfirst, hnone, hfailure⟩ := hbuilds
        rw [hnone] at hperm
        exact ⟨hfirst, hperm.eq_nil, hfailure⟩
  · have hwork := work_perm g.session hloads
    show g.session.work _ + g.session.work _ + 3 * (hooks.unrequested g.loader).length + _ = _
    unfold work
    omega

/-- A start waits for its document and its stylesheet. -/
theorem start_due_eq (plan : Plan) (phase : Gui.Phase) (g : Gui) :
    Gui.startDue plan phase g =
      match phase.structurePart with
      | .fetching due => earlier due (g.session.nextDue (plan.stylesheetLoads phase))
      | _ => g.session.nextDue (plan.stylesheetLoads phase) := by
  unfold Gui.startDue stylesheetLoads
  cases phase.stylesheet <;> rfl

/-- A start that is not finished waits for some round. -/
theorem exists_next_round (h : plan.Underway outcomes hooks registry phase g)
    (hwaits : ∀ watched, phase.structurePart = .modules watched → g.loader.outstanding ≠ [])
    (hunfinished : ∀ root, phase.structurePart = .resolved root → phase.stylesheet = none) :
    ∃ round, earlier (Gui.startDue plan phase g) (g.session.nextDue g.moduleLoads) =
      some round := by
  rw [start_due_eq]
  have hloads : plan.stylesheetLoads phase ++ g.moduleLoads ≠ [] →
      g.session.nextDue (plan.stylesheetLoads phase) ≠ none ∨
        g.session.nextDue g.moduleLoads ≠ none := by
    intro hne
    obtain ⟨round, hround⟩ := exists_next_due h.unreserved h.attended hne
    obtain ⟨load, hload, hdue⟩ := exists_due_of_next_due hround
    have hsome : g.session.due load.1 load.2 ≠ none := by simp [hdue]
    rcases List.mem_append.mp hload with hload | hload
    · exact .inl (next_due_ne_none hload hsome)
    · exact .inr (next_due_ne_none hload hsome)
  cases hpart : phase.structurePart with
  | modules watched =>
      refine exists_earlier (hloads ?_)
      intro hnil
      have hmodules := (List.append_eq_nil_iff.mp hnil).2
      exact hwaits watched hpart (List.map_eq_nil_iff.mp hmodules)
  | fetching due =>
      -- The fetch of the document is not the load of a session and has a round of its own.
      have hbuilds := h.builds
      rw [hpart] at hbuilds
      obtain ⟨⟨_, _, round, rfl⟩, _⟩ := hbuilds
      refine exists_earlier (.inl ?_)
      obtain ⟨first, hfirst⟩ :
          ∃ first, earlier (some round) (g.session.nextDue (plan.stylesheetLoads phase)) =
            some first := exists_earlier (.inl nofun)
      simp [hfirst]
  | resolved root =>
      refine exists_earlier (hloads ?_)
      unfold stylesheetLoads
      rw [hunfinished root hpart]
      exact nofun

/-- A start can take a step: its structure or its stylesheet can, or the module in some place. -/
def IsReadyAt (plan : Plan) (phase : Gui.Phase) (g : Gui) (place : Nat) : Prop :=
  plan.IsPoised phase g ∨
    ∃ url, g.loader.outstanding[place]? = some url ∧ g.session.IsReady Client.loader url

/-- In the round that a start waits for, it can take a step. -/
theorem exists_ready (h : plan.Underway outcomes hooks registry phase g) {round : Nat}
    (hround : earlier (Gui.startDue plan phase g) (g.session.nextDue g.moduleLoads) = some round)
    (position : Nat) :
    ∃ place ≤ plan.places hooks,
      plan.IsReadyAt phase (g.advanceTo position round) place := by
  have hstylesheet : g.session.nextDue (plan.stylesheetLoads phase) = some round →
      plan.IsPoised phase (g.advanceTo position round) := by
    intro hdue
    obtain ⟨load, hload, hdue⟩ := exists_due_of_next_due hdue
    unfold stylesheetLoads at hload
    cases hnone : phase.stylesheet with
    | some stylesheet =>
        rw [hnone] at hload
        exact (List.not_mem_nil hload).elim
    | none =>
        rw [hnone] at hload
        rw [List.mem_singleton.mp hload] at hdue
        exact .inr ⟨hnone, is_ready_advance h.unreserved hdue⟩
  rcases eq_some_of_earlier hround with hstart | hmodules
  · refine ⟨0, Nat.zero_le _, .inl ?_⟩
    rw [start_due_eq] at hstart
    cases hpart : phase.structurePart with
    | modules watched | resolved root =>
        rw [hpart] at hstart
        exact hstylesheet hstart
    | fetching due =>
        rw [hpart] at hstart
        rcases eq_some_of_earlier hstart with hdue | hdue
        · left
          unfold IsBuildable
          rw [hpart]
          exact ⟨round, hdue, Nat.le_max_right _ _⟩
        · exact hstylesheet hdue
  · obtain ⟨load, hload, hdue⟩ := exists_due_of_next_due hmodules
    obtain ⟨url, hurl, rfl⟩ := List.mem_map.mp hload
    have hperm := Loader.perm_reorder g.loader position (round - g.session.now)
    obtain ⟨place, hplace⟩ := List.mem_iff_getElem?.mp (hperm.mem_iff.mpr hurl)
    have hlength := h.gathers.length_outstanding_le
    have hshort := (List.getElem?_eq_some_iff.mp hplace).1
    rw [hperm.length_eq] at hshort
    refine ⟨place, by omega, .inr ⟨url, hplace, ?_⟩⟩
    exact is_ready_advance h.unreserved hdue

/-! ## All rounds -/

/-- A start is under way, and some number of rounds suffices for it. -/
def Within (outcomes : Outcomes) (hooks : Hooks) (registry : Registry) (plan : Plan) (bound : Nat)
    (phase : Gui.Phase) (g : Gui) : Prop :=
  plan.Underway outcomes hooks registry phase g ∧
    ((∃ place, plan.IsReadyAt phase g place ∧
        (plan.places hooks + 2) * plan.work hooks phase g + place ≤ bound) ∨
      (plan.places hooks + 2) * plan.work hooks phase g + plan.places hooks + 1 ≤ bound)

/-- A module that has not left is outstanding. -/
theorem mem_of_not_progressed {url : String} (h : ¬ Gui.hasProgressed g g' = true)
    (hurl : url ∈ g.loader.outstanding) : url ∈ g'.loader.outstanding := by
  by_cases hmem : url ∈ g'.loader.outstanding
  · exact hmem
  · refine (h ?_).elim
    unfold Gui.hasProgressed
    rw [List.any_eq_true]
    exact ⟨url, hurl, by simpa using hmem⟩

/-- After a round in which a start is not finished, there is a next one. -/
theorem exists_round (h : plan.Underway outcomes hooks registry phase g')
    (hwaits : ∀ watched, phase.structurePart = .modules watched → g.loader.outstanding ≠ [])
    (hunfinished : ∀ root, phase.structurePart = .resolved root → phase.stylesheet = none) :
    ∃ round, Gui.nextRound g g' (Gui.startDue plan phase g') = some round := by
  unfold Gui.nextRound
  by_cases hprogressed : Gui.hasProgressed g g' = true
  · rw [if_pos hprogressed]
    exact ⟨_, rfl⟩
  · rw [if_neg hprogressed]
    refine exists_next_round h ?_ hunfinished
    intro watched hmodules hnil
    obtain ⟨url, hurl⟩ := List.exists_mem_of_ne_nil _ (hwaits watched hmodules)
    have hmem := mem_of_not_progressed hprogressed hurl
    rw [hnil] at hmem
    exact List.not_mem_nil hmem

/-- Where no module has left, the next round is the first one that something waits for. -/
theorem next_round_of_still (houtstanding : g'.loader.outstanding = g.loader.outstanding)
    (due : Option Nat) :
    Gui.nextRound g g' due = earlier due (g'.session.nextDue g'.moduleLoads) := by
  have hstill : ¬ Gui.hasProgressed g g' = true := by
    unfold Gui.hasProgressed
    rw [houtstanding]
    simp
  unfold Gui.nextRound
  rw [if_neg hstill]

/-- A module behind the modules that were polled comes closer to the front. -/
theorem getElem?_advance {place round : Nat} {url : String}
    (hplace : g.loader.outstanding[place]? = some url) (hbehind : Gui.turns ≤ place) :
    (g.advanceTo (g.loader.outstanding.take Gui.turns).length round).loader.outstanding[
      place - Gui.turns]? = some url := by
  have hlength := (List.getElem?_eq_some_iff.mp hplace).1
  have hturns : (g.loader.outstanding.take Gui.turns).length = Gui.turns := by
    rw [List.length_take]
    omega
  rw [hturns]
  show (g.loader.outstanding.drop Gui.turns ++ _)[place - Gui.turns]? = some url
  rw [List.getElem?_append_left (by rw [List.length_drop]; omega), List.getElem?_drop,
    Nat.add_sub_cancel' hbehind]
  exact hplace

/-- Where none of the modules that were polled was ready, one that was ready stands behind them. It
moves up by as many places as were polled, if nothing else changes. -/
theorem is_ready_at_advance (plan : Plan) (phase : Gui.Phase) {place : Nat} {url : String}
    (hplace : g.loader.outstanding[place]? = some url)
    (hready : g.session.IsReady Client.loader url)
    (hfront : ∀ other ∈ g.loader.outstanding.take Gui.turns,
      ¬ g.session.IsReady Client.loader other)
    (hrests : g.session.Rests g'.session)
    (houtstanding : g'.loader.outstanding = g.loader.outstanding) (round : Nat) :
    Gui.turns ≤ place ∧ plan.IsReadyAt phase
      (g'.advanceTo (g.loader.outstanding.take Gui.turns).length round) (place - Gui.turns) := by
  have hbehind : Gui.turns ≤ place := by
    refine Nat.le_of_not_lt fun hlt => hfront url ?_ hready
    refine List.mem_iff_getElem?.mpr ⟨place, ?_⟩
    rw [List.getElem?_take_of_lt hlt]
    exact hplace
  refine ⟨hbehind, .inr ⟨url, ?_, (hrests.is_ready hready).advance round⟩⟩
  rw [← houtstanding] at hplace ⊢
  exact getElem?_advance hplace hbehind

/-- One round of a start gives its answer, or leaves fewer rounds to go. -/
theorem within_round (hcrash : hooks.NeverCrash) (delays : String → Nat) {bound : Nat}
    (hwithin : plan.Within outcomes hooks registry bound phase g) :
    (∃ g' answer, Gui.stepStart (outcomes.after delays) plan phase g = (g', .inr answer) ∧
        plan.Answers outcomes hooks registry g' answer) ∨
    ∃ g₁ phase' g₂ position round bound',
      Gui.stepStart (outcomes.after delays) plan phase g = (g₁, .inl phase') ∧
      g₁.pollModules (outcomes.after delays) hooks = (g₂, position) ∧
      Gui.nextRound g₁ g₂ (Gui.startDue plan phase' g₂) = some round ∧ bound' < bound ∧
      plan.Within outcomes hooks registry bound' phase' (g₂.advanceTo position round) := by
  obtain ⟨h, hbound⟩ := hwithin
  rcases step_start_cases delays h with hanswer |
    ⟨g₁, phase', hstep, ⟨hunderway, hmoves, hpoised, hwaits⟩, hunfinished⟩
  · exact .inl hanswer
  right
  obtain ⟨g₂, rest, joined, hpoll, hunderway₂, hplaces, hle, hrests, hready⟩ :=
    poll_modules_cases hcrash delays hunderway
  obtain ⟨round, hround⟩ := exists_round hunderway₂ hwaits hunfinished
  obtain ⟨hadvanced, hwork⟩ := hunderway₂.advance rest.length round
  suffices hfewer : ∃ bound' < bound,
      plan.Within outcomes hooks registry bound' phase' (g₂.advanceTo rest.length round) by
    obtain ⟨bound', hlt, hwithin⟩ := hfewer
    exact ⟨g₁, phase', g₂, rest.length, round, bound', hstep, hpoll, hround, hlt, hwithin⟩
  have hmoved := hmoves.work_le
  by_cases hless : plan.work hooks phase' g₂ < plan.work hooks phase g
  · -- One step less pays for all places of a ready module and for a round without any.
    have hmul := Nat.mul_le_mul_left (plan.places hooks + 2) hless
    rw [Nat.mul_succ] at hmul
    refine ⟨(plan.places hooks + 2) * plan.work hooks phase' g₂ + plan.places hooks + 1, ?_,
      hadvanced, .inr (Nat.le_of_eq (by rw [hwork]))⟩
    rcases hbound with ⟨place, _, hbound⟩ | hbound
    · omega
    · omega
  -- Without a step nothing has changed but lines.
  have hsame : plan.work hooks phase' g₂ = plan.work hooks phase g := by omega
  have hrests₁ : g.session.Rests g₁.session := by
    rcases hmoves.rests_or_lt with hrests₁ | hless₁
    · exact hrests₁
    · omega
  obtain ⟨hrests₂, hjoined, hrest⟩ : g₁.session.Rests g₂.session ∧ joined = [] ∧
      rest = g₁.loader.outstanding.take Gui.turns := by
    rcases hrests with hrests₂ | hless₂
    · exact hrests₂
    · omega
  have houtstanding : g₂.loader.outstanding = g₁.loader.outstanding := by
    rw [hplaces, hrest, hjoined, List.append_nil, List.take_append_drop]
  rcases hbound with ⟨place, hplace, hbound⟩ | hbound
  · rcases hplace with hpoise | ⟨url, hurl, hready'⟩
    · have hless' := hpoised hpoise
      omega
    · -- A ready module in front would have taken a step, so this one stands behind and moves up.
      have hfront : ∀ other ∈ g₁.loader.outstanding.take Gui.turns,
          ¬ g₁.session.IsReady Client.loader other := by
        intro other hmem hother
        have hless' := hready ⟨other, hmem, hother⟩
        omega
      rw [← hmoves.outstanding] at hurl
      obtain ⟨hbehind, hready₂⟩ := is_ready_at_advance plan phase' hurl
        (hrests₁.is_ready hready') hfront hrests₂ houtstanding round
      rw [← hrest] at hready₂
      have hturns : 0 < Gui.turns := Nat.succ_pos 60
      exact ⟨(plan.places hooks + 2) * plan.work hooks phase g + (place - Gui.turns), by omega,
        hadvanced, .inl ⟨place - Gui.turns, hready₂, Nat.le_of_eq (by rw [hwork, hsame])⟩⟩
  · -- The next round is the first one that a load waits for, and that load is ready in it.
    rw [next_round_of_still houtstanding] at hround
    obtain ⟨place, hplace, hready⟩ := exists_ready hunderway₂ hround rest.length
    exact ⟨(plan.places hooks + 2) * plan.work hooks phase g + place, by omega, hadvanced,
      .inl ⟨place, hready, Nat.le_of_eq (by rw [hwork, hsame])⟩⟩

/-- The beginning of a start. -/
theorem within_start (outcomes : Outcomes) (hooks : Hooks) (registry : Registry) (plan : Plan) :
    let g : Gui := ⟨.empty, registry, Loader.empty.enqueueAll plan.modules⟩
    ∃ bound < g.rounds hooks 2,
      plan.Within outcomes hooks registry bound ⟨0, .modules [], none⟩ g := by
  intro g
  obtain ⟨hgathers, houtstanding⟩ :=
    gathers_start outcomes hooks registry plan Session.empty.cache
  have hlength : g.moduleLoads.length = plan.requested.length := by
    unfold Gui.moduleLoads
    rw [List.length_map, ← houtstanding]
  have hwork : plan.work hooks ⟨0, .modules [], none⟩ g ≤ 3 * plan.places hooks + 5 := by
    have hmodules := work_le_length g.session g.moduleLoads
    have hstylesheet := work_le_length g.session [plan.stylesheetLoad]
    have hmentioned : (hooks.unrequested g.loader).length ≤ hooks.mentioned.length :=
      List.length_filter_le _ _
    rw [hlength] at hmodules
    rw [List.length_singleton] at hstylesheet
    show g.session.work [plan.stylesheetLoad] + g.session.work g.moduleLoads + _ + 2 ≤ _
    unfold places
    omega
  have hdeclared : g.HasDeclared hooks registry := by
    intro _
    obtain ⟨_, _, _, _, hmodules, _⟩ := Loader.enqueue_all_joins Loader.empty plan.modules
    unfold Gui.extension
    rw [hmodules]
    rfl
  refine ⟨_, ?_, ⟨is_coherent_empty, is_quiet_empty.is_unreserved, is_quiet_empty.is_attended _,
    hgathers, hdeclared, nofun⟩, .inr (Nat.le_refl _)⟩
  -- A step takes at most two rounds more than there are places.
  have hmul := Nat.mul_le_mul_left (plan.places hooks + 2) hwork
  have hrounds : g.rounds hooks 2 = 3 * (plan.places hooks + 3) ^ 2 := by
    unfold Gui.rounds Gui.workload places
    rw [← houtstanding]
    rfl
  have hsquare := Nat.mul_left_comm (plan.places hooks) 3 (plan.places hooks)
  rw [hrounds, Nat.pow_two]
  simp only [Nat.mul_add, Nat.add_mul] at hmul ⊢
  omega

/-- **A start whose hooks do not crash comes to its answer, whatever the delays.** It succeeds with
the root and the stylesheet that the outcomes of the fetches give, and fails if they give none. -/
theorem prepare_answers (outcomes : Outcomes) (delays : String → Nat) (hcrash : hooks.NeverCrash)
    (registry : Registry) (plan : Plan) :
    ∃ g' answer, Gui.prepare (outcomes.after delays) hooks plan ⟨.empty, registry, .empty⟩ =
        (g', some answer) ∧ plan.Answers outcomes hooks registry g' answer := by
  obtain ⟨bound, hbound, hwithin⟩ := within_start outcomes hooks registry plan
  obtain ⟨g', answer, hdrive, hanswers⟩ :=
    Gui.drive_answers (fun bound phase g => within_round hcrash delays) _ hwithin hbound
  unfold Gui.prepare
  dsimp only [Session.empty]
  dsimp only [Session.empty] at hdrive
  rw [hdrive]
  cases answer with
  | ok prepared => exact ⟨g', .ok prepared, rfl, hanswers⟩
  | error e => exact ⟨_, .error e, rfl, hanswers⟩

end Plan

end Widgetry
