import Widgetry.Proofs.Modules.Assembly
import Widgetry.Proofs.Table

/-!
# Waiting for modules that request modules

A wait for all modules ends with success only when the modules that were requested are exactly those
that are needed, and all of them are loaded; it ends with an error only if one that is needed has
failed. This holds of a wait that looks at any moment (`IsSound.converged`), and of the waits that
the rounds of a program make, which are among these: `leads_drive`. The main theorem is
`modules_converge`.
-/

namespace Widgetry

variable {hook : Module → Reaction} {external : List String} {s : Assembly} {url : String}

/-- What the end of a wait says: all needed modules were requested and are loaded, and no others; or
a needed module has failed, and the error is about it. -/
def Converged (hook : Module → Reaction) (external : List String) (g : Gui) :
    Except ResourceError Unit → Prop
  | .ok () => g.loader.loaded.map Module.url = g.loader.requested ∧
      ∀ url, url ∈ g.loader.requested ↔ Needed hook g.session.cache external url
  | .error e => ∃ url cause, Needed hook g.session.cache external url ∧
      Fails hook g.session.cache url cause ∧ e = Loader.failureOf url cause

namespace Assembly

/-- When no module is outstanding and none has failed, everything needed was requested. -/
theorem IsSound.requested_of_needed (h : s.IsSound hook) (hfailures : s.failures = [])
    (hnone : s.gui.loader.outstanding = [])
    (hneeded : Needed hook s.gui.session.cache s.external url) :
    url ∈ s.gui.loader.requested := by
  induction hneeded with
  | external hmem => exact h.external _ hmem
  | @enqueued url other resource _ houtcome hmem ih =>
      rcases h.balances.mem_requested_iff.mp ih with houtstanding | ⟨m, hm, rfl⟩ | ⟨e, he⟩
      · rw [hnone] at houtstanding
        cases houtstanding
      · obtain ⟨hloaded, _, hrequests⟩ := h.loaded m hm
        obtain rfl : m.resource = resource :=
          Except.ok.inj (Option.some.inj (hloaded.symm.trans houtcome))
        exact hrequests other hmem
      · rw [hfailures] at he
        cases he

/-- A wait can end as soon as a module has failed or none is outstanding. -/
theorem IsSound.ends_iff (h : s.IsSound hook) (watched : List String) :
    (∃ answer, (s.gui.loader.check watched).2 = .inr answer) ↔
      s.failures ≠ [] ∨ s.gui.loader.outstanding = [] := by
  rcases h.balances.check_cases watched with ⟨_, _, _, hfailures, hcheck⟩ |
    ⟨hfailures, hnone, hcheck⟩ | ⟨hfailures, hsome, hcheck⟩
  · simp [hcheck, hfailures]
  · simp [hcheck, hnone]
  · simp [hcheck, hfailures, hsome]

/-- The end of a wait is right, and changes nothing. -/
theorem IsSound.converged (h : s.IsSound hook) {watched : List String}
    {answer : Except ResourceError Unit} (hlook : (s.gui.loader.check watched).2 = .inr answer) :
    Converged hook s.external s.gui answer ∧ (s.gui.loader.check watched).1 = s.gui.loader := by
  rcases h.balances.check_cases watched with ⟨url, e, rest, hfailures, hcheck⟩ |
    ⟨hfailures, hnone, hcheck⟩ | ⟨_, _, hcheck⟩
  · rw [hcheck] at hlook ⊢
    obtain rfl : .error (Loader.failureOf url e) = answer := Sum.inr.inj hlook
    have hmem : (url, e) ∈ s.failures := by simp [hfailures]
    have hurl : url ∈ s.gui.loader.requested :=
      h.balances.mem_requested_iff.mpr (.inr (.inr ⟨e, hmem⟩))
    exact ⟨⟨url, e, h.needed url hurl, h.failed _ hmem, rfl⟩, rfl⟩
  · rw [hcheck] at hlook ⊢
    obtain rfl : .ok () = answer := Sum.inr.inj hlook
    have hbalances : s.gui.loader.Balances [] := hfailures ▸ h.balances
    refine ⟨⟨hbalances.loaded_eq hnone, fun url => ⟨h.needed url, ?_⟩⟩, rfl⟩
    exact h.requested_of_needed hfailures hnone
  · rw [hcheck] at hlook
    cases hlook

end Assembly

/-! ## The rounds of a program -/

/-- The reaction as the hook of a module. -/
def Reaction.toHook (reaction : Reaction) : Hook :=
  ⟨reaction.enqueue, none,
    match reaction.result with
    | .ok () => .done
    | .error e => .fails e⟩

/-- The reactions to modules by URL. -/
abbrev Reactions := List (String × Reaction)

namespace Reactions

/-- The reactions as hooks. -/
def hooks (reactions : Reactions) : Hooks :=
  reactions.map fun entry => (entry.1, entry.2.toHook)

/-- The reaction to a module. Most modules have none. -/
def reaction (reactions : Reactions) (m : Module) : Reaction :=
  (Table.get? m.url reactions).getD ⟨[], .ok ()⟩

/-- The hook of a module is the reaction to it. -/
theorem hook_hooks (reactions : Reactions) (m : Module) :
    reactions.hooks.hook m.url = (reactions.reaction m).toHook := by
  unfold Hooks.hook hooks reaction
  rw [Table.get?_map fun _ => Reaction.toHook]
  cases Table.get? m.url reactions <;> rfl

end Reactions

namespace Gui

/-- A module that is polled goes on loading, or its task does all that it does at once. -/
theorem poll_module_eq (reactions : Reactions) (transport : Transport) (g : Gui) (url : String) :
    (g.pollModule transport reactions.hooks url).1 =
      match g.session.poll transport Client.loader url with
      | (session, none) => { g with session := session }
      | (session, some outcome) =>
          let task := Task.ofLoaded reactions.reaction url outcome
          endModule ⟨session, g.registry, g.loader.enqueueAll task.requests⟩ url task.ending := by
  unfold pollModule
  generalize g.session.poll transport Client.loader url = polled
  obtain ⟨session, outcome⟩ := polled
  cases outcome with
  | none => rfl
  | some outcome =>
      cases outcome with
      | error e => rfl
      | ok resource =>
          have hhook := reactions.hook_hooks ⟨url, resource⟩
          simp only [arrive, hhook, Reaction.toHook, declare, Task.ofLoaded]
          cases (reactions.reaction ⟨url, resource⟩).result <;> rfl

end Gui

namespace Assembly

/-- A task that ends forgets what it was to do. -/
theorem conclude_set_task (s : Assembly) (task : Option Task)
    (ending : Except ResourceError Module) :
    (s.setTask url task).conclude url ending = s.conclude url ending := by
  have htasks : (fun other => if other = url then none
      else if other = url then task else s.tasks other) =
      fun other => if other = url then none else s.tasks other := by
    funext other
    split <;> rfl
  simp only [conclude, setTask, htasks]

/-- A task that is not interrupted makes all requests of its hook and ends. -/
theorem run_proceed {task : Task} (htask : s.tasks url = some task) :
    s.run hook (List.replicate (task.requests.length + 1) (.proceed url)) =
      conclude { s with gui := { s.gui with loader := s.gui.loader.enqueueAll task.requests } } url
        task.ending := by
  obtain ⟨requests, ending⟩ := task
  induction requests generalizing s with
  | nil =>
      show s.step hook (.proceed url) = s.conclude url ending
      rw [step, htask]
      rfl
  | cons next rest ih =>
      show (s.step hook (.proceed url)).run hook
        (List.replicate (rest.length + 1) (.proceed url)) = _
      rw [step, htask]
      have hrest : (s.proceed url ⟨next :: rest, ending⟩).tasks url = some ⟨rest, ending⟩ := by
        simp [proceed, setTask]
      rw [ih hrest]
      exact conclude_set_task { s with gui := { s.gui with
        loader := s.gui.loader.enqueueAll (next :: rest) } } (some ⟨rest, ending⟩) ending

/-- No task is in the middle of its hook, and these are the requests from outside. -/
def Rests (s : Assembly) (external : List String) : Prop :=
  (∀ url, s.tasks url = none) ∧ s.external = external

/-- Some acts lead to a user interface, with no task in the middle of its hook. -/
def Leads (hook : Module → Reaction) (external : List String) (s : Assembly) (g : Gui) : Prop :=
  ∃ acts, (s.run hook acts).gui = g ∧ (s.run hook acts).Rests external

variable {g g' : Gui} {reactions : Reactions} {transport : Transport}

/-- What acts lead to after a run, they lead to before it. -/
theorem leads_of_run {acts : List Act} (h : Leads hook external (s.run hook acts) g) :
    Leads hook external s g := by
  obtain ⟨more, hmore⟩ := h
  refine ⟨acts ++ more, ?_⟩
  have happend : s.run hook (acts ++ more) = (s.run hook acts).run hook more := List.foldl_append
  rwa [happend]

/-- What acts lead to can be led on. -/
theorem Leads.trans (h : Leads hook external s g)
    (hnext : ∀ s' : Assembly, s'.gui = g → s'.Rests external → Leads hook external s' g') :
    Leads hook external s g' := by
  obtain ⟨acts, hg, hrests⟩ := h
  exact leads_of_run (hnext (s.run hook acts) hg hrests)

/-- A single act leads on, if it leaves no task in the middle of its hook. -/
theorem leads_step (act : Act) (hg : (s.step hook act).gui = g)
    (hrests : (s.step hook act).Rests external) : Leads hook external s g :=
  ⟨[act], hg, hrests⟩

/-- Without the only task there may be, there is none. -/
theorem tasks_set_task_none (h : ∀ other, other ≠ url → s.tasks other = none) (other : String) :
    (s.setTask url none).tasks other = none := by
  show (if other = url then none else s.tasks other) = none
  split
  next => rfl
  next hother => exact h other hother

/-- Polling an outstanding module is among the things that acts lead to. -/
theorem leads_poll_module (hrests : s.Rests external) (hurl : url ∈ s.gui.loader.outstanding) :
    Leads reactions.reaction external s (s.gui.pollModule transport reactions.hooks url).1 := by
  have hload : s.step reactions.reaction (.load transport url) =
      s.load reactions.reaction transport url := by
    rw [step, if_pos ⟨hurl, by simp [hrests.1 url]⟩]
  rw [Gui.poll_module_eq]
  unfold load at hload
  generalize s.gui.session.poll transport Client.loader url = polled at hload ⊢
  obtain ⟨session, outcome⟩ := polled
  cases outcome with
  | none =>
      refine leads_step (.load transport url) (by rw [hload]) ?_
      rw [hload]
      exact ⟨tasks_set_task_none fun other _ => hrests.1 other, hrests.2⟩
  | some outcome =>
      have htask : (s.step reactions.reaction (.load transport url)).tasks url =
          some (Task.ofLoaded reactions.reaction url outcome) := by
        rw [hload]
        simp [setTask]
      refine ⟨.load transport url :: List.replicate
        ((Task.ofLoaded reactions.reaction url outcome).requests.length + 1) (.proceed url), ?_⟩
      show ((s.step _ (.load transport url)).run _ _).gui = _ ∧
        ((s.step _ (.load transport url)).run _ _).Rests external
      rw [run_proceed htask, hload]
      refine ⟨rfl, tasks_set_task_none fun other hother => ?_, hrests.2⟩
      show (if other = url then _ else s.tasks other) = none
      rw [if_neg hother, hrests.1 other]

/-- So is polling modules in the order of a round. -/
theorem leads_poll_modules_from (turns position : Nat) (hrests : s.Rests external) :
    Leads reactions.reaction external s
      (s.gui.pollModulesFrom transport reactions.hooks turns position).1 := by
  induction turns generalizing s position with
  | zero => exact ⟨[], rfl, hrests⟩
  | succ turns ih =>
      unfold Gui.pollModulesFrom
      split
      next => exact ⟨[], rfl, hrests⟩
      next url hurl =>
        have hpoll : Leads reactions.reaction external s
            (s.gui.pollModule transport reactions.hooks url).1 :=
          leads_poll_module hrests (List.mem_of_getElem? hurl)
        generalize s.gui.pollModule transport reactions.hooks url = polled at hpoll ⊢
        obtain ⟨g, waits⟩ := polled
        refine hpoll.trans fun s' hg hrests' => ?_
        obtain rfl : s'.gui = g := hg
        cases waits with
        | true => exact ih (position + 1) hrests'
        | false => exact ih position hrests'

/-- What a wait does when it looks at the loader. -/
def lookAt (watched : List String) (g : Gui) : Gui × (List String ⊕ Except ResourceError Unit) :=
  let (loader, answer) := g.loader.check watched
  ({ g with loader := loader }, answer)

/-- A wait in rounds that ends has looked at an assembly that acts lead to. -/
theorem leads_drive {answer : Except ResourceError Unit} (fuel : Nat) (watched : List String)
    (hrests : s.Rests external)
    (h : s.gui.drive transport reactions.hooks lookAt (fun _ _ => none) fuel watched =
      (g, some answer)) :
    ∃ g' watched', Leads reactions.reaction external s g' ∧
      lookAt watched' g' = (g, .inr answer) := by
  induction fuel generalizing s watched with
  | zero => cases h
  | succ fuel ih =>
      unfold Gui.drive at h
      have hlook : Leads reactions.reaction external s (lookAt watched s.gui).1 :=
        leads_step (.look watched) rfl hrests
      generalize hstate : lookAt watched s.gui = looked at h hlook
      obtain ⟨looked, state⟩ := looked
      cases state with
      | inr found =>
          obtain ⟨rfl, rfl⟩ : looked = g ∧ found = answer := by simpa using h
          exact ⟨s.gui, watched, ⟨[], rfl, hrests⟩, hstate⟩
      | inl watched' =>
          dsimp only at h hlook
          split at h
          next => cases h
          next round hround =>
            -- A round polls the modules, and then time passes.
            have hpass : Leads reactions.reaction external s
                ((looked.pollModules transport reactions.hooks).1.advanceTo
                  (looked.pollModules transport reactions.hooks).2 round) := by
              refine hlook.trans fun s' hg hrests' => ?_
              obtain rfl : s'.gui = looked := hg
              have hpolls : Leads reactions.reaction external s'
                  (s'.gui.pollModules transport reactions.hooks).1 :=
                leads_poll_modules_from Gui.turns 0 hrests'
              refine hpolls.trans fun s'' hg' hrests'' => ?_
              exact leads_step (.pass _ round) (congrArg (Gui.advanceTo · _ round) hg') hrests''
            obtain ⟨acts, hg, hrests'⟩ := hpass
            rw [← hg] at h
            obtain ⟨g', watched'', hleads, hanswer⟩ := ih watched' hrests' h
            exact ⟨g', watched'', leads_of_run hleads, hanswer⟩

/-- A wait of a program that ends is a look after some more acts. -/
theorem IsSound.exists_look_of_await_modules {answer : Except ResourceError Unit}
    (h : s.IsSound reactions.reaction) (hrests : s.Rests external)
    (hawait : s.gui.awaitModules transport reactions.hooks = (g, some answer)) :
    ∃ acts watched, (s.run reactions.reaction acts).gui = g ∧
      (s.run reactions.reaction acts).external = external ∧
      ((s.run reactions.reaction acts).gui.loader.check watched).2 = .inr answer := by
  obtain ⟨g', watched, ⟨acts, rfl, _, hexternal⟩, hlook⟩ := leads_drive _ [] hrests hawait
  have hsound := is_sound_run h acts
  refine ⟨acts, watched, ?_, hexternal, congrArg Prod.snd hlook⟩
  have hsame := (hsound.converged (congrArg Prod.snd hlook)).2
  have hgui := congrArg Prod.fst hlook
  dsimp only [lookAt] at hgui
  rwa [hsame] at hgui

/-- A wait of a program that ends is right. -/
theorem IsSound.converged_await_modules {answer : Except ResourceError Unit}
    (h : s.IsSound reactions.reaction) (hrests : s.Rests external)
    (hawait : s.gui.awaitModules transport reactions.hooks = (g, some answer)) :
    Converged reactions.reaction external g answer := by
  obtain ⟨acts, watched, rfl, rfl, hlook⟩ := h.exists_look_of_await_modules hrests hawait
  exact ((is_sound_run h acts).converged hlook).1

end Assembly

/-- Whatever a program and the fetches of its modules do in whatever order, a wait for all modules
ends at the first look after a module has failed or none is outstanding. If it succeeds, the loaded
modules are the requested ones, which are exactly those that are needed; otherwise it tells of a
needed module that has failed. The waits that a program makes in rounds are no exception. -/
theorem modules_converge (session : Session) (registry : Registry) (acts : List Act) :
    (∀ hook : Module → Reaction,
      let s := (Assembly.start session registry).run hook acts
      ∀ watched,
        ((∃ answer, (s.gui.loader.check watched).2 = .inr answer) ↔
          s.failures ≠ [] ∨ s.gui.loader.outstanding = []) ∧
        ∀ answer, (s.gui.loader.check watched).2 = .inr answer →
          Converged hook s.external s.gui answer) ∧
    ∀ reactions : Reactions,
      let s := (Assembly.start session registry).run reactions.reaction acts
      (∀ url, s.tasks url = none) → ∀ transport g answer,
        s.gui.awaitModules transport reactions.hooks = (g, some answer) →
          Converged reactions.reaction s.external g answer := by
  constructor
  · intro hook s watched
    have hsound : s.IsSound hook :=
      Assembly.is_sound_run (Assembly.is_sound_start session registry) acts
    exact ⟨hsound.ends_iff watched, fun answer hlook => (hsound.converged hlook).1⟩
  · intro reactions s hnone transport g answer hawait
    have hsound : s.IsSound reactions.reaction :=
      Assembly.is_sound_run (Assembly.is_sound_start session registry) acts
    exact hsound.converged_await_modules ⟨hnone, rfl⟩ hawait

end Widgetry
