import Widgetry.Module.Rounds
import Widgetry.Proofs.Fetching.Coalescing
import Widgetry.Proofs.Modules.Ledger

/-!
# Modules at work

The tasks of modules, requests from outside, waits and other loads over the same cache take turns in
any order. A task can be interrupted between the end of its load, each request of its hook and its
own end. An `Assembly` is what has come of it so far. `Assembly.IsSound` relates the modules that
were requested to those that are needed, task by task; `IsSound.step` is the step lemma, and
`is_sound_run` says that every run keeps it.
-/

namespace Widgetry

/-- What a hook does with a loaded module: it requests others in order, then succeeds or fails. -/
structure Reaction where
  enqueue : List String
  result : Except ResourceError Unit

/-- A task whose load has ended: what its hook is yet to request, and how the task ends then. -/
structure Task where
  requests : List String
  ending : Except ResourceError Module

/-- The task of a module whose load has ended. Without a resource there is no hook to run. -/
def Task.ofLoaded (hook : Module → Reaction) (url : String) : Loaded → Task
  | .error e => ⟨[], .error e⟩
  | .ok resource =>
      let reaction := hook ⟨url, resource⟩
      ⟨reaction.enqueue, reaction.result.map fun _ => ⟨url, resource⟩⟩

/-- The session after something has happened to loads that are not those of modules. -/
def Session.after (s : Session) : Event → Session
  | .poll transport client url => (s.poll transport client url).1
  | .abandon client url => s.release [(client, url)]
  | .pass round => s.advanceTo round

/-- End a module: it is loaded, or it has failed. -/
def Gui.endModule (g : Gui) (url : String) : Except ResourceError Module → Gui
  | .ok m => { g with loader := g.loader.finish m }
  | .error e => g.failModule url e

/-- What can happen next: a module is requested from outside, the task of a module looks at its
load, a task goes on after its load, a wait looks at the loader, time passes, and somebody else uses
the cache. -/
inductive Act where
  | request (url : String)
  | load (transport : Transport) (url : String)
  | proceed (url : String)
  | look (watched : List String)
  | pass (position round : Nat)
  | other (event : Event)

/-- What has come of some acts: the user interface, the tasks between the end of their loads and
their own ends, the requests from outside, and the failures in their order. -/
structure Assembly where
  gui : Gui
  tasks : String → Option Task
  external : List String
  failures : List (String × ResourceError)

namespace Assembly

/-- Nothing was requested yet, over a cache that may have been used before. -/
def start (session : Session) (registry : Registry) : Assembly :=
  ⟨⟨session, registry, .empty⟩, fun _ => none, [], []⟩

/-- Change the task of a module. -/
def setTask (s : Assembly) (url : String) (task : Option Task) : Assembly :=
  { s with tasks := fun other => if other = url then task else s.tasks other }

/-- End the task of a module. -/
def conclude (s : Assembly) (url : String) (ending : Except ResourceError Module) : Assembly :=
  { s.setTask url none with
    gui := s.gui.endModule url ending
    failures := match ending with
      | .ok _ => s.failures
      | .error e => s.failures ++ [(url, e)] }

/-- Let a task go on by one request of its hook, or end it. -/
def proceed (s : Assembly) (url : String) : Task → Assembly
  | ⟨next :: rest, ending⟩ =>
      { s.setTask url (some ⟨rest, ending⟩) with gui := (s.gui.enqueue next).1 }
  | ⟨[], ending⟩ => s.conclude url ending

/-- Let the task of a module look at its load. -/
def load (hook : Module → Reaction) (s : Assembly) (transport : Transport) (url : String) :
    Assembly :=
  let (session, outcome) := s.gui.session.poll transport Client.loader url
  { s.setTask url (outcome.map (Task.ofLoaded hook url)) with
    gui := { s.gui with session := session } }

/-- What an act does. A module has a task that loads while it is outstanding and its load has not
ended. -/
def step (hook : Module → Reaction) (s : Assembly) : Act → Assembly
  | .request url => { s with gui := (s.gui.enqueue url).1, external := s.external ++ [url] }
  | .load transport url =>
      if url ∈ s.gui.loader.outstanding ∧ (s.tasks url).isNone then s.load hook transport url else s
  | .proceed url =>
      match s.tasks url with
      | some task => s.proceed url task
      | none => s
  | .look watched => { s with gui := { s.gui with loader := (s.gui.loader.check watched).1 } }
  | .pass position round => { s with gui := s.gui.advanceTo position round }
  | .other event => { s with gui := { s.gui with session := s.gui.session.after event } }

/-- What acts do in order. -/
def run (hook : Module → Reaction) (s : Assembly) (acts : List Act) : Assembly :=
  acts.foldl (step hook) s

end Assembly

/-! ## What is needed -/

/-- The modules that are needed: the least set with those requested from outside and, for each of
its members that was fetched, those that its hook requests. -/
inductive Needed (hook : Module → Reaction) (cache : Cache) (external : List String) :
    String → Prop where
  | external {url} : url ∈ external → Needed hook cache external url
  | enqueued {url other resource} : Needed hook cache external url →
      cache.outcome? url = some (.ok resource) → other ∈ (hook ⟨url, resource⟩).enqueue →
      Needed hook cache external other

/-- The module could not be fetched, or its hook fails. -/
def Fails (hook : Module → Reaction) (cache : Cache) (url : String) (e : ResourceError) : Prop :=
  cache.outcome? url = some (.error e) ∨
    ∃ resource, cache.outcome? url = some (.ok resource) ∧
      (hook ⟨url, resource⟩).result = .error e

/-- Another cache has all outcomes of a cache, and perhaps more. -/
def Cache.Keeps (cache cache' : Cache) : Prop :=
  ∀ url outcome, cache.outcome? url = some outcome → cache'.outcome? url = some outcome

variable {hook : Module → Reaction} {cache cache' : Cache} {external : List String}
  {url : String} {e : ResourceError}

/-- What is needed stays needed while more is requested and fetched. -/
theorem Needed.mono (h : Needed hook cache external url) (hkeeps : cache.Keeps cache')
    {external' : List String} (hexternal : ∀ url ∈ external, url ∈ external') :
    Needed hook cache' external' url := by
  induction h with
  | external hmem => exact .external (hexternal _ hmem)
  | enqueued _ houtcome hmem ih => exact .enqueued ih (hkeeps _ _ houtcome) hmem

/-- What fails stays failed. -/
theorem Fails.mono (h : Fails hook cache url e) (hkeeps : cache.Keeps cache') :
    Fails hook cache' url e := by
  rcases h with houtcome | ⟨resource, houtcome, hresult⟩
  · exact .inl (hkeeps _ _ houtcome)
  · exact .inr ⟨resource, hkeeps _ _ houtcome, hresult⟩

/-- A poll keeps all outcomes. -/
theorem Session.keeps_poll (s : Session) (transport : Transport) (client : Client) (url : String) :
    s.cache.Keeps (s.poll transport client url).1.cache := by
  intro other outcome houtcome
  rw [Cache.outcome?_eq_some] at houtcome ⊢
  exact (poll_polled transport client url s).settled_stays houtcome

/-- Whatever happens to other loads keeps all outcomes. -/
theorem Session.keeps_after (s : Session) (event : Event) :
    s.cache.Keeps (s.after event).cache := by
  cases event with
  | poll transport client url => exact s.keeps_poll transport client url
  | abandon client url =>
      intro other outcome houtcome
      rw [Cache.outcome?_eq_some] at houtcome ⊢
      exact settled_release houtcome
  | pass round => exact fun _ _ houtcome => houtcome

/-- A task that ends with a module has passed its hook. -/
theorem ending_of_loaded {outcome : Loaded} {m : Module}
    (h : (Task.ofLoaded hook url outcome).ending = .ok m) :
    ∃ resource, outcome = .ok resource ∧ m = ⟨url, resource⟩ ∧ (hook m).result = .ok () := by
  cases outcome with
  | error e => cases h
  | ok resource =>
      simp only [Task.ofLoaded] at h
      cases hresult : (hook ⟨url, resource⟩).result with
      | error e => simp [hresult, Except.map] at h
      | ok =>
          simp only [hresult, Except.map, Except.ok.injEq] at h
          subst h
          exact ⟨resource, rfl, rfl, hresult⟩

/-- A task that ends with an error tells of a module that fails. -/
theorem fails_of_loaded {outcome : Loaded} (houtcome : cache.outcome? url = some outcome)
    (h : (Task.ofLoaded hook url outcome).ending = .error e) : Fails hook cache url e := by
  cases outcome with
  | error cause =>
      obtain rfl : cause = e := Except.error.inj h
      exact .inl houtcome
  | ok resource =>
      refine .inr ⟨resource, houtcome, ?_⟩
      simp only [Task.ofLoaded] at h
      cases hresult : (hook ⟨url, resource⟩).result with
      | error cause => simpa [hresult, Except.map] using h
      | ok => simp [hresult, Except.map] at h

/-- The requests of a task are needed if its module is. -/
theorem needed_of_loaded {outcome : Loaded} {other : String}
    (hneeded : Needed hook cache external url) (houtcome : cache.outcome? url = some outcome)
    (hmem : other ∈ (Task.ofLoaded hook url outcome).requests) :
    Needed hook cache external other := by
  cases outcome with
  | error cause => cases hmem
  | ok resource => exact .enqueued hneeded houtcome hmem

namespace Assembly

/-- The task of an outstanding module is the rest of what its load and its hook come to, and the
requests that it has made are there. -/
structure IsUnderway (hook : Module → Reaction) (s : Assembly) (url : String) (task : Task) :
    Prop where
  outstanding : url ∈ s.gui.loader.outstanding
  stems : ∃ outcome made, s.gui.session.cache.outcome? url = some outcome ∧
    Task.ofLoaded hook url outcome = ⟨made ++ task.requests, task.ending⟩ ∧
    ∀ other ∈ made, other ∈ s.gui.loader.requested

/-- The ledger is balanced. All requests from outside and all requests of hooks that have passed are
there, and only what is needed was requested. Tasks are under way, loaded modules have passed, and
failures are real. -/
structure IsSound (hook : Module → Reaction) (s : Assembly) : Prop where
  balances : s.gui.loader.Balances s.failures
  external : ∀ url ∈ s.external, url ∈ s.gui.loader.requested
  needed : ∀ url ∈ s.gui.loader.requested, Needed hook s.gui.session.cache s.external url
  tasks : ∀ url task, s.tasks url = some task → s.IsUnderway hook url task
  loaded : ∀ m ∈ s.gui.loader.modules,
    s.gui.session.cache.outcome? m.url = some (.ok m.resource) ∧ (hook m).result = .ok () ∧
      ∀ other ∈ (hook m).enqueue, other ∈ s.gui.loader.requested
  failed : ∀ failure ∈ s.failures, Fails hook s.gui.session.cache failure.1 failure.2

variable {s : Assembly} {task : Task}

/-! ## What keeps an assembly sound -/

/-- Loads may end at any time. -/
theorem IsSound.session (h : s.IsSound hook) (session : Session)
    (hkeeps : s.gui.session.cache.Keeps session.cache) :
    IsSound hook { s with gui := { s.gui with session := session } } where
  balances := h.balances
  external := h.external
  needed := fun url hurl => (h.needed url hurl).mono hkeeps fun _ hmem => hmem
  tasks := by
    intro url task htask
    obtain ⟨houtstanding, outcome, made, houtcome, hstems⟩ := h.tasks url task htask
    exact ⟨houtstanding, outcome, made, hkeeps _ _ houtcome, hstems⟩
  loaded := fun m hm => ⟨hkeeps _ _ (h.loaded m hm).1, (h.loaded m hm).2⟩
  failed := fun failure hfailure => (h.failed failure hfailure).mono hkeeps

/-- Other bookkeeping of the same modules does no harm. -/
theorem IsSound.loader (h : s.IsSound hook) (loader : Loader)
    (hbalances : loader.Balances s.failures) (hmodules : loader.modules = s.gui.loader.modules)
    (hrequested : loader.requested = s.gui.loader.requested)
    (houtstanding : ∀ url ∈ s.gui.loader.outstanding, url ∈ loader.outstanding) :
    IsSound hook { s with gui := { s.gui with loader := loader } } := by
  refine ⟨hbalances, ?_, ?_, ?_, ?_, h.failed⟩
  · show ∀ url ∈ s.external, url ∈ loader.requested
    rw [hrequested]
    exact h.external
  · show ∀ url ∈ loader.requested, _
    rw [hrequested]
    exact h.needed
  · intro url task htask
    obtain ⟨hurl, hstems⟩ := h.tasks url task htask
    refine ⟨houtstanding url hurl, ?_⟩
    show ∃ outcome made, _ ∧ _ ∧ ∀ other ∈ made, other ∈ loader.requested
    rw [hrequested]
    exact hstems
  · show ∀ m ∈ loader.modules, _ ∧ _ ∧ ∀ other ∈ _, other ∈ loader.requested
    rw [hmodules, hrequested]
    exact h.loaded

/-- What is needed may be requested, from outside or by a hook. -/
theorem IsSound.enqueue (h : s.IsSound hook) {external : List String}
    (hold : ∀ other ∈ s.external, other ∈ external)
    (hnew : ∀ other ∈ external, other ∈ s.external ∨ other = url)
    (hneeded : Needed hook s.gui.session.cache external url) :
    IsSound hook { s with gui := (s.gui.enqueue url).1, external := external } := by
  have hkept : ∀ other ∈ s.gui.loader.requested, other ∈ (s.gui.loader.enqueue url).requested :=
    fun _ hother => Loader.mem_requested_enqueue.mpr (.inl hother)
  refine ⟨h.balances.enqueue url, ?_, ?_, ?_, ?_, h.failed⟩
  · intro other hother
    show other ∈ (s.gui.loader.enqueue url).requested
    rw [Loader.mem_requested_enqueue]
    rcases hnew other hother with hbefore | rfl
    · exact .inl (h.external other hbefore)
    · exact .inr rfl
  · intro other hother
    rcases Loader.mem_requested_enqueue.mp hother with hbefore | rfl
    · exact (h.needed other hbefore).mono (fun _ _ houtcome => houtcome) hold
    · exact hneeded
  · intro other task htask
    obtain ⟨hother, outcome, made, houtcome, hstems, hmade⟩ := h.tasks other task htask
    exact ⟨Loader.mem_outstanding_enqueue hother, outcome, made, houtcome, hstems,
      fun place hplace => hkept place (hmade place hplace)⟩
  · show ∀ m ∈ (s.gui.loader.enqueue url).modules, _
    rw [Loader.modules_enqueue]
    intro m hm
    obtain ⟨houtcome, hresult, hrequests⟩ := h.loaded m hm
    exact ⟨houtcome, hresult, fun other hother => hkept other (hrequests other hother)⟩

/-- A task may begin or go on, as long as it is the task of its module. -/
theorem IsSound.setTask (h : s.IsSound hook) (url : String) (task : Option Task)
    (hunderway : ∀ found, task = some found → s.IsUnderway hook url found) :
    (s.setTask url task).IsSound hook where
  balances := h.balances
  external := h.external
  needed := h.needed
  loaded := h.loaded
  failed := h.failed
  tasks := by
    intro other found hfound
    simp only [Assembly.setTask] at hfound
    split at hfound
    · rename_i hother
      subst hother
      exact ⟨(hunderway found hfound).outstanding, (hunderway found hfound).stems⟩
    · exact ⟨(h.tasks other found hfound).outstanding, (h.tasks other found hfound).stems⟩

/-- The tasks of other modules are not touched when one leaves. -/
theorem IsSound.underway_of_leave (h : s.IsSound hook) (loader : Loader) {other : String}
    {found : Task} (hfound : (s.setTask url none).tasks other = some found)
    (hrequested : loader.requested = s.gui.loader.requested)
    (houtstanding : loader.outstanding = s.gui.loader.outstanding.erase url) :
    other ∈ loader.outstanding ∧ ∃ outcome made,
      s.gui.session.cache.outcome? other = some outcome ∧
      Task.ofLoaded hook other outcome = ⟨made ++ found.requests, found.ending⟩ ∧
      ∀ place ∈ made, place ∈ loader.requested := by
  simp only [Assembly.setTask] at hfound
  split at hfound
  · cases hfound
  · rename_i hne
    obtain ⟨hmem, hstems⟩ := h.tasks other found hfound
    rw [houtstanding, hrequested]
    exact ⟨(List.mem_erase_of_ne hne).mpr hmem, hstems⟩

/-- A task ends when its hook has made all requests. -/
theorem IsSound.conclude (h : s.IsSound hook) {ending : Except ResourceError Module}
    (htask : s.tasks url = some ⟨[], ending⟩) : (s.conclude url ending).IsSound hook := by
  obtain ⟨hurl, outcome, made, houtcome, hstems, hmade⟩ := h.tasks url _ htask
  have hending : (Task.ofLoaded hook url outcome).ending = ending := by rw [hstems]
  cases ending with
  | ok m =>
      obtain ⟨resource, rfl, rfl, hresult⟩ := ending_of_loaded hending
      -- Nothing is left to request, so that what the task made are all requests of the hook.
      have hrequests : (hook ⟨url, resource⟩).enqueue = made := by
        simpa [Task.ofLoaded] using congrArg Task.requests hstems
      refine ⟨h.balances.finish hurl, h.external, h.needed, ?_, ?_, h.failed⟩
      · intro other found hfound
        obtain ⟨hother, hothers⟩ :=
          h.underway_of_leave (s.gui.loader.finish ⟨url, resource⟩) hfound rfl rfl
        exact ⟨hother, hothers⟩
      · intro m hm
        rcases List.mem_append.mp hm with hm | hm
        · exact h.loaded m hm
        · obtain rfl := List.mem_singleton.mp hm
          refine ⟨houtcome, hresult, ?_⟩
          rw [hrequests]
          exact hmade
  | error e =>
      have hfails := fails_of_loaded houtcome hending
      refine ⟨h.balances.failModule e hurl, h.external, h.needed, ?_, h.loaded, ?_⟩
      · intro other found hfound
        obtain ⟨hother, hothers⟩ :=
          h.underway_of_leave (s.gui.loader.failModule url e) hfound rfl rfl
        exact ⟨hother, hothers⟩
      · intro failure hfailure
        rcases List.mem_append.mp hfailure with hfailure | hfailure
        · exact h.failed failure hfailure
        · rw [List.mem_singleton.mp hfailure]
          exact hfails

/-- A task goes on as its hook does. -/
theorem IsSound.proceed (h : s.IsSound hook) (htask : s.tasks url = some task) :
    (s.proceed url task).IsSound hook := by
  obtain ⟨requests, ending⟩ := task
  cases requests with
  | nil => exact h.conclude htask
  | cons next rest =>
      obtain ⟨hurl, outcome, made, houtcome, hstems, hmade⟩ := h.tasks url _ htask
      have hneeded : Needed hook s.gui.session.cache s.external next := by
        refine needed_of_loaded (h.needed url ?_) houtcome (by simp [hstems])
        exact h.balances.mem_requested_iff.mpr (.inl hurl)
      have hsound := h.enqueue (fun _ hother => hother) (fun _ => .inl) hneeded
      refine hsound.setTask url (some ⟨rest, ending⟩) ?_
      intro found hfound
      obtain rfl := Option.some.inj hfound
      -- The request that was just made joins those made before.
      refine ⟨Loader.mem_outstanding_enqueue hurl, outcome, made ++ [next], houtcome,
        by simp [hstems], ?_⟩
      intro other hother
      show other ∈ (s.gui.loader.enqueue next).requested
      rw [Loader.mem_requested_enqueue]
      rcases List.mem_append.mp hother with hother | hother
      · exact .inl (hmade other hother)
      · exact .inr (List.mem_singleton.mp hother)

/-- The task of an outstanding module looks at its load. -/
theorem IsSound.load (h : s.IsSound hook) (transport : Transport)
    (hurl : url ∈ s.gui.loader.outstanding) : (s.load hook transport url).IsSound hook := by
  have hsound := h.session _ (s.gui.session.keeps_poll transport Client.loader url)
  refine hsound.setTask url _ ?_
  intro found hfound
  obtain ⟨outcome, houtcome, rfl⟩ := Option.map_eq_some_iff.mp hfound
  exact ⟨hurl, outcome, [], houtcome, rfl, nofun⟩

/-- Every act keeps an assembly sound. -/
theorem IsSound.step (h : s.IsSound hook) (act : Act) : (s.step hook act).IsSound hook := by
  cases act with
  | request url =>
      refine h.enqueue (fun _ hother => List.mem_append_left _ hother) ?_ (.external (by simp))
      intro other hother
      simpa using hother
  | load transport url =>
      rw [Assembly.step]
      split
      · rename_i hload
        exact h.load transport hload.1
      · exact h
  | proceed url =>
      rw [Assembly.step]
      split
      · rename_i task htask
        exact h.proceed htask
      · exact h
  | look watched =>
      rcases h.balances.check_cases watched with ⟨_, _, _, _, hcheck⟩ | ⟨_, _, hcheck⟩ |
        ⟨_, _, hcheck⟩
      · simpa [Assembly.step, hcheck] using h
      · simpa [Assembly.step, hcheck] using h
      · refine h.loader _ ?_ ?_ ?_ ?_ <;> rw [hcheck]
        · exact ⟨h.balances.requested, h.balances.nodup, h.balances.failure, h.balances.crashed⟩
        · exact fun _ hurl => hurl
  | pass position round =>
      have hsound := h.session (s.gui.session.advanceTo round) fun _ _ hkept => hkept
      refine hsound.loader _ (h.balances.reorder position _) rfl rfl ?_
      intro url hurl
      exact (Loader.perm_reorder s.gui.loader position _).mem_iff.mpr hurl
  | other event => exact h.session _ (s.gui.session.keeps_after event)

/-- Every run keeps an assembly sound. -/
theorem is_sound_run (h : s.IsSound hook) (acts : List Act) : (s.run hook acts).IsSound hook := by
  induction acts generalizing s with
  | nil => exact h
  | cons act acts ih => exact ih (h.step act)

/-- Where nothing was requested there is nothing to be wrong. -/
theorem is_sound_start (session : Session) (registry : Registry) :
    (start session registry).IsSound hook where
  balances := Loader.balances_empty
  external := nofun
  needed := nofun
  tasks := nofun
  loaded := nofun
  failed := nofun

end Assembly

end Widgetry
