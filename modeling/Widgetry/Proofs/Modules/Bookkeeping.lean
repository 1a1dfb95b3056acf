import Mathlib.Data.List.Nodup
import Widgetry.Proofs.Modules.Convergence

/-!
# The books of a loader

Every requested module is under way, loaded or failed at any moment, the counts and lists of a
loader agree with that, and its failure is the first one for good. `Assembly.IsBooked` collects what
holds at every moment. The main theorem, `loader_books_are_kept`, adds what waits make of it,
whenever and however many there are.
-/

namespace Widgetry

open scoped List

/-- Where a requested module can be. -/
inductive Phase where
  | underway
  | loaded
  | failed
  deriving Repr, DecidableEq

/-- The modules in a phase. -/
def Assembly.inPhase (s : Assembly) : Phase → List String
  | .underway => s.gui.loader.outstanding
  | .loaded => s.gui.loader.modules.map Module.url
  | .failed => s.failures.map Prod.fst

/-- Every module is requested once and is in one phase. As many modules are counted as are loaded,
and these are listed in the order of the requests. There is a failure as soon as a module has
failed: it is that of the first one to fail, as an error about modules. -/
structure Assembly.IsBooked (s : Assembly) : Prop where
  nodup : s.gui.loader.requested.Nodup
  phase : ∀ url ∈ s.gui.loader.requested, ∃! phase, url ∈ s.inPhase phase
  requested : ∀ phase, ∀ url ∈ s.inPhase phase, url ∈ s.gui.loader.requested
  count : s.gui.loader.modules.length = s.gui.loader.loaded.length
  loaded : s.gui.loader.loaded ~ s.gui.loader.modules
  order : s.gui.loader.loaded.map Module.url =
    s.gui.loader.requested.filter (· ∈ s.inPhase .loaded)
  failure : s.gui.loader.failure.isSome = true ↔ s.failures ≠ []
  first : s.gui.loader.failure =
    s.failures.head?.map fun failure => Loader.failureOf failure.1 failure.2
  moduleLoad : ∀ e, s.gui.loader.failure = some e → ∃ url reason, e = .moduleLoad url reason

namespace Loader

variable {loader : Loader} {failures : List (String × ResourceError)} {url : String}

/-- A loaded module is found by its URL. -/
theorem Balances.module?_eq_some_iff (h : loader.Balances failures) {m : Module} :
    loader.module? url = some m ↔ m ∈ loader.modules ∧ m.url = url := by
  unfold module?
  constructor
  · intro hfind
    exact ⟨List.mem_of_find?_eq_some hfind, by simpa using List.find?_some hfind⟩
  · rintro ⟨hm, rfl⟩
    cases hfind : loader.modules.find? fun found => found.url = m.url with
    | none => simpa using List.find?_eq_none.mp hfind m hm
    | some found =>
        have hfound : found ∈ loader.modules := List.mem_of_find?_eq_some hfind
        have hurl : found.url = m.url := by simpa using List.find?_some hfind
        rw [List.inj_on_of_nodup_map h.nodup_modules hfound hm hurl]

/-- The modules in the order of the requests are listed under the URLs that are loaded. -/
theorem Balances.map_url_loaded (h : loader.Balances failures) (urls : List String) :
    (urls.filterMap loader.module?).map Module.url =
      urls.filter (· ∈ loader.modules.map Module.url) := by
  induction urls with
  | nil => rfl
  | cons url urls ih =>
      cases hfind : loader.module? url with
      | none =>
          have hnot : url ∉ loader.modules.map Module.url := by
            intro hmem
            obtain ⟨m, hm, hurl⟩ := List.mem_map.mp hmem
            rw [h.module?_eq_some_iff.mpr ⟨hm, hurl⟩] at hfind
            cases hfind
          rw [List.filterMap_cons_none hfind, List.filter_cons_of_neg (by simpa using hnot), ih]
      | some m =>
          obtain ⟨hm, hurl⟩ := h.module?_eq_some_iff.mp hfind
          have hmem : url ∈ loader.modules.map Module.url := List.mem_map.mpr ⟨m, hm, hurl⟩
          rw [List.filterMap_cons_some hfind, List.filter_cons_of_pos (by simpa using hmem),
            List.map_cons, ih, hurl]

/-- The modules in the order of the requests are the loaded modules. -/
theorem Balances.loaded_perm (h : loader.Balances failures) : loader.loaded ~ loader.modules := by
  have hnodup : loader.loaded.Nodup := by
    apply List.Nodup.of_map Module.url
    rw [loaded, h.map_url_loaded]
    exact h.nodup.filter _
  refine (List.perm_ext_iff_of_nodup hnodup (h.nodup_modules.of_map Module.url)).mpr ?_
  intro m
  rw [loaded, List.mem_filterMap]
  constructor
  · rintro ⟨url, _, hfind⟩
    exact (h.module?_eq_some_iff.mp hfind).1
  · intro hm
    have hrequested : m.url ∈ loader.requested :=
      h.mem_requested_iff.mpr (.inr (.inl ⟨m, hm, rfl⟩))
    exact ⟨m.url, hrequested, h.module?_eq_some_iff.mpr ⟨hm, rfl⟩⟩

/-- Every failure is told as an error about a module. -/
theorem failure_of_eq (url : String) (e : ResourceError) :
    ∃ about reason, failureOf url e = .moduleLoad about reason := by
  cases e <;> exact ⟨_, _, rfl⟩

/-- A look ends with an error exactly if there is a failure, which it tells. -/
theorem Balances.check_error_iff (h : loader.Balances failures) (watched : List String)
    (e : ResourceError) :
    (loader.check watched).2 = .inr (.error e) ↔ loader.failure = some e := by
  rcases h.check_cases watched with ⟨url, cause, rest, hfailures, hcheck⟩ |
    ⟨hfailures, _, hcheck⟩ | ⟨hfailures, _, hcheck⟩
  · rw [hcheck, h.failure, hfailures]
    simp
  · rw [hcheck, h.failure, hfailures]
    simp
  · rw [hcheck, h.failure, hfailures]
    simp

/-- A look ends with success exactly if no module is under way or failed. -/
theorem Balances.check_ok_iff (h : loader.Balances failures) (watched : List String) :
    (loader.check watched).2 = .inr (.ok ()) ↔ loader.outstanding = [] ∧ failures = [] := by
  rcases h.check_cases watched with ⟨url, cause, rest, hfailures, hcheck⟩ |
    ⟨hfailures, hnone, hcheck⟩ | ⟨hfailures, hsome, hcheck⟩
  · simp [hcheck, hfailures]
  · simp [hcheck, hfailures, hnone]
  · simp [hcheck, hsome]

end Loader

namespace Assembly

variable {hook : Module → Reaction} {s : Assembly}

/-- A requested module is in one phase. -/
theorem IsSound.exists_unique_phase (h : s.IsSound hook) {url : String}
    (hurl : url ∈ s.gui.loader.requested) : ∃! phase, url ∈ s.inPhase phase := by
  obtain ⟨_, hended, hunderway⟩ := List.nodup_append.mp h.balances.nodup_phases
  obtain ⟨_, _, hloaded⟩ := List.nodup_append.mp hended
  have hmem := h.balances.requested.mem_iff.mp hurl
  rw [List.mem_append, List.mem_append] at hmem
  -- A module of two phases would be listed twice.
  rcases hmem with hmem | hmem | hmem
  · refine ⟨.underway, hmem, fun phase hphase => ?_⟩
    cases phase with
    | underway => rfl
    | loaded => exact absurd rfl (hunderway url hmem url (List.mem_append_left _ hphase))
    | failed => exact absurd rfl (hunderway url hmem url (List.mem_append_right _ hphase))
  · refine ⟨.loaded, hmem, fun phase hphase => ?_⟩
    cases phase with
    | underway => exact absurd rfl (hunderway url hphase url (List.mem_append_left _ hmem))
    | loaded => rfl
    | failed => exact absurd rfl (hloaded url hmem url hphase)
  · refine ⟨.failed, hmem, fun phase hphase => ?_⟩
    cases phase with
    | underway => exact absurd rfl (hunderway url hphase url (List.mem_append_right _ hmem))
    | loaded => exact absurd rfl (hloaded url hphase url hmem)
    | failed => rfl

/-- The books of a sound assembly are in order. -/
theorem IsSound.is_booked (h : s.IsSound hook) : s.IsBooked where
  nodup := h.balances.nodup
  phase := fun _ => h.exists_unique_phase
  requested := by
    intro phase url hurl
    rw [h.balances.requested.mem_iff, List.mem_append, List.mem_append]
    cases phase with
    | underway => exact .inl hurl
    | loaded => exact .inr (.inl hurl)
    | failed => exact .inr (.inr hurl)
  count := h.balances.loaded_perm.length_eq.symm
  loaded := h.balances.loaded_perm
  order := h.balances.map_url_loaded _
  failure := by
    rw [h.balances.failure]
    cases s.failures <;> simp
  first := h.balances.failure
  moduleLoad := by
    intro e he
    rw [h.balances.failure, Option.map_eq_some_iff] at he
    obtain ⟨failure, _, rfl⟩ := he
    exact Loader.failure_of_eq failure.1 failure.2

/-! ## Failures stay -/

/-- An act adds at most one failure, after those before it. -/
theorem failures_step (hook : Module → Reaction) (s : Assembly) (act : Act) :
    s.failures <+: (s.step hook act).failures := by
  cases act with
  | load transport url =>
      rw [step]
      split <;> exact List.prefix_refl _
  | proceed url =>
      rw [step]
      split
      next task _ =>
        obtain ⟨requests, ending⟩ := task
        cases requests with
        | cons next rest => exact List.prefix_refl _
        | nil =>
            cases ending with
            | ok m => exact List.prefix_refl _
            | error e => exact List.prefix_append _ _
      next => exact List.prefix_refl _
  | _ => exact List.prefix_refl _

/-- A run adds failures after those before it. -/
theorem failures_run (hook : Module → Reaction) (s : Assembly) (acts : List Act) :
    s.failures <+: (s.run hook acts).failures := by
  induction acts generalizing s with
  | nil => exact List.prefix_refl _
  | cons act acts ih => exact (failures_step hook s act).trans (ih _)

/-- The failure of a loader never changes. -/
theorem IsSound.failure_run (h : s.IsSound hook) (acts : List Act) {e : ResourceError}
    (he : s.gui.loader.failure = some e) : (s.run hook acts).gui.loader.failure = some e := by
  rw [h.balances.failure] at he
  rw [(is_sound_run h acts).balances.failure]
  obtain ⟨more, hmore⟩ := failures_run hook s acts
  rw [← hmore]
  cases hfailures : s.failures with
  | nil => simp [hfailures] at he
  | cons failure rest => simpa [hfailures] using he

end Assembly

/-- Whatever a program and the fetches of its modules do in whatever order, the books of a loader
are in order at every moment, and its failure never changes. A wait that looks at the loader
succeeds exactly if no module is under way and none has failed. It ends with an error exactly if
there is a failure, and so do all other waits from then on, with the same error. The waits that a
program makes in rounds are among these. -/
theorem loader_books_are_kept (session : Session) (registry : Registry) (acts more : List Act) :
    (∀ hook : Module → Reaction,
      let s := (Assembly.start session registry).run hook acts
      let later := s.run hook more
      s.IsBooked ∧
        (∀ e, s.gui.loader.failure = some e → later.gui.loader.failure = some e) ∧
        (∀ watched, (s.gui.loader.check watched).2 = .inr (.ok ()) ↔
          s.inPhase .underway = [] ∧ s.inPhase .failed = []) ∧
        (∀ watched e, (s.gui.loader.check watched).2 = .inr (.error e) ↔
          s.gui.loader.failure = some e) ∧
        ∀ watched watched' e, (s.gui.loader.check watched).2 = .inr (.error e) →
          (later.gui.loader.check watched').2 = .inr (.error e)) ∧
    ∀ reactions : Reactions,
      let s := (Assembly.start session registry).run reactions.reaction acts
      (∀ url, s.tasks url = none) → ∀ transport g answer,
        s.gui.awaitModules transport reactions.hooks = (g, some answer) →
          ∃ acts' watched, (s.run reactions.reaction acts').gui = g ∧
            (g.loader.check watched).2 = .inr answer := by
  constructor
  · intro hook s later
    have hsound : s.IsSound hook :=
      Assembly.is_sound_run (Assembly.is_sound_start session registry) acts
    have hlater : later.IsSound hook := Assembly.is_sound_run hsound more
    refine ⟨hsound.is_booked, fun e => hsound.failure_run more, ?_,
      hsound.balances.check_error_iff, ?_⟩
    · intro watched
      rw [hsound.balances.check_ok_iff]
      simp [Assembly.inPhase]
    · intro watched watched' e hlook
      have hfailure := (hsound.balances.check_error_iff watched e).mp hlook
      exact (hlater.balances.check_error_iff watched' e).mpr (hsound.failure_run more hfailure)
  · intro reactions s hnone transport g answer hawait
    have hsound : s.IsSound reactions.reaction :=
      Assembly.is_sound_run (Assembly.is_sound_start session registry) acts
    obtain ⟨acts', watched, rfl, _, hlook⟩ :=
      hsound.exists_look_of_await_modules ⟨hnone, rfl⟩ hawait
    exact ⟨acts', watched, rfl, hlook⟩

end Widgetry
