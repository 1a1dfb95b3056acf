import Widgetry.Proofs.Rendering.Refinement

/-!
# Crowded rows

A long row of children is polled backward in the second round. If the last of them is a medium that
had no place in the first round, it is the first to be fetched in the second, ahead of all other
media that have waited: `calls_of_crowded_row`. So the order of fetches is not always that of the
document: `crowded_fetches_out_of_order`.
-/

namespace Widgetry

namespace Loading

open Session

variable {transport : Transport} {outcomes : Outcomes} {delays : String → Nat}
  {support : MediaSupport} {turned : Bool} {s : Session} {client : Client}
  {request : MediaRequest}

/-! ## The last part of a row -/

/-- Polled backward, the last part comes first. -/
theorem poll_backward_concat (s : Session) (parts : List Loading) (last : Loading) :
    pollBackward transport support turned s (parts ++ [last]) =
      let final := last.poll transport support turned s
      let others := pollBackward transport support turned final.1 parts
      (others.1, others.2 ++ [final.2]) := by
  induction parts with
  | nil =>
      rw [List.nil_append, poll_backward_cons]
      simp [pollBackward]
  | cons part parts ih =>
      rw [List.cons_append, poll_backward_cons, ih]
      dsimp only
      rw [poll_backward_cons]
      rfl

/-- Polled forward, the last part comes last, if nothing can fail. -/
theorem poll_forward_concat (inOrder clear : Bool) (hcoherent : s.IsCoherent outcomes)
    (parts : List Loading) (hclear : ∀ part ∈ parts, part.Clear outcomes support)
    (last : Loading) :
    pollForward (outcomes.after delays) support turned inOrder clear s (parts ++ [last]) =
      let others := pollForward (outcomes.after delays) support turned inOrder clear s parts
      let final := last.poll (outcomes.after delays) support turned others.1
      (final.1, others.2 ++ [final.2]) := by
  induction parts generalizing s clear with
  | nil =>
      rw [List.nil_append, poll_forward_cons]
      simp [pollForward]
  | cons part parts ih =>
      rw [List.forall_mem_cons] at hclear
      rw [List.cons_append, poll_forward_cons, poll_forward_cons]
      have hpassed : let polled := part.poll (outcomes.after delays) support turned s
          Passed outcomes delays support turned s part polled.1 polled.2 :=
        poll_sweeps hcoherent part hclear.1
      have hcoherent' : (part.poll (outcomes.after delays) support turned s).1.IsCoherent
          outcomes := (poll_lawful hcoherent part).coherent
      generalize part.poll (outcomes.after delays) support turned s = first
        at hpassed hcoherent' ⊢
      have hfailed : ¬ (first.2.isFailed && (clear || !inOrder)) = true := by
        intro h
        exact not_clear_of_failed (Bool.and_eq_true_iff.mp h).1 hpassed.clear
      dsimp only
      rw [if_neg hfailed, if_neg hfailed, ih _ hcoherent' hclear.2]
      rfl

/-- A medium that has no outcome after it was polled is still awaited. -/
theorem medium_of_none {turned : Bool} {polled : Session × Loading}
    (hpolled : poll (outcomes.after delays) support turned s (.medium client request) = polled)
    (hnone : polled.1.cache.outcome? request.source = none) :
    polled.2 = .medium client request := by
  rw [poll] at hpolled
  subst hpolled
  obtain ⟨s₁, _, hcases⟩ := poll_medium_cases (outcomes.after delays) support s client request
  rcases hcases with ⟨_, heq⟩ | ⟨e, failure, houtcome, heq⟩ | ⟨resource, houtcome, hcases⟩
  · rw [heq]
  · rw [heq, houtcome] at hnone
    cases hnone
  · rcases hcases with ⟨_, failure, heq⟩ | ⟨_, log, heq⟩
    · rw [heq, houtcome] at hnone
      cases hnone
    · rw [heq] at hnone
      change s₁.cache.outcome? request.source = none at hnone
      rw [houtcome] at hnone
      cases hnone

/-- A row of which the last part has no outcome after a forward pass. -/
theorem poll_row_concat (hcoherent : s.IsCoherent outcomes) {parts : List Loading}
    (hclear : ∀ part ∈ parts ++ [.medium client request], part.Clear outcomes support)
    {polled : Session × Loading}
    (hpolled : poll (outcomes.after delays) support false s
      (.row (parts ++ [.medium client request])) = polled)
    (hnone : polled.1.cache.outcome? request.source = none) :
    ∃ parts', parts'.length = parts.length ∧
      polled.2 = .row (parts' ++ [.medium client request]) := by
  rw [poll_row] at hpolled
  unfold pollParts at hpolled
  rw [Bool.and_false, if_neg Bool.false_ne_true] at hpolled
  generalize isInOrder (parts ++ [.medium client request]) = inOrder at hpolled
  have hpassed :
      let passed := pollForward (outcomes.after delays) support false inOrder true s
        (parts ++ [.medium client request])
      PassedAll outcomes delays support True s (parts ++ [.medium client request]) passed.1
        passed.2 :=
    poll_forward_sweeps hcoherent _ true _ (fun _ _ _ => .inl rfl) hclear
  rw [poll_forward_concat _ _ hcoherent _ (List.forall_mem_append.mp hclear).1] at hpolled hpassed
  generalize pollForward (outcomes.after delays) support false inOrder true s parts = others
    at hpolled hpassed
  dsimp only at hpolled hpassed
  obtain ⟨final, hfinal⟩ : ∃ final, poll (outcomes.after delays) support false others.1
    (.medium client request) = final := ⟨_, rfl⟩
  rw [hfinal] at hpolled hpassed
  have hlength : others.2.length = parts.length := by
    simpa using hpassed.length
  -- The session of the row is that of the last poll, in which the medium has no outcome.
  have hlast : final.1.cache.outcome? request.source = none → final.2 = .medium client request :=
    medium_of_none hfinal
  rcases conclude_cases inOrder final.1 (others.2 ++ [final.2]) with
    ⟨e, ⟨part, hpart, hfailed⟩, _⟩ | ⟨harrived, heq⟩ | ⟨_, heq⟩
  · exact (not_clear_of_failed hfailed (hpassed.clear part hpart)).elim
  · rw [← hpolled, heq] at hnone
    have hmedium := harrived final.2 (by simp)
    rw [hlast hnone] at hmedium
    cases hmedium
  · rw [← hpolled, heq] at hnone ⊢
    exact ⟨others.2, hlength, by rw [hlast hnone]⟩

/-- What a row makes of its parts adds no calls. -/
theorem calls_conclude (inOrder : Bool) (s : Session) (parts : List Loading) :
    (conclude inOrder s parts).1.calls = s.calls := by
  rcases conclude_cases inOrder s parts with ⟨e, _, heq⟩ | ⟨_, heq⟩ | ⟨_, heq⟩
  · rw [heq]
    rfl
  · rw [heq]
  · rw [heq]

/-- A fresh medium at the end of a long row is the first to be fetched in a backward pass. -/
theorem calls_of_backward (hcoherent : s.IsCoherent outcomes) (hunreserved : s.IsUnreserved)
    (hclient : client ≠ Client.loader) {parts : List Loading}
    (hlong : shortLimit < (parts ++ [Loading.medium client request]).length)
    (hfresh : s.isFresh request.source = true) (hallowance : 0 < s.allowance) :
    s.calls ++ [request.source] <+:
      (poll (outcomes.after delays) support true s
        (.row (parts ++ [.medium client request]))).1.calls := by
  have hinOrder : isInOrder (parts ++ [.medium client request]) = true := decide_eq_true hlong
  rw [poll_row, calls_conclude]
  unfold pollParts
  rw [hinOrder, Bool.and_true, if_pos rfl, poll_backward_concat]
  dsimp only
  rw [poll]
  obtain ⟨s₁, hpolled, hcases⟩ :=
    poll_medium_cases (outcomes.after delays) support s client request
  have hcalls : s₁.calls = s.calls ++ [request.source] := by
    rcases hpolled.begins hunreserved hclient with ⟨_, _, _, hexhausted⟩ | ⟨hcalls, _⟩
    · have hnone := hexhausted hfresh
      omega
    · exact hcalls
  have hfinal : (s.pollMedium (outcomes.after delays) support client request).1.calls =
      s₁.calls := by
    rcases hcases with
      ⟨_, heq⟩ | ⟨e, failure, _, heq⟩ | ⟨resource, _, ⟨_, failure, heq⟩ | ⟨_, log, heq⟩⟩
    · rw [heq]
    · rw [heq]
    · rw [heq]
    · rw [heq]
  rw [← hcalls, ← hfinal]
  exact (poll_backward_lawful (poll_medium_lawful hcoherent client request).coherent parts).calls

end Loading

namespace Session

variable {s : Session} {client : Client} {url : String} {loads : List (Client × String)}

/-- The round of a load lies ahead. -/
theorem now_lt_of_due {round : Nat} (hdue : s.due client url = some round) : s.now < round := by
  unfold due at hdue
  split at hdue
  · cases hdue
    exact Nat.lt_succ_self _
  · cases hdue
    exact Nat.lt_succ_self _
  · split at hdue
    · cases hdue
      exact Nat.lt_succ_self _
    · cases hdue
  · split at hdue
    · obtain ⟨answered, _, rfl⟩ := Option.map_eq_some_iff.mp hdue
      omega
    · cases hdue

/-- The next round for some loads is not later than that of one of them. -/
theorem next_due_le {load : Client × String} {round : Nat} (hload : load ∈ loads)
    (hdue : s.due load.1 load.2 = some round) :
    ∃ next, s.nextDue loads = some next ∧ next ≤ round := by
  induction loads with
  | nil => exact (List.not_mem_nil hload).elim
  | cons first loads ih =>
      rw [nextDue]
      rcases List.mem_cons.mp hload with rfl | hload
      · rw [hdue]
        cases s.nextDue loads with
        | none => exact ⟨round, rfl, Nat.le_refl round⟩
        | some later => exact ⟨_, rfl, Nat.min_le_left round later⟩
      · obtain ⟨next, hnext, hle⟩ := ih hload
        rw [hnext]
        cases s.due first.1 first.2 with
        | none => exact ⟨next, rfl, hle⟩
        | some earlier =>
            exact ⟨_, rfl, Nat.le_trans (Nat.min_le_right earlier next) hle⟩

/-- A load that waits for an allowance is polled in the very next round. -/
theorem next_due_of_idle (hload : (client, url) ∈ loads) (hidle : s.cache.entry url = .idle) :
    s.nextDue loads = some (s.now + 1) := by
  have hdue : s.due client url = some (s.now + 1) := by
    unfold due
    rw [hidle]
  obtain ⟨next, hnext, hle⟩ := next_due_le hload hdue
  obtain ⟨other, _, hother⟩ := exists_due_of_next_due hnext
  have hlater := now_lt_of_due hother
  rw [hnext, Nat.le_antisymm hle hlater]

variable {outcomes : Outcomes} {delays : String → Nat} {support : MediaSupport}
  {request : MediaRequest} {parts : List Loading}

/-- The load of the last part of a row. -/
theorem mem_loads_concat (parts : List Loading) (client : Client) (request : MediaRequest) :
    (client, request.source) ∈ (Loading.row (parts ++ [.medium client request])).loads := by
  rw [Loading.loads]
  induction parts with
  | nil => simp [Loading.loadsOf, Loading.loads]
  | cons part parts ih =>
      rw [List.cons_append, Loading.loadsOf]
      exact List.mem_append_right _ ih

/-- A medium at the end of a row, late enough that the first round has no place for it, waits there
for the second round. -/
theorem first_round_of_crowded_row (delays : String → Nat)
    (hclear : (Loading.row (parts ++ [.medium client request])).Clear outcomes support)
    (hclients : ∀ load ∈ (Loading.row (parts ++ [.medium client request])).loads,
      load.1 ≠ Client.loader)
    {urls : List String}
    (hurls : (Loading.row (parts ++ [.medium client request])).loads.map Prod.snd = urls)
    (hlate : request.source ∉ urls.eraseDups.take fullAllowance) :
    ∃ s₁ parts', Session.empty.pollMedia (outcomes.after delays) support false
        (.row (parts ++ [.medium client request])) =
          (s₁, .row (parts' ++ [.medium client request])) ∧
      parts'.length = parts.length ∧ s₁.IsCoherent outcomes ∧ s₁.IsUnreserved ∧ s₁.now = 0 ∧
      s₁.calls = urls.eraseDups.take fullAllowance ∧ s₁.isFresh request.source = true := by
  obtain ⟨polled, hpolled⟩ : ∃ polled, Loading.poll (outcomes.after delays) support false
    Session.empty (.row (parts ++ [.medium client request])) = polled := ⟨_, rfl⟩
  have hpassed : Loading.Passed outcomes delays support false Session.empty
      (.row (parts ++ [.medium client request])) polled.1 polled.2 := by
    rw [← hpolled]
    exact Loading.poll_sweeps is_coherent_empty _ hclear
  have hswept := hpassed.swept.mono fun _ : True => .inl rfl
  have htended := hswept.tended is_unreserved_empty hclients
  have hcalls := hswept.calls_of_first hclients
  rw [hurls] at hcalls
  -- The first round fetches the first sources only, and this one is not among them.
  have hfresh : polled.1.isFresh request.source = true := by
    cases hurl : polled.1.isFresh request.source with
    | true => rfl
    | false =>
        have hcalled := ((htended.tallied is_tallied_empty).mem_calls request.source).mpr hurl
        rw [hcalls] at hcalled
        exact (hlate hcalled).elim
  have hnone : polled.1.cache.outcome? request.source = none := by
    unfold Cache.outcome?
    rw [is_fresh_iff.mp hfresh]
  obtain ⟨order, remaining, _, _, hsweep, _⟩ := hswept
  cases hclear with
  | row hclear =>
      obtain ⟨parts', hlength, hrow⟩ :=
        Loading.poll_row_concat is_coherent_empty hclear hpolled hnone
      have hcoherent : polled.1.IsCoherent outcomes := by
        rw [← hpolled]
        exact (Loading.poll_lawful is_coherent_empty _).coherent
      refine ⟨polled.1, parts', ?_, hlength, hcoherent, htended.unreserved,
        (hsweep.works is_unreserved_empty).2, hcalls, hfresh⟩
      unfold pollMedia
      rw [hpolled, ← hrow]
      rfl

/-- What is fetched in the first pass of a round stays fetched. -/
theorem calls_of_pass (turned : Bool) (loading : Loading) (hcoherent : s.IsCoherent outcomes) :
    (loading.poll (outcomes.after delays) support turned s).1.calls <+:
      (s.pollMedia (outcomes.after delays) support turned loading).1.calls := by
  have hcoherent' : (loading.poll (outcomes.after delays) support turned s).1.IsCoherent
      outcomes := (Loading.poll_lawful hcoherent loading).coherent
  unfold pollMedia
  generalize loading.poll (outcomes.after delays) support turned s = polled at hcoherent' ⊢
  dsimp only
  split
  · exact (Loading.poll_lawful hcoherent' polled.2).calls
  · exact List.prefix_refl _

/-- What is fetched in one round of waiting stays fetched. -/
theorem calls_of_round (start fuel : Nat) (loading : Loading) (hcoherent : s.IsCoherent outcomes) :
    (s.pollMedia (outcomes.after delays) support (s.isTurned start) loading).1.calls <+:
      (s.awaitMedia (outcomes.after delays) support start (fuel + 1) loading).1.calls := by
  rw [Loading.await_media_succ]
  have hlawful : (s.pollMedia (outcomes.after delays) support (s.isTurned start)
      loading).1.IsCoherent outcomes := (poll_media_lawful hcoherent).coherent
  generalize s.pollMedia (outcomes.after delays) support (s.isTurned start) loading = polled
    at hlawful ⊢
  dsimp only
  split
  · exact List.prefix_refl _
  · exact List.prefix_refl _
  · split
    · rename_i round _
      have hrest :
          let awaited := (polled.1.advanceTo round).awaitMedia (outcomes.after delays) support
            start fuel polled.2
          Loading.Lawful outcomes (polled.1.advanceTo round) awaited.1
            (polled.2.Clear outcomes support) (awaited.2 = some (.ok ())) :=
        await_media_lawful start fuel polled.2 (hlawful.advance round)
      exact hrest.calls
    · exact List.prefix_refl _

/-- A late medium at the end of a long row is fetched right after the fetches of the first round. -/
theorem calls_of_second_round (fuel : Nat)
    (hlong : shortLimit < (parts ++ [Loading.medium client request]).length)
    (hclear : (Loading.row (parts ++ [.medium client request])).Clear outcomes support)
    (hclients : ∀ load ∈ (Loading.row (parts ++ [.medium client request])).loads,
      load.1 ≠ Client.loader)
    {urls : List String}
    (hurls : (Loading.row (parts ++ [.medium client request])).loads.map Prod.snd = urls)
    (hlate : request.source ∉ urls.eraseDups.take fullAllowance) :
    urls.eraseDups.take fullAllowance ++ [request.source] <+:
      (Session.empty.awaitMedia (outcomes.after delays) support 0 (fuel + 2)
        (.row (parts ++ [.medium client request]))).1.calls := by
  obtain ⟨s₁, parts', hfirst, hlength, hcoherent, hunreserved, hnow, hcalls, hfresh⟩ :=
    first_round_of_crowded_row delays hclear hclients hurls hlate
  have hforward : Session.empty.isTurned 0 = false := rfl
  have hround : s₁.nextDue (Loading.row (parts' ++ [.medium client request])).loads = some 1 := by
    rw [next_due_of_idle (mem_loads_concat parts' client request) (is_fresh_iff.mp hfresh), hnow]
  rw [Loading.await_media_succ, hforward, hfirst]
  dsimp only
  rw [hround]
  dsimp only
  -- The second round is turned: it begins at the end of the row, with a full allowance.
  have hturned : (s₁.advanceTo 1).isTurned 0 = true := by
    unfold isTurned advanceTo
    rw [hnow]
    rfl
  have hlong' : shortLimit < (parts' ++ [Loading.medium client request]).length := by
    rw [List.length_append] at hlong ⊢
    omega
  have hclient := hclients _ (mem_loads_concat parts client request)
  have hbackward : s₁.calls ++ [request.source] <+:
      (Loading.poll (outcomes.after delays) support true (s₁.advanceTo 1)
        (.row (parts' ++ [.medium client request]))).1.calls :=
    Loading.calls_of_backward (hcoherent.advance 1) hunreserved hclient hlong' hfresh
      (Nat.zero_lt_succ _)
  have hboth :
      (Loading.poll (outcomes.after delays) support true (s₁.advanceTo 1)
        (.row (parts' ++ [.medium client request]))).1.calls <+:
      ((s₁.advanceTo 1).pollMedia (outcomes.after delays) support true
        (.row (parts' ++ [.medium client request]))).1.calls :=
    calls_of_pass true _ (hcoherent.advance 1)
  have hrest :
      ((s₁.advanceTo 1).pollMedia (outcomes.after delays) support ((s₁.advanceTo 1).isTurned 0)
        (.row (parts' ++ [.medium client request]))).1.calls <+:
      ((s₁.advanceTo 1).awaitMedia (outcomes.after delays) support 0 (fuel + 1)
        (.row (parts' ++ [.medium client request]))).1.calls :=
    calls_of_round 0 fuel _ (hcoherent.advance 1)
  rw [hturned] at hrest
  rw [← hcalls]
  exact (hbackward.trans hboth).trans hrest

end Session

namespace Widget

open Session

variable {outcomes : Outcomes} {delays : String → Nat} {support : MediaSupport}

/-- The last of some widgets is loaded after the others. -/
theorem loadings_concat (position : Nat) (widgets : List Widget) (last : Widget) :
    loadings position (widgets ++ [last]) =
      let others := loadings position widgets
      let final := last.loading others.1
      (final.1, others.2 ++ [final.2]) := by
  induction widgets generalizing position with
  | nil =>
      rw [List.nil_append, loadings, loadings]
      rfl
  | cons widget widgets ih =>
      rw [List.cons_append, loadings, loadings]
      generalize loading position widget = first
      dsimp only
      rw [ih]
      rfl

/-- There is one part for each widget. -/
theorem length_loadings (position : Nat) (widgets : List Widget) :
    (loadings position widgets).2.length = widgets.length := by
  induction widgets generalizing position with
  | nil => rfl
  | cons widget widgets ih =>
      rw [loadings]
      exact congrArg (· + 1) (ih _)

/-- A widget with many children of which the last is a medium: if the first round has no place for
that medium, it is fetched right after the fetches of the first round, whatever waits before it. -/
theorem calls_of_crowded_row (delays : String → Nat) {frame last : Frame}
    {children contents : List Widget} {request : MediaRequest} {widget : Widget}
    (hwidget : widget = .node frame (children ++ [.node last contents]))
    (hframe : frame.request? = none) (hlast : last.request? = some request)
    (hlong : shortLimit ≤ children.length)
    (hplays : ∀ request ∈ widget.requests, outcomes.Plays support request)
    (hlate : request.source ∉ widget.sources.eraseDups.take fullAllowance) :
    widget.sources.eraseDups.take fullAllowance ++ [request.source] <+:
      (Session.empty.render (outcomes.after delays) support widget).1.calls := by
  obtain ⟨hsources, hclients⟩ := loads_loading 0 widget
  have hclear := (clear_loading 0 widget).mpr hplays
  obtain ⟨parts, client, hlength, hloading⟩ : ∃ parts client, parts.length = children.length ∧
      (widget.loading 0).2 = .row (parts ++ [.medium client request]) := by
    refine ⟨(loadings 0 children).2, Client.awaited (loadings 0 children).1,
      length_loadings 0 children, ?_⟩
    rw [hwidget, loading, hframe]
    dsimp only
    rw [loadings_concat]
    dsimp only
    rw [loading, hlast]
  obtain ⟨s₁, rest, s', hrender, _⟩ :=
    render_completes delays is_coherent_empty is_quiet_empty hplays
  -- Drawing fetches nothing, so that all fetches are those of the wait for the media.
  have hcalls : (Session.empty.render (outcomes.after delays) support widget).1.calls =
      (Session.empty.awaitMedia (outcomes.after delays) support 0
        (3 * (widget.loading 0).2.loads.length + 2) (widget.loading 0).2).1.calls := by
    unfold render at hrender ⊢
    dsimp only at hrender ⊢
    split
    · rename_i hdone
      exact congrArg (·.1.calls) hdone.symm
    · rename_i hdone
      rw [hdone] at hrender
      cases hrender
    · rename_i hdone
      exact congrArg (·.1.calls) hdone.symm
  rw [hcalls]
  rw [hloading] at hsources hclients hclear ⊢
  refine calls_of_second_round _ ?_ hclear hclients hsources hlate
  rw [List.length_append, hlength]
  exact Nat.lt_succ_of_le hlong

/-! ## Galleries -/

/-- Images side by side. -/
def gallery (sources : List String) : Widget :=
  .node (.layout (List.replicate sources.length (.ofInt 1)) [.ofInt 1])
    (sources.map fun source => .node (.image source none) [])

/-- A gallery needs its images. -/
theorem requests_gallery (sources : List String) :
    (gallery sources).requests = sources.map fun source => ⟨.image, source⟩ := by
  show requestsOf _ = _
  induction sources with
  | nil => rfl
  | cons source sources ih => exact congrArg (⟨.image, source⟩ :: ·) ih

/-- The sources of a gallery. -/
theorem sources_gallery (urls : List String) : (gallery urls).sources = urls := by
  unfold sources
  rw [requests_gallery, List.map_map]
  exact List.map_id urls

/-- A list in which nothing is repeated is its own list of distinct elements. -/
theorem erase_dups_of_nodup {urls : List String} (hnodup : urls.Nodup) : urls.eraseDups = urls := by
  induction urls with
  | nil => rfl
  | cons url urls ih =>
      obtain ⟨hurl, hnodup⟩ := List.nodup_cons.mp hnodup
      have hothers : urls.filter (fun other => !other == url) = urls := by
        refine List.filter_eq_self.mpr fun other hother => ?_
        simpa using fun heq : other = url => hurl (heq ▸ hother)
      rw [List.eraseDups_cons, hothers, ih hnodup]

/-- A gallery has its last image at its end. -/
theorem gallery_concat (urls : List String) (final : String) :
    ∃ frame, frame.request? = none ∧ gallery (urls ++ [final]) =
      .node frame (urls.map (fun source => .node (.image source none) []) ++
        [.node (.image final none) []]) := by
  unfold gallery
  rw [List.map_append]
  exact ⟨_, rfl, rfl⟩

/-- As many images as one round admits, then one image twice and another one at the end: rendering
succeeds, but the last image is fetched before the one that is there twice. -/
theorem gallery_out_of_order (delays : String → Nat) {urls : List String} (hnodup : urls.Nodup)
    (hlength : urls.length = fullAllowance) {twice final : String} (htwice : twice ∉ urls)
    (hfinal : final ∉ urls) (hdistinct : twice ≠ final)
    (hplays : ∀ source, outcomes.Plays support ⟨.image, source⟩) :
    (∃ drawn, (Session.empty.render (outcomes.after delays) support
        (gallery (urls ++ [twice, twice, final]))).2 = some (.ok drawn)) ∧
      (Session.empty.render (outcomes.after delays) support
          (gallery (urls ++ [twice, twice, final]))).1.calls ≠
        (gallery (urls ++ [twice, twice, final])).sources.eraseDups := by
  have hsources : (gallery (urls ++ [twice, twice, final])).sources.eraseDups =
      urls ++ [twice, final] := by
    rw [sources_gallery, List.eraseDups_append, erase_dups_of_nodup hnodup]
    simp [List.removeAll, List.eraseDups_cons, htwice, hfinal, hdistinct.symm]
  have htake : (gallery (urls ++ [twice, twice, final])).sources.eraseDups.take fullAllowance =
      urls := by
    rw [hsources, ← hlength, List.take_left]
  have hlate : final ∉
      (gallery (urls ++ [twice, twice, final])).sources.eraseDups.take fullAllowance := by
    rw [htake]
    exact hfinal
  have hrequests : ∀ request ∈ (gallery (urls ++ [twice, twice, final])).requests,
      outcomes.Plays support request := by
    intro request hrequest
    rw [requests_gallery] at hrequest
    obtain ⟨source, _, rfl⟩ := List.mem_map.mp hrequest
    exact hplays source
  have hassoc : urls ++ [twice, twice, final] = urls ++ [twice, twice] ++ [final] := by simp
  obtain ⟨frame, hframe, hgallery⟩ := gallery_concat (urls ++ [twice, twice]) final
  rw [← hassoc] at hgallery
  have hlong : shortLimit ≤ ((urls ++ [twice, twice]).map fun source =>
      Widget.node (.image source none) []).length := by
    rw [List.length_map, List.length_append, hlength]
    exact Nat.le_add_right_of_le (by decide)
  have hcalls : urls ++ [final] <+: (Session.empty.render (outcomes.after delays) support
      (gallery (urls ++ [twice, twice, final]))).1.calls := by
    have hcrowded := calls_of_crowded_row delays hgallery hframe rfl hlong hrequests hlate
    rw [htake] at hcrowded
    exact hcrowded
  constructor
  · obtain ⟨s₁, rest, s', hrender, _⟩ :=
      render_completes delays is_coherent_empty is_quiet_empty hrequests
    exact ⟨_, congrArg Prod.snd hrender⟩
  · intro heq
    rw [heq, hsources, List.prefix_append_right_inj] at hcalls
    exact hdistinct (List.cons_prefix_cons.mp hcalls).1.symm

/-- No letter is a numeral. -/
theorem not_mem_numerals {letter : Char} (hletter : letter.isDigit = false) (numbers : List Nat) :
    String.ofList [letter] ∉ numbers.map Text.decimal := by
  intro hmem
  obtain ⟨number, _, hnumber⟩ := List.mem_map.mp hmem
  have hdigits : Nat.toDigits 10 number = [letter] := String.ofList_injective hnumber
  have hdigit : letter.isDigit = true :=
    Nat.isDigit_of_mem_toDigits (by decide) (by decide) (hdigits ▸ List.mem_singleton_self letter)
  rw [hletter] at hdigit
  cases hdigit

/-- Images with the numbers up to 127 as sources, then `a` twice and `c`. -/
def crowded : Widget :=
  gallery ((List.range 128).map Text.decimal ++ ["a", "a", "c"])

/-- Fetches do not always come in document order. -/
theorem crowded_fetches_out_of_order :
    let outcomes : Outcomes := fun _ => .ok ⟨[], some "image/png"⟩
    let rendered := Session.empty.render (outcomes.after fun _ => 0) (fun _ _ => .probably) crowded
    (∃ drawn, rendered.2 = some (.ok drawn)) ∧
      rendered.1.calls ≠ crowded.sources.eraseDups := by
  have hnodup : ((List.range 128).map Text.decimal).Nodup :=
    List.pairwise_map.mpr (List.nodup_range.imp fun hne heq => hne (decimal_injective heq))
  have hlength : ((List.range 128).map Text.decimal).length = fullAllowance := by
    rw [List.length_map, List.length_range]
    rfl
  have ha : "a" ∉ (List.range 128).map Text.decimal := not_mem_numerals (by decide) _
  have hc : "c" ∉ (List.range 128).map Text.decimal := not_mem_numerals (by decide) _
  unfold crowded
  exact gallery_out_of_order (fun _ => 0) hnodup hlength ha hc (by decide)
    fun _ => ⟨_, rfl, nofun⟩

end Widget

end Widgetry
