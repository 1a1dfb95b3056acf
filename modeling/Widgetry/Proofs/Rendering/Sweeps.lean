import Widgetry.Proofs.Fetching.Outcomes
import Widgetry.Rendering

/-!
# Passes over the media of a widget

A round of rendering polls the media that are under way. `poll_lawful` shows that a medium that
cannot be played is never forgotten: whatever was polled, if nothing has failed and nothing can
fail afterwards, then nothing could before. `poll_sweeps` reduces a pass over a tree in which
nothing can fail to a `Sweep`: a list of loads is polled one after the other, and those without an
outcome remain. The order of the list is that of the tree, unless a long row is polled backward.
-/

namespace Widgetry

/-- The fetch of a medium succeeds, and its family can play what it brings. -/
def Outcomes.Plays (outcomes : Outcomes) (support : MediaSupport) (request : MediaRequest) : Prop :=
  ∃ fetched, outcomes request.source = .ok fetched ∧
    support request.family (ContentKind.detect request.source fetched.type) ≠ .no

namespace Session

/-- `Sweep transport s loads s' rest` polls loads in their order. The loads that have an outcome
leave, the others remain. Notices may be logged. -/
inductive Sweep (transport : Transport) :
    Session → List (Client × String) → Session → List (Client × String) → Prop where
  | nil (s) : Sweep transport s [] s []
  | noted {s s' loads rest} (log) :
      Sweep transport { s with log := log } loads s' rest → Sweep transport s loads s' rest
  | arrived {s s₁ s' client url loads rest} (outcome) :
      s.Polled transport client url s₁ → s₁.cache.outcome? url = some outcome →
      Sweep transport s₁ loads s' rest → Sweep transport s ((client, url) :: loads) s' rest
  | waiting {s s₁ s' client url loads rest} :
      s.Polled transport client url s₁ → s₁.cache.outcome? url = none →
      Sweep transport s₁ loads s' rest →
      Sweep transport s ((client, url) :: loads) s' ((client, url) :: rest)

/-- Loads are swept in some order, and in their own order if `forward` holds. -/
def Swept (transport : Transport) (forward : Prop) (s : Session) (loads : List (Client × String))
    (s' : Session) (rest : List (Client × String)) : Prop :=
  ∃ order remaining, order.Perm loads ∧ remaining.Perm rest ∧
    Sweep transport s order s' remaining ∧ (forward → order = loads ∧ remaining = rest)

variable {transport : Transport} {forward : Prop} {s s₁ s' : Session}
  {loads loads₁ rest rest₁ : List (Client × String)}

/-- Two sweeps one after the other are one. -/
theorem Sweep.append (h : Sweep transport s loads s₁ rest)
    (h₁ : Sweep transport s₁ loads₁ s' rest₁) :
    Sweep transport s (loads ++ loads₁) s' (rest ++ rest₁) := by
  induction h with
  | nil s => exact h₁
  | noted log _ ih => exact .noted log (ih h₁)
  | arrived outcome hpolled houtcome _ ih => exact .arrived outcome hpolled houtcome (ih h₁)
  | waiting hpolled houtcome _ ih => exact .waiting hpolled houtcome (ih h₁)

/-- A sweep leaves at most the loads that there were. -/
theorem Sweep.length_le (h : Sweep transport s loads s' rest) : rest.length ≤ loads.length := by
  induction h with
  | nil s => exact Nat.le_refl _
  | noted log _ ih => exact ih
  | arrived outcome _ _ _ ih => exact Nat.le_succ_of_le ih
  | waiting _ _ _ ih => exact Nat.succ_le_succ ih

/-- Nothing is swept. -/
theorem Swept.nil : Swept transport forward s [] s [] :=
  ⟨[], [], .refl _, .refl _, .nil s, fun _ => ⟨rfl, rfl⟩⟩

/-- A sweep of no loads leaves none. -/
theorem Swept.eq_nil (h : Swept transport forward s [] s' rest) : rest = [] := by
  obtain ⟨order, remaining, horder, hremaining, hsweep, _⟩ := h
  have hnone := hsweep.length_le
  rw [horder.length_eq, hremaining.length_eq] at hnone
  exact List.eq_nil_of_length_eq_zero (Nat.le_zero.mp hnone)

/-- A sweep of no loads is in any order. -/
theorem Swept.of_nil {any : Prop} (h : Swept transport forward s [] s' rest) :
    Swept transport any s [] s' rest := by
  have hrest := h.eq_nil
  subst hrest
  obtain ⟨order, remaining, horder, hremaining, hsweep, _⟩ := h
  exact ⟨order, remaining, horder, hremaining, hsweep, fun _ => ⟨horder.eq_nil, hremaining.eq_nil⟩⟩

/-- What is swept first may stand first. -/
theorem Swept.append (h : Swept transport forward s loads s₁ rest)
    (h₁ : Swept transport forward s₁ loads₁ s' rest₁) :
    Swept transport forward s (loads ++ loads₁) s' (rest ++ rest₁) := by
  obtain ⟨order, remaining, horder, hremaining, hsweep, hforward⟩ := h
  obtain ⟨order₁, remaining₁, horder₁, hremaining₁, hsweep₁, hforward₁⟩ := h₁
  refine ⟨order ++ order₁, remaining ++ remaining₁, horder.append horder₁,
    hremaining.append hremaining₁, hsweep.append hsweep₁, ?_⟩
  intro hf
  obtain ⟨rfl, rfl⟩ := hforward hf
  obtain ⟨rfl, rfl⟩ := hforward₁ hf
  exact ⟨rfl, rfl⟩

/-- What is swept first may stand last, but then it is not swept forward. -/
theorem Swept.append_backward (h₁ : Swept transport forward s loads₁ s₁ rest₁)
    (h : Swept transport forward s₁ loads s' rest) (hbackward : ¬ forward) :
    Swept transport forward s (loads ++ loads₁) s' (rest ++ rest₁) := by
  obtain ⟨order, remaining, horder, hremaining, hsweep, _⟩ := h
  obtain ⟨order₁, remaining₁, horder₁, hremaining₁, hsweep₁, _⟩ := h₁
  refine ⟨order₁ ++ order, remaining₁ ++ remaining, ?_, ?_, hsweep₁.append hsweep, ?_⟩
  · exact (horder₁.append horder).trans List.perm_append_comm
  · exact (hremaining₁.append hremaining).trans List.perm_append_comm
  · exact fun hf => (hbackward hf).elim

/-- A sweep that is forward under one condition is so under any stronger one. -/
theorem Swept.mono {stronger : Prop} (hstronger : stronger → forward)
    (h : Swept transport forward s loads s' rest) : Swept transport stronger s loads s' rest := by
  obtain ⟨order, remaining, horder, hremaining, hsweep, hforward⟩ := h
  exact ⟨order, remaining, horder, hremaining, hsweep, fun hs => hforward (hstronger hs)⟩

end Session

namespace Loading

variable {transport : Transport} {support : MediaSupport} {outcomes : Outcomes} {turned : Bool}
  {delays : String → Nat} {s : Session} {loading : Loading} {parts : List Loading}

/-! ## Rows -/

/-- Nothing has failed, and every medium under way can be played. -/
inductive Clear (outcomes : Outcomes) (support : MediaSupport) : Loading → Prop where
  | arrived : Clear outcomes support .arrived
  | medium {client request} :
      outcomes.Plays support request → Clear outcomes support (.medium client request)
  | row {parts : List Loading} :
      (∀ part ∈ parts, Clear outcomes support part) → Clear outcomes support (.row parts)

/-- No row around loads is long. -/
inductive Narrow : Loading → Prop where
  | idle {loading : Loading} : loading.loads = [] → Narrow loading
  | medium (client request) : Narrow (.medium client request)
  | row {parts : List Loading} :
      parts.length ≤ shortLimit → (∀ part ∈ parts, Narrow part) → Narrow (.row parts)

/-- Something failed is not clear. -/
theorem not_clear_of_failed (hfailed : loading.isFailed = true) :
    ¬ loading.Clear outcomes support := by
  intro hclear
  cases hclear <;> cases hfailed

/-- Something that has arrived. -/
theorem eq_arrived_of_is_arrived (harrived : loading.isArrived = true) : loading = .arrived := by
  cases loading <;> first | rfl | cases harrived

/-- Poll the parts of a row in the order of the round. -/
def pollParts (transport : Transport) (support : MediaSupport) (turned : Bool) (s : Session)
    (parts : List Loading) : Session × List Loading :=
  if isInOrder parts && turned then pollBackward transport support turned s parts
  else pollForward transport support turned (isInOrder parts) true s parts

/-- Polling a row polls its parts. -/
theorem poll_row : poll transport support turned s (.row parts) =
    conclude (isInOrder parts) (pollParts transport support turned s parts).1
      (pollParts transport support turned s parts).2 := by
  rw [poll]
  rfl

/-- A row fails for one of its parts, or it has arrived with all its parts, or it remains a row. -/
theorem conclude_cases (inOrder : Bool) (s : Session) (parts : List Loading) :
    (∃ e, (∃ part ∈ parts, part.isFailed = true) ∧
      conclude inOrder s parts = (s.release (loadsOf parts), .failed e)) ∨
    ((∀ part ∈ parts, part = .arrived) ∧ conclude inOrder s parts = (s, .arrived)) ∨
    ((∃ part ∈ parts, part ≠ .arrived) ∧ conclude inOrder s parts = (s, .row parts)) := by
  unfold conclude gather
  split
  · rename_i e hgather
    left
    refine ⟨e, ?_, rfl⟩
    split at hgather
    · rename_i hdecisive
      exact ⟨_, List.mem_of_find?_eq_some hdecisive, rfl⟩
    · split at hgather <;> cases hgather
  · rename_i hgather
    right
    split
    · rename_i e hdecisive
      exact (hgather e (by rw [hdecisive])).elim
    · split
      · rename_i hall
        left
        refine ⟨fun part hpart => ?_, rfl⟩
        exact eq_arrived_of_is_arrived (List.all_eq_true.mp hall part hpart)
      · rename_i hall
        right
        refine ⟨?_, rfl⟩
        obtain ⟨part, hpart, harrived⟩ : ∃ part ∈ parts, ¬ part.isArrived = true := by
          simpa using hall
        refine ⟨part, hpart, ?_⟩
        rintro rfl
        exact harrived rfl

/-- Polling parts forward polls the first, and the others unless its failure counts. -/
theorem poll_forward_cons (inOrder clear : Bool) (part : Loading) (rest : List Loading) :
    pollForward transport support turned inOrder clear s (part :: rest) =
      let first := poll transport support turned s part
      if first.2.isFailed && (clear || !inOrder) then (first.1, first.2 :: rest)
      else
        let others := pollForward transport support turned inOrder
          (clear && first.2.isArrived) first.1 rest
        (others.1, first.2 :: others.2) := by
  rw [pollForward]

/-- Polling parts backward polls the others, then the first. -/
theorem poll_backward_cons (part : Loading) (rest : List Loading) :
    pollBackward transport support turned s (part :: rest) =
      let others := pollBackward transport support turned s rest
      let first := poll transport support turned others.1 part
      (first.1, first.2 :: others.2) := by
  rw [pollBackward]

/-! ## Media that cannot be played -/

/-- An arrived medium is refused, or accepted, perhaps with a notice. -/
theorem accept_cases (support : MediaSupport) (s : Session) (request : MediaRequest)
    (resource : Resource) :
    (support request.family resource.kind = .no ∧
      ∃ failure, s.accept support request resource = (s, .error failure)) ∨
    (support request.family resource.kind ≠ .no ∧
      ∃ log, s.accept support request resource = ({ s with log := log }, .ok ())) := by
  unfold Session.accept
  cases support request.family resource.kind with
  | no => exact .inl ⟨rfl, _, rfl⟩
  | probably => exact .inr ⟨nofun, s.log, rfl⟩
  | maybe => exact .inr ⟨nofun, _, rfl⟩

/-- Polling a medium polls its load. It remains under way without an outcome, fails with a bad
outcome or one that its family cannot play, and arrives with any other, perhaps with a notice. -/
theorem poll_medium_cases (transport : Transport) (support : MediaSupport) (s : Session)
    (client : Client) (request : MediaRequest) :
    ∃ s₁, s.Polled transport client request.source s₁ ∧
      ((s₁.cache.outcome? request.source = none ∧
          s.pollMedium transport support client request = (s₁, .medium client request)) ∨
        (∃ e failure, s₁.cache.outcome? request.source = some (.error e) ∧
          s.pollMedium transport support client request = (s₁, .failed failure)) ∨
        ∃ resource, s₁.cache.outcome? request.source = some (.ok resource) ∧
          ((support request.family resource.kind = .no ∧ ∃ failure,
              s.pollMedium transport support client request = (s₁, .failed failure)) ∨
            (support request.family resource.kind ≠ .no ∧ ∃ log,
              s.pollMedium transport support client request =
                ({ s₁ with log := log }, .arrived)))) := by
  have hpolled := Session.poll_polled transport client request.source s
  have houtcome := Session.poll_outcome transport client request.source s
  unfold Session.pollMedium
  generalize s.poll transport client request.source = polled at hpolled houtcome ⊢
  obtain ⟨s₁, outcome⟩ := polled
  refine ⟨s₁, hpolled, ?_⟩
  replace houtcome : outcome = s₁.cache.outcome? request.source := houtcome
  subst houtcome
  cases s₁.cache.outcome? request.source with
  | none => exact .inl ⟨rfl, rfl⟩
  | some loaded =>
      right
      cases loaded with
      | error e => exact .inl ⟨e, _, rfl, rfl⟩
      | ok resource =>
          right
          refine ⟨resource, rfl, ?_⟩
          rcases accept_cases support s₁ request resource with
            ⟨hno, failure, haccept⟩ | ⟨hyes, log, haccept⟩
          · exact .inl ⟨hno, failure, by simp only [haccept]⟩
          · exact .inr ⟨hyes, log, by simp only [haccept]⟩

/-- What holds of every pass over media, also of one in which something fails: the session stays
coherent, calls are only added, and what is clear afterwards was clear before. -/
structure Lawful (outcomes : Outcomes) (s s' : Session) (before after : Prop) : Prop where
  coherent : s'.IsCoherent outcomes
  calls : s.calls <+: s'.calls
  clear : after → before

/-- Nothing happens. -/
theorem Lawful.refl (hcoherent : s.IsCoherent outcomes) (clear : Prop) :
    Lawful outcomes s s clear clear :=
  ⟨hcoherent, List.prefix_refl _, id⟩

/-- What is clear may be said in other words. -/
theorem Lawful.imp {s' : Session} {before before' after after' : Prop}
    (h : Lawful outcomes s s' before after) (hbefore : before → before')
    (hafter : after' → after) : Lawful outcomes s s' before' after' :=
  ⟨h.coherent, h.calls, fun hclear => hbefore (h.clear (hafter hclear))⟩

/-- One pass after another. -/
theorem Lawful.trans {s₁ s' : Session} {before between after : Prop}
    (h : Lawful outcomes s s₁ before between) (h₁ : Lawful outcomes s₁ s' between after) :
    Lawful outcomes s s' before after :=
  ⟨h₁.coherent, h.calls.trans h₁.calls, fun hclear => h.clear (h₁.clear hclear)⟩

/-- A part and the others, one after the other. -/
theorem Lawful.both {s₁ s' : Session} {before before' after after' : Prop}
    (h : Lawful outcomes s s₁ before after) (h' : Lawful outcomes s₁ s' before' after') :
    Lawful outcomes s s' (before ∧ before') (after ∧ after') :=
  ⟨h'.coherent, h.calls.trans h'.calls, fun hclear => ⟨h.clear hclear.1, h'.clear hclear.2⟩⟩

/-- A medium that is clear after a poll was clear before, since it can be played if it arrives. -/
theorem poll_medium_lawful (hcoherent : s.IsCoherent outcomes) (client : Client)
    (request : MediaRequest) :
    let polled := s.pollMedium (outcomes.after delays) support client request
    Lawful outcomes s polled.1 (outcomes.Plays support request)
      (polled.2.Clear outcomes support) := by
  obtain ⟨s₁, hpolled, hcases⟩ :=
    poll_medium_cases (outcomes.after delays) support s client request
  have hcoherent' := hcoherent.polled hpolled
  have hcalls := hpolled.calls_prefix
  rcases hcases with ⟨_, heq⟩ | ⟨e, failure, _, heq⟩ | ⟨resource, houtcome, hcases⟩
  · rw [heq]
    refine ⟨hcoherent', hcalls, fun h => ?_⟩
    cases h with
    | medium hplays => exact hplays
  · rw [heq]
    exact ⟨hcoherent', hcalls, fun h => (not_clear_of_failed rfl h).elim⟩
  · rcases hcases with ⟨_, failure, heq⟩ | ⟨hsupport, log, heq⟩
    · rw [heq]
      exact ⟨hcoherent', hcalls, fun h => (not_clear_of_failed rfl h).elim⟩
    · rw [heq]
      refine ⟨⟨hcoherent'.numbered, hcoherent'.faithful⟩, hcalls, fun _ => ?_⟩
      obtain ⟨fetched, hfetched, _, hkind, _⟩ := hcoherent'.faithful _ _ houtcome
      exact ⟨fetched, hfetched, hkind ▸ hsupport⟩

mutual

/-- Polling media is lawful. -/
theorem poll_lawful {s : Session} (hcoherent : s.IsCoherent outcomes) : (loading : Loading) →
    let polled := loading.poll (outcomes.after delays) support turned s
    Lawful outcomes s polled.1 (loading.Clear outcomes support)
      (polled.2.Clear outcomes support)
  | .arrived => by
      rw [poll]
      exact .refl hcoherent _
  | .failed e => by
      rw [poll]
      exact .refl hcoherent _
  | .medium client request => by
      rw [poll]
      exact (poll_medium_lawful hcoherent client request).imp .medium id
  | .row parts => by
      rw [poll_row]
      have h : let polled := pollParts (outcomes.after delays) support turned s parts
          Lawful outcomes s polled.1 (∀ part ∈ parts, part.Clear outcomes support)
            (∀ part ∈ polled.2, part.Clear outcomes support) := by
        unfold pollParts
        split
        · exact poll_backward_lawful hcoherent parts
        · exact poll_forward_lawful hcoherent (isInOrder parts) true parts
      generalize pollParts (outcomes.after delays) support turned s parts = polled at h ⊢
      rcases conclude_cases (isInOrder parts) polled.1 polled.2 with
        ⟨e, _, heq⟩ | ⟨harrived, heq⟩ | ⟨_, heq⟩
      · rw [heq]
        exact ⟨h.coherent.release _, h.calls, fun hclear => (not_clear_of_failed rfl hclear).elim⟩
      · rw [heq]
        refine ⟨h.coherent, h.calls, fun _ => .row (h.clear ?_)⟩
        intro part hpart
        rw [harrived part hpart]
        exact .arrived
      · rw [heq]
        refine ⟨h.coherent, h.calls, fun hclear => ?_⟩
        cases hclear with
        | row hparts => exact .row (h.clear hparts)

/-- Polling parts forward is lawful. -/
theorem poll_forward_lawful {s : Session} (hcoherent : s.IsCoherent outcomes)
    (inOrder clear : Bool) : (parts : List Loading) →
    let polled := pollForward (outcomes.after delays) support turned inOrder clear s parts
    Lawful outcomes s polled.1 (∀ part ∈ parts, part.Clear outcomes support)
      (∀ part ∈ polled.2, part.Clear outcomes support)
  | [] => by
      rw [pollForward]
      exact .refl hcoherent _
  | part :: rest => by
      rw [poll_forward_cons]
      have h : let polled := poll (outcomes.after delays) support turned s part
          Lawful outcomes s polled.1 (part.Clear outcomes support)
            (polled.2.Clear outcomes support) := poll_lawful hcoherent part
      generalize poll (outcomes.after delays) support turned s part = first at h ⊢
      dsimp only
      split
      · rename_i hfailed
        refine ⟨h.coherent, h.calls, fun hclear => ?_⟩
        have hfailed : first.2.isFailed = true := by
          simp only [Bool.and_eq_true] at hfailed
          exact hfailed.1
        exact (not_clear_of_failed hfailed (hclear first.2 List.mem_cons_self)).elim
      · rw [List.forall_mem_cons, List.forall_mem_cons]
        exact h.both (poll_forward_lawful h.coherent inOrder (clear && first.2.isArrived) rest)

/-- Polling parts backward is lawful. -/
theorem poll_backward_lawful {s : Session} (hcoherent : s.IsCoherent outcomes) :
    (parts : List Loading) →
    let polled := pollBackward (outcomes.after delays) support turned s parts
    Lawful outcomes s polled.1 (∀ part ∈ parts, part.Clear outcomes support)
      (∀ part ∈ polled.2, part.Clear outcomes support)
  | [] => by
      rw [pollBackward]
      exact .refl hcoherent _
  | part :: rest => by
      rw [poll_backward_cons]
      have hrest : let polled := pollBackward (outcomes.after delays) support turned s rest
          Lawful outcomes s polled.1 (∀ part ∈ rest, part.Clear outcomes support)
            (∀ part ∈ polled.2, part.Clear outcomes support) :=
        poll_backward_lawful hcoherent rest
      generalize pollBackward (outcomes.after delays) support turned s rest = others
        at hrest ⊢
      dsimp only
      rw [List.forall_mem_cons, List.forall_mem_cons]
      exact (hrest.both (poll_lawful hrest.coherent part)).imp And.symm And.symm

end

/-! ## Media that can all be played -/

/-- What a pass over media makes of them: they are clear and narrow as before, have arrived if no
load is under way, and the loads were swept. -/
structure Passed (outcomes : Outcomes) (delays : String → Nat) (support : MediaSupport)
    (turned : Bool) (s : Session) (loading : Loading) (s' : Session) (loading' : Loading) :
    Prop where
  clear : loading'.Clear outcomes support
  narrow : loading.Narrow → loading'.Narrow
  arrived : loading'.loads = [] → loading' = .arrived
  swept : Session.Swept (outcomes.after delays) (turned = false ∨ loading.Narrow) s loading.loads
    s' loading'.loads

/-- What a pass over parts makes of them, in the order `forward` or another. -/
structure PassedAll (outcomes : Outcomes) (delays : String → Nat) (support : MediaSupport)
    (forward : Prop) (s : Session) (parts : List Loading) (s' : Session)
    (parts' : List Loading) : Prop where
  clear : ∀ part ∈ parts', part.Clear outcomes support
  narrow : (∀ part ∈ parts, part.Narrow) → ∀ part ∈ parts', part.Narrow
  length : parts'.length = parts.length
  arrived : loadsOf parts' = [] → ∀ part ∈ parts', part = .arrived
  swept : Session.Swept (outcomes.after delays) forward s (loadsOf parts) s' (loadsOf parts')

/-- What has arrived is narrow. -/
theorem narrow_arrived : Loading.arrived.Narrow :=
  .idle (by rw [loads])

/-- A medium that can be played arrives or remains under way. -/
theorem passed_medium (hcoherent : s.IsCoherent outcomes) {client : Client}
    {request : MediaRequest} (hplays : outcomes.Plays support request) :
    let polled := s.pollMedium (outcomes.after delays) support client request
    Passed outcomes delays support turned s (.medium client request) polled.1 polled.2 := by
  obtain ⟨fetched, hfetched, hplayable⟩ := id hplays
  obtain ⟨s₁, hpolled, hcases⟩ :=
    poll_medium_cases (outcomes.after delays) support s client request
  have hcoherent' := hcoherent.polled hpolled
  -- What the poll finds is the outcome of the URL, which plays: neither error can occur.
  rcases hcases with ⟨houtcome, heq⟩ | ⟨e, failure, houtcome, heq⟩ | ⟨resource, houtcome, hcases⟩
  · rw [heq]
    refine ⟨.medium hplays, id, ?_, ?_⟩
    · rw [loads]
      nofun
    · rw [loads]
      exact ⟨_, _, .refl _, .refl _, .waiting hpolled houtcome (.nil s₁), fun _ => ⟨rfl, rfl⟩⟩
  · obtain ⟨cause, hcause, _⟩ := hcoherent'.faithful _ _ houtcome
    rw [hfetched] at hcause
    cases hcause
  · obtain ⟨_, hfetched', _, hkind, _⟩ := hcoherent'.faithful _ _ houtcome
    rw [hfetched] at hfetched'
    cases hfetched'
    rcases hcases with ⟨hno, _⟩ | ⟨_, log, heq⟩
    · rw [hkind] at hno
      exact (hplayable hno).elim
    · rw [heq]
      refine ⟨.arrived, fun _ => narrow_arrived, fun _ => rfl, ?_⟩
      rw [loads, loads]
      exact ⟨_, _, .refl _, .refl _, .arrived (.ok resource) hpolled houtcome (.noted log (.nil _)),
        fun _ => ⟨rfl, rfl⟩⟩

/-- Parts that have all arrived have no loads. -/
theorem loads_of_arrived (harrived : ∀ part ∈ parts, part = .arrived) : loadsOf parts = [] := by
  induction parts with
  | nil => rw [loadsOf]
  | cons part rest ih =>
      rw [List.forall_mem_cons] at harrived
      rw [loadsOf, harrived.1, loads, ih harrived.2]
      rfl

/-- The parts of a row without loads have none. -/
theorem loads_of_mem {part : Loading} (hidle : loadsOf parts = []) (hpart : part ∈ parts) :
    part.loads = [] := by
  induction parts with
  | nil => cases hpart
  | cons first rest ih =>
      rw [loadsOf, List.append_eq_nil_iff] at hidle
      rcases List.mem_cons.mp hpart with rfl | hpart
      · exact hidle.1
      · exact ih hidle.2 hpart

/-- Without loads, parts may be said to be polled in any order. -/
theorem PassedAll.of_idle {forward any : Prop} {s' : Session} {parts' : List Loading}
    (h : PassedAll outcomes delays support forward s parts s' parts')
    (hidle : loadsOf parts = []) : PassedAll outcomes delays support any s parts s' parts' := by
  have hswept := h.swept
  rw [hidle] at hswept
  exact ⟨h.clear, h.narrow, h.length, h.arrived, hidle ▸ hswept.of_nil⟩

/-- No part fails, so that a row arrives with its parts or remains a row. -/
theorem passed_row {s' : Session} {parts' : List Loading}
    (h : PassedAll outcomes delays support (turned = false ∨ (Loading.row parts).Narrow)
      s parts s' parts') :
    let concluded := conclude (isInOrder parts) s' parts'
    Passed outcomes delays support turned s (.row parts) concluded.1 concluded.2 := by
  have hnarrow : (Loading.row parts).Narrow → (Loading.row parts').Narrow := by
    intro hnarrow
    cases hnarrow with
    | idle hidle =>
        have hswept := h.swept
        rw [loads] at hidle
        rw [hidle] at hswept
        exact .idle (by rw [loads, hswept.eq_nil])
    | row hlength hparts => exact .row (h.length ▸ hlength) (h.narrow hparts)
  have hswept := h.swept
  rcases conclude_cases (isInOrder parts) s' parts' with
    ⟨e, ⟨part, hpart, hfailed⟩, _⟩ | ⟨harrived, heq⟩ | ⟨⟨part, hpart, hleft⟩, heq⟩
  · exact (not_clear_of_failed hfailed (h.clear part hpart)).elim
  · rw [heq]
    refine ⟨.arrived, fun _ => narrow_arrived, fun _ => rfl, ?_⟩
    rw [loads, loads, ← loads_of_arrived harrived]
    exact hswept
  · rw [heq]
    refine ⟨.row h.clear, hnarrow, ?_, ?_⟩
    · rw [loads]
      intro hnone
      exact (hleft (h.arrived hnone part hpart)).elim
    · rw [loads, loads]
      exact hswept

/-- The first part and the others are polled on their own, in either order. -/
theorem Passed.cons {forward forward' : Prop} {s' s₁ s₂ s₃ s₄ : Session}
    {part part' : Loading} {rest rest' : List Loading}
    (hfirst : Passed outcomes delays support turned s₁ part s₂ part')
    (hrest : PassedAll outcomes delays support forward' s₃ rest s₄ rest')
    (hswept : Session.Swept (outcomes.after delays) forward s (part.loads ++ loadsOf rest) s'
      (part'.loads ++ loadsOf rest')) :
    PassedAll outcomes delays support forward s (part :: rest) s' (part' :: rest') := by
  refine ⟨?_, ?_, ?_, ?_, ?_⟩
  · exact List.forall_mem_cons.mpr ⟨hfirst.clear, hrest.clear⟩
  · intro h
    rw [List.forall_mem_cons] at h ⊢
    exact ⟨hfirst.narrow h.1, hrest.narrow h.2⟩
  · rw [List.length_cons, List.length_cons, hrest.length]
  · rw [loadsOf]
    intro hnone
    obtain ⟨hpart, hothers⟩ := List.append_eq_nil_iff.mp hnone
    exact List.forall_mem_cons.mpr ⟨hfirst.arrived hpart, hrest.arrived hothers⟩
  · rw [loadsOf, loadsOf]
    exact hswept

/-- Nothing is polled of no parts. -/
theorem passed_all_nil {forward : Prop} :
    PassedAll outcomes delays support forward s [] s [] := by
  refine ⟨nofun, fun _ => nofun, rfl, fun _ => nofun, ?_⟩
  rw [loadsOf]
  exact .nil

mutual

/-- A pass over media that can all be played sweeps their loads. -/
theorem poll_sweeps {s : Session} (hcoherent : s.IsCoherent outcomes) : (loading : Loading) →
    loading.Clear outcomes support →
    let polled := loading.poll (outcomes.after delays) support turned s
    Passed outcomes delays support turned s loading polled.1 polled.2
  | .arrived, hclear => by
      rw [poll]
      refine ⟨hclear, id, fun _ => rfl, ?_⟩
      rw [loads]
      exact .nil
  | .failed e, hclear => (not_clear_of_failed rfl hclear).elim
  | .medium client request, hclear => by
      rw [poll]
      cases hclear with
      | medium hplays => exact passed_medium hcoherent hplays
  | .row parts, hclear => by
      have hparts : ∀ part ∈ parts, part.Clear outcomes support := by
        cases hclear with
        | row hparts => exact hparts
      rw [poll_row]
      refine passed_row ?_
      unfold pollParts
      split
      · rename_i hturned
        by_cases hidle : loadsOf parts = []
        · exact (poll_backward_sweeps hcoherent not_false parts hparts).of_idle hidle
        -- The row is long and the pass is turned, so that nothing is said about the order.
        refine poll_backward_sweeps hcoherent ?_ parts hparts
        obtain ⟨hlong, hturned⟩ := Bool.and_eq_true_iff.mp hturned
        rintro (hforward | hnarrow)
        · rw [hforward] at hturned
          cases hturned
        · cases hnarrow with
          | idle hnone =>
              rw [loads] at hnone
              exact hidle hnone
          | row hlength _ =>
              have hlong : shortLimit < parts.length := of_decide_eq_true hlong
              omega
      · refine poll_forward_sweeps hcoherent (isInOrder parts) true parts ?_ hparts
        rintro (hforward | hnarrow)
        · exact fun _ _ => .inl hforward
        · cases hnarrow with
          | idle hidle =>
              rw [loads] at hidle
              exact fun part hpart => .inr (.idle (loads_of_mem hidle hpart))
          | row _ hnarrows => exact fun part hpart => .inr (hnarrows part hpart)

/-- The same for parts that are polled forward. -/
theorem poll_forward_sweeps {s : Session} (hcoherent : s.IsCoherent outcomes)
    (inOrder clear : Bool) {forward : Prop} : (parts : List Loading) →
    (forward → ∀ part ∈ parts, turned = false ∨ part.Narrow) →
    (∀ part ∈ parts, part.Clear outcomes support) →
    let polled := pollForward (outcomes.after delays) support turned inOrder clear s parts
    PassedAll outcomes delays support forward s parts polled.1 polled.2
  | [], _, _ => by
      rw [pollForward]
      exact passed_all_nil
  | part :: rest, hforward, hclear => by
      rw [List.forall_mem_cons] at hclear
      rw [poll_forward_cons]
      have hfirst : let polled := part.poll (outcomes.after delays) support turned s
          Passed outcomes delays support turned s part polled.1 polled.2 :=
        poll_sweeps hcoherent part hclear.1
      have hcoherent' : (part.poll (outcomes.after delays) support turned s).1.IsCoherent
          outcomes := (poll_lawful hcoherent part).coherent
      generalize part.poll (outcomes.after delays) support turned s = first
        at hfirst hcoherent' ⊢
      dsimp only
      rw [if_neg]
      · have hrest := poll_forward_sweeps hcoherent' inOrder (clear && first.2.isArrived) rest
          (fun hf part hpart => hforward hf part (List.mem_cons_of_mem _ hpart)) hclear.2
        exact hfirst.cons hrest
          ((hfirst.swept.mono fun hf => hforward hf part List.mem_cons_self).append hrest.swept)
      · intro hfailed
        exact not_clear_of_failed (Bool.and_eq_true_iff.mp hfailed).1 hfirst.clear

/-- The same for parts that are polled backward. -/
theorem poll_backward_sweeps {s : Session} (hcoherent : s.IsCoherent outcomes) {forward : Prop}
    (hbackward : ¬ forward) : (parts : List Loading) →
    (∀ part ∈ parts, part.Clear outcomes support) →
    let polled := pollBackward (outcomes.after delays) support turned s parts
    PassedAll outcomes delays support forward s parts polled.1 polled.2
  | [], _ => by
      rw [pollBackward]
      exact passed_all_nil
  | part :: rest, hclear => by
      rw [List.forall_mem_cons] at hclear
      rw [poll_backward_cons]
      have hrest : let polled := pollBackward (outcomes.after delays) support turned s rest
          PassedAll outcomes delays support forward s rest polled.1 polled.2 :=
        poll_backward_sweeps hcoherent hbackward rest hclear.2
      have hcoherent' : (pollBackward (outcomes.after delays) support turned s rest).1.IsCoherent
          outcomes := (poll_backward_lawful hcoherent rest).coherent
      generalize pollBackward (outcomes.after delays) support turned s rest = others
        at hrest hcoherent' ⊢
      have hfirst : let polled := part.poll (outcomes.after delays) support turned others.1
          Passed outcomes delays support turned others.1 part polled.1 polled.2 :=
        poll_sweeps hcoherent' part hclear.1
      exact hfirst.cons hrest (hrest.swept.append_backward
        (hfirst.swept.mono fun hf => (hbackward hf).elim) hbackward)

end

end Loading

end Widgetry
