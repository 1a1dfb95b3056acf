import Widgetry.Proofs.Rendering.Effort

/-!
# Rendering comes to an end

A pass over media leaves them arrived, failed, or with loads under way, of which it takes a step if
one is ripe (`Loading.Settles`). Fetches that do not hang are answered in some round, so that there
is a ripe load in the next round. The main theorem, `render_answers`, concludes that rendering
always has an answer if no fetch hangs.
-/

namespace Widgetry

namespace Loading

open Session

variable {outcomes : Outcomes} {delays : String → Nat} {support : MediaSupport} {turned : Bool}
  {s s' : Session} {loading : Loading} {parts parts' : List Loading}

/-- The media have arrived, or failed, or have loads under way. -/
def IsLive (loading : Loading) : Prop :=
  loading = .arrived ∨ loading.isFailed = true ∨ loading.loads ≠ []

/-- What a pass over media makes of them. -/
structure Settles (s : Session) (loading : Loading) (s' : Session) (loading' : Loading) :
    Prop where
  narrows : Narrows s loading.loads s' loading'.loads
  progresses : Progresses s loading.loads s' loading'.loads
  live : loading'.IsLive

/-- A medium arrives, fails, or remains under way. -/
theorem poll_medium_settles (client : Client) (request : MediaRequest) :
    let polled := s.pollMedium (outcomes.after delays) support client request
    Settles s (.medium client request) polled.1 polled.2 := by
  obtain ⟨s₁, hpolled, hcases⟩ :=
    poll_medium_cases (outcomes.after delays) support s client request
  -- A load that has taken its outcome is gone, and nobody else waits for the URL.
  have hgone : ∀ outcome log, s₁.cache.outcome? request.source = some outcome →
      Narrows s [(client, request.source)] { s₁ with log := log } [] := by
    intro outcome log houtcome
    refine ⟨List.nil_sublist _, fun load _ => hpolled.steps_of_le load, ?_, nofun⟩
    intro under hheld hunder
    have hheld' := hheld.polled hpolled (hunder _ (List.mem_singleton_self _))
    rw [Cache.outcome?_eq_some] at houtcome
    refine ⟨hheld'.nodup, fun url caller hcaller => ⟨hheld'.clients url caller hcaller, ?_⟩,
      hheld'.answered⟩
    intro hmem
    obtain rfl : url = request.source := congrArg Prod.snd (List.mem_singleton.mp hmem)
    have hnone : caller ∈ (s₁.cache.entry request.source).clients := hcaller
    rw [houtcome] at hnone
    exact (List.not_mem_nil hnone).elim
  rcases hcases with ⟨houtcome, heq⟩ | ⟨e, failure, houtcome, heq⟩ | ⟨resource, houtcome, hcases⟩
  · rw [heq]
    refine ⟨?_, ?_, .inr (.inr ?_)⟩ <;> rw [loads]
    · refine ⟨List.Sublist.refl _, fun load _ => hpolled.steps_of_le load, ?_, nofun⟩
      intro under hheld hunder
      refine (hheld.polled hpolled (hunder _ (List.mem_singleton_self _))).mono ?_
      exact fun load hload => ⟨hload, id⟩
    · rcases hpolled.rests_or_steps with ⟨hrests, hripe⟩ | hsettled | hsteps
      · refine .inl ⟨hrests, rfl, fun load hload => ?_⟩
        rw [List.mem_singleton.mp hload]
        exact hripe
      · exact (hsettled houtcome).elim
      · right
        rw [effort_cons, effort_cons]
        exact Nat.add_lt_add_right hsteps _
    · exact nofun
  · rw [heq]
    refine ⟨?_, ?_, .inr (.inl rfl)⟩ <;> rw [loads, loads]
    · exact hgone _ s₁.log houtcome
    · exact (hgone _ s₁.log houtcome).progresses
  · rcases hcases with ⟨_, failure, heq⟩ | ⟨_, log, heq⟩
    · rw [heq]
      refine ⟨?_, ?_, .inr (.inl rfl)⟩ <;> rw [loads, loads]
      · exact hgone _ s₁.log houtcome
      · exact (hgone _ s₁.log houtcome).progresses
    · rw [heq]
      refine ⟨?_, ?_, .inl rfl⟩ <;> rw [loads, loads]
      · exact hgone _ log houtcome
      · exact (hgone _ log houtcome).progresses

/-- Something that has failed is a failure. -/
theorem exists_of_is_failed (hfailed : loading.isFailed = true) : ∃ e, loading = .failed e := by
  cases loading with
  | failed e => exact ⟨e, rfl⟩
  | arrived | medium client request | row parts => cases hfailed

/-- A row that remains has a part that has neither arrived nor failed, and no failure in it
counts. -/
theorem conclude_eq_row {inOrder : Bool}
    (h : conclude inOrder s parts = (s', .row parts')) :
    (∃ part ∈ parts, part ≠ .arrived ∧ part.isFailed = false) ∧
      ∀ e, decisive? inOrder parts ≠ some (.failed e) := by
  have hdecisive : ∀ e, decisive? inOrder parts ≠ some (.failed e) := by
    intro e hfailed
    unfold conclude gather at h
    rw [hfailed] at h
    cases h
  refine ⟨?_, hdecisive⟩
  obtain ⟨part, hpart, hleft⟩ : ∃ part ∈ parts, part ≠ .arrived := by
    rcases conclude_cases inOrder s parts with ⟨_, _, heq⟩ | ⟨_, heq⟩ | ⟨hleft, _⟩
    · rw [heq] at h
      cases h
    · rw [heq] at h
      cases h
    · exact hleft
  have harrived : part.isArrived = false := by
    cases hcase : part.isArrived with
    | false => rfl
    | true => exact (hleft (eq_arrived_of_is_arrived hcase)).elim
  unfold decisive? at hdecisive
  cases inOrder with
  | true =>
      -- The first part that has not arrived decides, and it has not failed.
      cases hfind : parts.find? fun part => if true then !part.isArrived else part.isFailed with
      | none =>
          have hnone := List.find?_eq_none.mp hfind part hpart
          simp [harrived] at hnone
      | some first =>
          refine ⟨first, List.mem_of_find?_eq_some hfind, ?_, ?_⟩
          · rintro rfl
            have hfirst := List.find?_some hfind
            simp [isArrived] at hfirst
          · cases hfailed : first.isFailed with
            | false => rfl
            | true =>
                obtain ⟨e, rfl⟩ := exists_of_is_failed hfailed
                exact (hdecisive e hfind).elim
  | false =>
      -- No part has failed.
      refine ⟨part, hpart, hleft, ?_⟩
      cases hfind : parts.find? fun part => if false then !part.isArrived else part.isFailed with
      | none =>
          have hnone := List.find?_eq_none.mp hfind part hpart
          simpa using hnone
      | some first =>
          have hfirst := List.find?_some hfind
          obtain ⟨e, rfl⟩ := exists_of_is_failed (by simpa using hfirst)
          exact (hdecisive e hfind).elim

/-- The loads of a part are among those of the row. -/
theorem loads_of_ne_nil {part : Loading} (hpart : part ∈ parts) (hloads : part.loads ≠ []) :
    loadsOf parts ≠ [] := by
  induction parts with
  | nil => cases hpart
  | cons first rest ih =>
      rw [loadsOf]
      intro hnil
      obtain ⟨hfirst, hrest⟩ := List.append_eq_nil_iff.mp hnil
      rcases List.mem_cons.mp hpart with rfl | hpart
      · exact hloads hfirst
      · exact ih hpart hrest

/-- What a pass over parts makes of them. It is complete, unless it may be cut short and a failure
counts. -/
structure SettlesAll (inOrder : Bool) (cut : Prop) (s : Session) (parts : List Loading)
    (s' : Session) (parts' : List Loading) : Prop where
  narrows : Narrows s (loadsOf parts) s' (loadsOf parts')
  complete : (cut ∧ ∃ e, decisive? inOrder parts' = some (.failed e)) ∨
    (Progresses s (loadsOf parts) s' (loadsOf parts') ∧ ∀ part ∈ parts', part.IsLive)

/-- The loads of a row that fails are all given up. -/
theorem SettlesAll.fail {inOrder : Bool} {cut : Prop}
    (h : SettlesAll inOrder cut s parts s' parts') :
    Narrows s (loadsOf parts) (s'.release (loadsOf parts')) [] := by
  refine ⟨List.nil_sublist _, fun load hload => ?_, fun under hheld hunder => ?_, fun hnone => ?_⟩
  · have hout : load ∉ loadsOf parts := fun hmem => List.not_mem_nil (hload hmem)
    rw [steps_of_release fun hmem => hout (h.narrows.sublist.subset hmem)]
    exact h.narrows.steps load fun hmem => (hout hmem).elim
  · refine ((h.narrows.held under hheld hunder).release _).mono fun load hload => ?_
    exact ⟨hload.1.1, fun hmem => (hload.2 (hload.1.2 hmem)).elim⟩
  · have hrest : loadsOf parts' = [] := List.sublist_nil.mp (hnone ▸ h.narrows.sublist)
    rw [hrest]
    exact h.narrows.rests hnone

/-- A row settles with its parts. -/
theorem SettlesAll.conclude {inOrder : Bool} {cut : Prop}
    (h : SettlesAll inOrder cut s parts s' parts') :
    let concluded := conclude inOrder s' parts'
    Settles s (.row parts) concluded.1 concluded.2 := by
  rcases conclude_cases inOrder s' parts' with ⟨e, _, heq⟩ | ⟨harrived, heq⟩ | ⟨_, heq⟩
  · rw [heq]
    refine ⟨?_, ?_, .inr (.inl rfl)⟩ <;> rw [loads, loads]
    · exact h.fail
    · exact h.fail.progresses
  · rw [heq]
    have hnarrows := h.narrows
    rw [loads_of_arrived harrived] at hnarrows
    refine ⟨?_, ?_, .inl rfl⟩ <;> rw [loads, loads]
    · exact hnarrows
    · exact hnarrows.progresses
  · obtain ⟨⟨part, hpart, hleft, hfailed⟩, hdecisive⟩ := conclude_eq_row heq
    rw [heq]
    -- The row goes on only if no failure counts and some part of it is still under way.
    rcases h.complete with ⟨_, e, hcounts⟩ | ⟨hprogresses, hlive⟩
    · exact (hdecisive e hcounts).elim
    · refine ⟨?_, ?_, .inr (.inr ?_)⟩
      · rw [loads, loads]
        exact h.narrows
      · rw [loads, loads]
        exact hprogresses
      · rw [loads]
        refine loads_of_ne_nil hpart ?_
        rcases hlive part hpart with harrived | hpartFailed | hloads
        · exact (hleft harrived).elim
        · rw [hfailed] at hpartFailed
          cases hpartFailed
        · exact hloads

/-- A part and the others have different loads. -/
theorem disjoint_of_nodup {part : Loading} (hnodup : (loadsOf (part :: parts)).Nodup) :
    part.loads.Nodup ∧ (loadsOf parts).Nodup ∧ ∀ load ∈ part.loads, load ∉ loadsOf parts := by
  rw [loadsOf] at hnodup
  obtain ⟨hfirst, hrest, hne⟩ := List.nodup_append.mp hnodup
  exact ⟨hfirst, hrest, fun load hload hmem => hne load hload load hmem rfl⟩

/-- What is settled of a part, and of the others after it. -/
theorem Settles.cons {inOrder : Bool} {cut cut₁ : Prop} {part part' : Loading} {s₁ : Session}
    (h : Settles s part s₁ part') (h₁ : SettlesAll inOrder cut₁ s₁ parts s' parts')
    (hdisjoint : ∀ load ∈ part.loads, load ∉ loadsOf parts)
    (hcut : cut₁ → cut ∧ decisive? inOrder (part' :: parts') = decisive? inOrder parts') :
    SettlesAll inOrder cut s (part :: parts) s' (part' :: parts') := by
  have hsublist := h.narrows.sublist.append h₁.narrows.sublist
  refine ⟨?_, ?_⟩
  · rw [loadsOf, loadsOf]
    exact h.narrows.both h₁.narrows hdisjoint (.refl _) (.refl _) hsublist
  · rcases h₁.complete with ⟨hshort, e, hfailed⟩ | ⟨hprogresses, hlive⟩
    · obtain ⟨hshort, hdecisive⟩ := hcut hshort
      exact .inl ⟨hshort, e, hdecisive.trans hfailed⟩
    · right
      rw [loadsOf, loadsOf]
      refine ⟨?_, List.forall_mem_cons.mpr ⟨h.live, hlive⟩⟩
      exact h.progresses.both hprogresses h.narrows h₁.narrows hdisjoint (.refl _) (.refl _)
        hsublist

/-- What is settled of a part, and of the others before it. -/
theorem SettlesAll.cons_backward {inOrder : Bool} {part part' : Loading} {s₁ : Session}
    (h₁ : SettlesAll inOrder False s parts s₁ parts') (h : Settles s₁ part s' part')
    (hdisjoint : ∀ load ∈ part.loads, load ∉ loadsOf parts) :
    SettlesAll inOrder False s (part :: parts) s' (part' :: parts') := by
  have hsublist := h.narrows.sublist.append h₁.narrows.sublist
  have hother : ∀ load ∈ loadsOf parts, load ∉ part.loads :=
    fun load hload hmem => hdisjoint load hmem hload
  refine ⟨?_, ?_⟩
  · rw [loadsOf, loadsOf]
    exact h₁.narrows.both h.narrows hother List.perm_append_comm List.perm_append_comm hsublist
  · rcases h₁.complete with ⟨hshort, _⟩ | ⟨hprogresses, hlive⟩
    · exact hshort.elim
    · right
      rw [loadsOf, loadsOf]
      refine ⟨?_, List.forall_mem_cons.mpr ⟨h.live, hlive⟩⟩
      exact hprogresses.both h.progresses h₁.narrows h.narrows hother List.perm_append_comm
        List.perm_append_comm hsublist

/-- A part whose failure counts cuts the pass short. -/
theorem Settles.cut {inOrder : Bool} {cut : Prop} {part part' : Loading}
    (h : Settles s part s' part') (hdisjoint : ∀ load ∈ part.loads, load ∉ loadsOf parts)
    (hfailed : part'.isFailed = true) (hcut : cut) :
    SettlesAll inOrder cut s (part :: parts) s' (part' :: parts) := by
  obtain ⟨e, rfl⟩ := exists_of_is_failed hfailed
  have hstays : Narrows s' (loadsOf parts) s' (loadsOf parts) :=
    ⟨List.Sublist.refl _, fun _ _ => Nat.le_refl _,
      fun _ hheld _ => hheld.mono fun _ hload => ⟨hload, id⟩, fun _ => ⟨fun _ => rfl, rfl, rfl⟩⟩
  refine ⟨?_, .inl ⟨hcut, e, ?_⟩⟩
  · rw [loadsOf, loadsOf]
    exact h.narrows.both hstays hdisjoint (.refl _) (.refl _)
      (h.narrows.sublist.append (List.Sublist.refl _))
  · cases inOrder <;> rfl

/-- There is nothing to settle. -/
theorem settles_all_nil {inOrder : Bool} {cut : Prop} : SettlesAll inOrder cut s [] s [] := by
  refine ⟨?_, .inr ⟨?_, nofun⟩⟩ <;> rw [loadsOf]
  · exact .nil
  · exact .nil

/-- A failure among the others counts after a part that has arrived, and without order after any
part that has not failed. -/
theorem decisive_cons {inOrder clear : Bool} {part : Loading}
    (hcounts : ¬ (part.isFailed && (clear || !inOrder)) = true)
    (hcut : (clear && part.isArrived) = true ∨ inOrder = false) :
    (clear = true ∨ inOrder = false) ∧
      decisive? inOrder (part :: parts) = decisive? inOrder parts := by
  unfold decisive?
  cases inOrder with
  | false =>
      have hfailed : part.isFailed = false := by simpa using hcounts
      refine ⟨.inr rfl, List.find?_cons_of_neg ?_⟩
      simp [hfailed]
  | true =>
      obtain ⟨hclear, harrived⟩ : clear = true ∧ part.isArrived = true := by simpa using hcut
      refine ⟨.inl hclear, List.find?_cons_of_neg ?_⟩
      simp [harrived]

mutual

/-- Polling media settles them. -/
theorem poll_settles {s : Session} : (loading : Loading) → loading.loads.Nodup →
    let polled := loading.poll (outcomes.after delays) support turned s
    Settles s loading polled.1 polled.2
  | .arrived, _ => by
      rw [poll]
      refine ⟨?_, ?_, .inl rfl⟩ <;> rw [loads]
      · exact .nil
      · exact .nil
  | .failed e, _ => by
      rw [poll]
      refine ⟨?_, ?_, .inr (.inl rfl)⟩ <;> rw [loads]
      · exact .nil
      · exact .nil
  | .medium client request, _ => by
      rw [poll]
      exact poll_medium_settles client request
  | .row parts, hnodup => by
      rw [loads] at hnodup
      rw [poll_row]
      unfold pollParts
      split
      · exact (poll_backward_settles (isInOrder parts) parts hnodup).conclude
      · exact (poll_forward_settles (isInOrder parts) true parts hnodup).conclude

/-- Polling parts forward settles them. -/
theorem poll_forward_settles {s : Session} (inOrder clear : Bool) : (parts : List Loading) →
    (loadsOf parts).Nodup →
    let polled := pollForward (outcomes.after delays) support turned inOrder clear s parts
    SettlesAll inOrder (clear = true ∨ inOrder = false) s parts polled.1 polled.2
  | [], _ => by
      rw [pollForward]
      exact settles_all_nil
  | part :: rest, hnodup => by
      obtain ⟨hfirst, hrest, hdisjoint⟩ := disjoint_of_nodup hnodup
      rw [poll_forward_cons]
      have h : let polled := poll (outcomes.after delays) support turned s part
          Settles s part polled.1 polled.2 := poll_settles part hfirst
      generalize poll (outcomes.after delays) support turned s part = first at h ⊢
      dsimp only
      split
      · rename_i hcounts
        obtain ⟨hfailed, hcut⟩ := Bool.and_eq_true_iff.mp hcounts
        exact h.cut hdisjoint hfailed (by simpa using hcut)
      · rename_i hcounts
        exact h.cons (poll_forward_settles inOrder (clear && first.2.isArrived) rest hrest)
          hdisjoint fun hcut => decisive_cons hcounts hcut

/-- Polling parts backward settles them. -/
theorem poll_backward_settles {s : Session} (inOrder : Bool) : (parts : List Loading) →
    (loadsOf parts).Nodup →
    let polled := pollBackward (outcomes.after delays) support turned s parts
    SettlesAll inOrder False s parts polled.1 polled.2
  | [], _ => by
      rw [pollBackward]
      exact settles_all_nil
  | part :: rest, hnodup => by
      obtain ⟨hfirst, hrest, hdisjoint⟩ := disjoint_of_nodup hnodup
      rw [poll_backward_cons]
      have h₁ : let polled := pollBackward (outcomes.after delays) support turned s rest
          SettlesAll inOrder False s rest polled.1 polled.2 :=
        poll_backward_settles inOrder rest hrest
      generalize pollBackward (outcomes.after delays) support turned s rest = others at h₁ ⊢
      exact h₁.cons_backward (poll_settles part hfirst) hdisjoint

end

/-- One pass after another. -/
theorem Settles.trans {s₁ : Session} {loading₁ loading' : Loading}
    (h : Settles s loading s₁ loading₁) (h₁ : Settles s₁ loading₁ s' loading') :
    Settles s loading s' loading' :=
  ⟨h.narrows.trans h₁.narrows, h.progresses.trans h₁.progresses h.narrows h₁.narrows, h₁.live⟩

/-- A round of polls settles media. -/
theorem poll_media_settles (hnodup : loading.loads.Nodup) :
    let polled := s.pollMedia (outcomes.after delays) support turned loading
    Settles s loading polled.1 polled.2 := by
  have hfirst : let polled := loading.poll (outcomes.after delays) support turned s
      Settles s loading polled.1 polled.2 := poll_settles loading hnodup
  unfold pollMedia
  generalize loading.poll (outcomes.after delays) support turned s = first at hfirst ⊢
  cases turned with
  | false => exact hfirst
  | true =>
      exact hfirst.trans (poll_settles first.2 (hnodup.sublist hfirst.narrows.sublist))

/-! ## Rounds -/

/-- Those who load have loads under way, so that some load has a next round. -/
theorem exists_next_due_of_held {loads : List (Client × String)}
    (hheld : s.IsHeld fun load => load ∈ loads) (hloads : loads ≠ []) :
    ∃ round, s.nextDue loads = some round := by
  obtain ⟨⟨client, url⟩, hload⟩ := List.exists_mem_of_ne_nil loads hloads
  have hclients := hheld.clients url
  have hanswered := hheld.answered url
  refine Option.ne_none_iff_exists'.mp ?_
  cases hentry : s.cache.entry url with
  | idle | settled outcome =>
      refine next_due_ne_none hload ?_
      simp [due, hentry]
  | reserved owner line =>
      rw [hentry] at hclients
      refine next_due_ne_none (hclients owner List.mem_cons_self) ?_
      simp [due, hentry]
  | fetching owner due line =>
      rw [hentry] at hclients hanswered
      refine next_due_ne_none (hclients owner List.mem_cons_self) ?_
      cases due with
      | none => exact (hanswered owner line rfl).elim
      | some round => simp [Session.due, hentry]

/-- In its next round a load is ripe. -/
theorem is_ripe_advance {load : Client × String} {round : Nat}
    (hdue : s.due load.1 load.2 = some round) : (s.advanceTo round).IsRipe load := by
  show (s.cache.entry load.2).IsRipe load.1 (max s.now round) fullAllowance
  have hallowance : 0 < fullAllowance := Nat.succ_pos 127
  unfold due at hdue
  cases hentry : s.cache.entry load.2 with
  | idle => exact hallowance
  | settled outcome => exact trivial
  | reserved owner line =>
      rw [hentry] at hdue
      dsimp only at hdue
      split at hdue
      · rename_i howner
        exact ⟨howner, hallowance⟩
      · cases hdue
  | fetching owner due line =>
      rw [hentry] at hdue
      dsimp only at hdue
      split at hdue
      · rename_i howner
        obtain ⟨answered, hanswered, hround⟩ := Option.map_eq_some_iff.mp hdue
        exact ⟨howner, answered, hanswered, by omega⟩
      · cases hdue

/-- After a round without an answer there is a next round, in which a load is ripe. -/
theorem await_media_answers_or_next {start : Nat} (fuel : Nat) {polled : Session × Loading}
    (hpolled : s.pollMedia (outcomes.after delays) support (s.isTurned start) loading = polled)
    (hlive : polled.2.IsLive) (hheld : polled.1.IsHeld fun load => load ∈ polled.2.loads) :
    (∃ s' answer, s.awaitMedia (outcomes.after delays) support start (fuel + 1) loading =
        (s', some answer)) ∨
    ∃ round, (∃ load ∈ polled.2.loads, (polled.1.advanceTo round).IsRipe load) ∧
      s.awaitMedia (outcomes.after delays) support start (fuel + 1) loading =
        (polled.1.advanceTo round).awaitMedia (outcomes.after delays) support start fuel
          polled.2 := by
  rw [await_media_succ, hpolled]
  dsimp only
  rcases hlive with harrived | hfailed | hloads
  · left
    rw [harrived]
    exact ⟨_, _, rfl⟩
  · left
    obtain ⟨e, he⟩ := exists_of_is_failed hfailed
    rw [he]
    exact ⟨_, _, rfl⟩
  · obtain ⟨round, hround⟩ := exists_next_due_of_held hheld hloads
    obtain ⟨load, hload, hdue⟩ := exists_due_of_next_due hround
    obtain ⟨s₁, loading₁⟩ := polled
    cases loading₁ with
    | arrived | failed e => exact .inl ⟨_, _, rfl⟩
    | medium client request | row parts =>
        right
        refine ⟨round, ⟨load, hload, is_ripe_advance hdue⟩, ?_⟩
        dsimp only at hround ⊢
        rw [hround]

/-- What holds after a round of polls. -/
theorem Settles.held {loading' : Loading} (h : Settles s loading s' loading')
    (hheld : s.IsHeld fun load => load ∈ loading.loads) :
    s'.IsHeld fun load => load ∈ loading'.loads :=
  (h.narrows.held _ hheld fun _ hload => hload).mono fun _ hload => hload.2 hload.1

/-- Waiting for media has an answer if there are as many rounds as steps left, and one of these can
be made. -/
theorem await_media_answers (start fuel : Nat) (hnodup : loading.loads.Nodup)
    (hheld : s.IsHeld fun load => load ∈ loading.loads)
    (hripe : ∃ load ∈ loading.loads, s.IsRipe load) (hfuel : s.effort loading.loads ≤ fuel) :
    ∃ s' answer, s.awaitMedia (outcomes.after delays) support start fuel loading =
      (s', some answer) := by
  induction fuel generalizing s loading with
  | zero =>
      obtain ⟨load, hload, _⟩ := hripe
      have hpos := effort_pos s (List.ne_nil_of_mem hload)
      omega
  | succ fuel ih =>
      obtain ⟨polled, hpolled⟩ : ∃ polled, s.pollMedia (outcomes.after delays) support
          (s.isTurned start) loading = polled := ⟨_, rfl⟩
      have hsettles : Settles s loading polled.1 polled.2 := by
        rw [← hpolled]
        exact poll_media_settles hnodup
      have hheld' := hsettles.held hheld
      rcases await_media_answers_or_next fuel hpolled hsettles.live hheld' with
        hanswer | ⟨round, hripe', heq⟩
      · exact hanswer
      · rw [heq]
        -- A load was ripe, so this round has made a step, and another is ripe in the next one.
        have hless : polled.1.effort polled.2.loads < s.effort loading.loads := by
          rcases hsettles.progresses with ⟨_, _, hunripe⟩ | hless
          · obtain ⟨load, hload, hripe⟩ := hripe
            exact (hunripe load hload hripe).elim
          · exact hless
        refine ih (hnodup.sublist hsettles.narrows.sublist)
          ⟨hheld'.nodup, hheld'.clients, hheld'.answered⟩ hripe' ?_
        show polled.1.effort polled.2.loads ≤ fuel
        omega

end Loading

/-! ## Rendering -/

namespace Widget

mutual

/-- Loads are numbered one after the other. -/
theorem clients_loading (position : Nat) : (widget : Widget) → ∃ count,
    (widget.loading position).1 = position + count ∧
      (widget.loading position).2.loads.map Prod.fst = List.range' (position + 1) count
  | node frame children => by
      rw [loading]
      cases frame.request? with
      | some request =>
          refine ⟨1, rfl, ?_⟩
          rw [Loading.loads]
          rfl
      | none =>
          obtain ⟨count, hnext, hclients⟩ := clients_loadings position children
          refine ⟨count, hnext, ?_⟩
          dsimp only
          rw [Loading.loads]
          exact hclients

/-- Loads of several widgets are numbered one after the other. -/
theorem clients_loadings (position : Nat) : (widgets : List Widget) → ∃ count,
    (loadings position widgets).1 = position + count ∧
      (Loading.loadsOf (loadings position widgets).2).map Prod.fst =
        List.range' (position + 1) count
  | [] => by
      refine ⟨0, rfl, ?_⟩
      rw [loadings, Loading.loadsOf]
      rfl
  | widget :: rest => by
      obtain ⟨first, hfirst, hclients⟩ := clients_loading position widget
      obtain ⟨others, hothers, hclients'⟩ := clients_loadings (position + first) rest
      refine ⟨first + others, ?_, ?_⟩
      · rw [loadings]
        dsimp only
        rw [hfirst, hothers, Nat.add_assoc]
      · rw [loadings]
        dsimp only
        rw [Loading.loadsOf, hfirst, List.map_append, hclients, hclients', Nat.add_right_comm,
          List.range'_append_1]

end

/-- No load of a widget occurs twice. -/
theorem nodup_loading (position : Nat) (widget : Widget) :
    (widget.loading position).2.loads.Nodup := by
  obtain ⟨count, _, hclients⟩ := clients_loading position widget
  refine List.Nodup.of_map Prod.fst ?_
  rw [hclients]
  exact List.nodup_range'

end Widget

namespace Session

variable {outcomes : Outcomes} {delays : String → Nat} {support : MediaSupport} {s : Session}

/-- Nobody loads in a quiet session. -/
theorem IsQuiet.is_held (hquiet : s.IsQuiet) (under : Client × String → Prop) :
    s.IsHeld under := by
  refine ⟨fun url => ?_, fun url => ?_, fun url owner line => ?_⟩ <;>
    rcases hquiet url with hentry | ⟨outcome, hentry⟩ <;> rw [hentry]
  · exact List.nodup_nil
  · exact List.nodup_nil
  · exact fun _ hclient => (List.not_mem_nil hclient).elim
  · exact fun _ hclient => (List.not_mem_nil hclient).elim
  · exact nofun
  · exact nofun

/-- **Rendering always has an answer** in a session in which no load is under way, if no fetch
hangs: the media are drawn, or the first failure is told. -/
theorem render_answers (outcomes : Outcomes) (delays : String → Nat) (support : MediaSupport)
    (hquiet : s.IsQuiet) (widget : Widget) :
    ∃ s' answer, s.render (outcomes.after delays) support widget = (s', some answer) := by
  obtain ⟨loading, hloading⟩ : ∃ loading, (widget.loading 0).2 = loading := ⟨_, rfl⟩
  have hnodup : loading.loads.Nodup := hloading ▸ widget.nodup_loading 0
  have hanswer : ∃ s' answer, s.awaitMedia (outcomes.after delays) support s.now
      (3 * loading.loads.length + 2) loading = (s', some answer) := by
    obtain ⟨polled, hpolled⟩ : ∃ polled, s.pollMedia (outcomes.after delays) support
        (s.isTurned s.now) loading = polled := ⟨_, rfl⟩
    have hsettles : Loading.Settles s loading polled.1 polled.2 := by
      rw [← hpolled]
      exact Loading.poll_media_settles hnodup
    have hheld := hsettles.held (hquiet.is_held _)
    rcases Loading.await_media_answers_or_next (3 * loading.loads.length + 1) hpolled hsettles.live
      hheld with hanswer | ⟨round, hripe, heq⟩
    · exact hanswer
    · -- The first round may have made no step, which is why there is one more.
      rw [heq]
      refine Loading.await_media_answers s.now _ (hnodup.sublist hsettles.narrows.sublist)
        ⟨hheld.nodup, hheld.clients, hheld.answered⟩ hripe ?_
      have hlength := effort_le_length s loading.loads
      have hle := hsettles.narrows.effort_le
      show polled.1.effort polled.2.loads ≤ _
      omega
  obtain ⟨s', answer, hdone⟩ := hanswer
  unfold render
  dsimp only
  rw [hloading, hdone]
  cases answer with
  | error e => exact ⟨_, _, rfl⟩
  | ok => exact ⟨_, _, rfl⟩

end Session

end Widgetry
