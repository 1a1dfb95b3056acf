import Widgetry.Proofs.Dialog.Moves

/-!
# Answers of dialogs

A caller that waits for its dialog and the frontend that answers it never disagree, whatever happens
in between: the caller gets a label exactly if a choice of that label has succeeded on its dialog,
and no two choices succeed. `Transcript.IsTruthful` relates the response of every dialog to the
notes of the moves so far; every move keeps it. The main theorem is
`answers_neither_lost_nor_invented`.
-/

namespace Widgetry

namespace Arbiter

/-- The label of a choice that has succeeded on a dialog. -/
def Note.choice? (n : Nat) : Note → Option String
  | .chose m label (.ok ()) => if m = n then some label else none
  | _ => none

/-- The session of a dialog is cancelled. -/
def IsCancelled (a : Arbiter) (n : Nat) : Prop :=
  ∃ d, a.dialog? n = some d ∧ d.isCancelled = true

variable {a : Arbiter} {n : Nat} {note : Note} {label : String}

/-- A note tells of a choice that has succeeded. -/
theorem choice?_eq_some : note.choice? n = some label ↔ note = .chose n label (.ok ()) := by
  cases note with
  | chose m other answer =>
      cases answer with
      | error e => simp [Note.choice?]
      | ok =>
          by_cases hm : m = n <;> simp [Note.choice?, hm]
  | shown | received | letGo | polled | abandoned => simp [Note.choice?]

/-- A choice succeeds only on a dialog that was shown. -/
theorem exists_of_choice {move : Move} (hnote : (a.make move).2 = .chose n label (.ok ())) :
    ∃ d, a.dialog? n = some d := by
  cases move with
  | choose m other =>
      rcases a.choose_cases m other with ⟨e, h⟩ | ⟨old, new, hold, _, _⟩
      · simp [make, h] at hnote
      · simp only [make, Note.chose.injEq] at hnote
        obtain ⟨rfl, _, _⟩ := hnote
        exact ⟨old, hold⟩
  | present | receive | dismiss | dropFrontend | poll | abandon => cases hnote

end Arbiter

namespace Transcript

open Arbiter

/-- The labels of all choices that have succeeded on a dialog, in their order. -/
def choices (t : Transcript) (n : Nat) : List String :=
  t.notes.filterMap (Note.choice? n)

/-- The request of a dialog was let go after the dialog was shown. -/
def IsLetGo (t : Transcript) (n : Nat) : Prop :=
  ∃ before requests after actions, t.notes = before ++ .letGo requests :: after ∧
    n ∈ requests ∧ .shown actions (.ok n) ∈ before

/-- What the notes tell of a dialog, according to its response. -/
def Tells (t : Transcript) (n : Nat) (d : Dialog) : Prop :=
  match d.response with
  | .pending => t.choices n = []
  | .chosen label => t.choices n = [label] ∧ label ∈ d.actions
  | .closed => t.choices n = [] ∧ t.IsLetGo n

/-- The notes tell of every dialog that it was shown and how it was answered, and of no other. -/
structure IsTruthful (t : Transcript) : Prop where
  unknown : ∀ n, t.arbiter.dialog? n = none → t.choices n = []
  shown : ∀ n d, t.arbiter.dialog? n = some d → .shown d.actions (.ok n) ∈ t.notes
  tells : ∀ n d, t.arbiter.dialog? n = some d → t.Tells n d

variable {t : Transcript} {n : Nat} {d d' : Dialog} {label : String}

/-- The labels that were chosen can be read off the notes. -/
theorem mem_choices : label ∈ t.choices n ↔ .chose n label (.ok ()) ∈ t.notes := by
  simp [choices, choice?_eq_some]

/-- A move adds the label that it chooses. -/
theorem choices_observe (t : Transcript) (move : Move) (n : Nat) :
    (t.observe move).choices n = t.choices n ++ ((t.arbiter.make move).2.choice? n).toList := by
  simp only [choices, observe, List.filterMap_append]
  cases hchoice : (t.arbiter.make move).2.choice? n <;> simp [hchoice]

/-- A request that was let go stays let go. -/
theorem IsLetGo.observe (hlet : t.IsLetGo n) (move : Move) : (t.observe move).IsLetGo n := by
  obtain ⟨before, requests, after, actions, hnotes, hmem, hshown⟩ := hlet
  refine ⟨before, requests, after ++ [(t.arbiter.make move).2], actions, ?_, hmem, hshown⟩
  rw [notes_observe, hnotes, List.append_assoc, List.cons_append]

/-- A move that chooses nothing leaves what is told of a dialog with the same response. -/
theorem Tells.observe (htells : t.Tells n d) (move : Move)
    (hchoice : (t.arbiter.make move).2.choice? n = none) (hresponse : d'.response = d.response)
    (hactions : d'.actions = d.actions) : (t.observe move).Tells n d' := by
  have hchoices : (t.observe move).choices n = t.choices n := by
    rw [choices_observe, hchoice]
    exact List.append_nil _
  unfold Tells at htells ⊢
  rw [hresponse, hactions, hchoices]
  cases hcase : d.response with
  | pending => simpa [hcase] using htells
  | chosen label => simpa [hcase] using htells
  | closed =>
      simp only [hcase] at htells ⊢
      exact ⟨htells.1, htells.2.observe move⟩

/-- Letting go the request of a dialog closes it, unless it was answered. -/
theorem Tells.dismissed {move : Move} {requests : List Nat} (htells : t.Tells n d)
    (hshown : .shown d.actions (.ok n) ∈ t.notes)
    (hnote : (t.arbiter.make move).2 = .letGo requests) (hmem : n ∈ requests) :
    (t.observe move).Tells n d.dismiss := by
  have hchoice : (t.arbiter.make move).2.choice? n = none := by
    rw [hnote]
    rfl
  cases hcase : d.response with
  | pending =>
      have hchoices : (t.observe move).choices n = [] := by
        rw [choices_observe, hchoice]
        simpa [Tells, hcase] using htells
      have hlet : (t.observe move).IsLetGo n := by
        refine ⟨t.notes, requests, [], d.actions, ?_, hmem, hshown⟩
        rw [notes_observe, hnote]
      simpa [Tells, Dialog.dismiss, hcase] using And.intro hchoices hlet
  | chosen label =>
      have hsame : d.dismiss = d := by simp [Dialog.dismiss, hcase]
      rw [hsame]
      exact htells.observe move hchoice rfl rfl
  | closed =>
      have hsame : d.dismiss = d := by simp [Dialog.dismiss, hcase]
      rw [hsame]
      exact htells.observe move hchoice rfl rfl

/-- A choice that succeeds is the first and only one on its dialog. -/
theorem Tells.answered {move : Move} (htells : t.Tells n d)
    (hnote : (t.arbiter.make move).2 = .chose n label (.ok ()))
    (hchoose : d.choose label = .ok d') : (t.observe move).Tells n d' := by
  obtain ⟨hmem, _, hpending, rfl⟩ := Dialog.choose_eq_ok hchoose
  have hnone : t.choices n = [] := by simpa [Tells, hpending] using htells
  have hchoices : (t.observe move).choices n = [label] := by
    rw [choices_observe, choice?_eq_some.mpr hnote, hnone]
    rfl
  exact ⟨hchoices, hmem⟩

/-- Every move keeps what is told of a dialog true. -/
theorem Tells.follows {move : Move} (htells : t.Tells n d)
    (hshown : .shown d.actions (.ok n) ∈ t.notes)
    (hfollows : Follows t.arbiter.focus n (t.arbiter.make move).2 d d') :
    (t.observe move).Tells n d' := by
  have hquiet : ∀ note : Note, (∀ label, note ≠ .chose n label (.ok ())) →
      note.choice? n = none := by
    intro note hnot
    cases hchoice : note.choice? n with
    | none => rfl
    | some label => exact (hnot label (choice?_eq_some.mp hchoice)).elim
  generalize hnote : (t.arbiter.make move).2 = note at hfollows
  cases hfollows with
  | same _ hnot => exact htells.observe move (hnote ▸ hquiet note hnot) rfl rfl
  | ended hends =>
      refine htells.observe move (hnote ▸ hquiet note ?_) rfl rfl
      rintro label rfl
      cases hends
  | dismissed hmem => exact htells.dismissed hshown hnote hmem
  | answered hchoose => exact htells.answered hnote hchoose

/-- Every move keeps a transcript truthful. -/
theorem IsTruthful.observe (htruthful : t.IsTruthful) (move : Move) :
    (t.observe move).IsTruthful where
  unknown := by
    intro n hnone
    -- No move removes a dialog, so one that is unknown now was unknown before.
    have hbefore : t.arbiter.dialog? n = none := by
      cases hd : t.arbiter.dialog? n with
      | none => rfl
      | some d =>
          obtain ⟨d', hd', _⟩ := follows_make move hd
          cases hnone.symm.trans hd'
    rw [choices_observe, htruthful.unknown n hbefore]
    cases hchoice : (t.arbiter.make move).2.choice? n with
    | none => rfl
    | some label =>
        obtain ⟨d, hd⟩ := exists_of_choice (choice?_eq_some.mp hchoice)
        cases hbefore.symm.trans hd
  shown := by
    intro n d' hd'
    rw [notes_observe]
    cases hd : t.arbiter.dialog? n with
    | none =>
        obtain ⟨hnote, _⟩ := dialog?_make_new move hd hd'
        simp [hnote]
    | some d =>
        rw [(follows_of_make hd hd').actions_eq]
        exact List.mem_append_left _ (htruthful.shown n d hd)
  tells := by
    intro n d' hd'
    cases hd : t.arbiter.dialog? n with
    | none =>
        obtain ⟨hnote, _, hpending, _⟩ := dialog?_make_new move hd hd'
        have hchoices : (t.observe move).choices n = [] := by
          rw [choices_observe, hnote, htruthful.unknown n hd]
          rfl
        simpa [Tells, hpending] using hchoices
    | some d =>
        exact (htruthful.tells n d hd).follows (htruthful.shown n d hd) (follows_of_make hd hd')

/-- Before any move there is nothing to tell. -/
theorem is_truthful_empty : Transcript.empty.IsTruthful where
  unknown := fun _ _ => rfl
  shown := nofun
  tells := nofun

/-- A dialog is known from its number if a choice has succeeded on it. -/
theorem IsTruthful.chosen (htruthful : t.IsTruthful)
    (hchose : .chose n label (.ok ()) ∈ t.notes) :
    ∃ d, t.arbiter.dialog? n = some d ∧ d.response = .chosen label ∧ t.choices n = [label] ∧
      label ∈ d.actions := by
  have hmem : label ∈ t.choices n := mem_choices.mpr hchose
  cases hd : t.arbiter.dialog? n with
  | none =>
      rw [htruthful.unknown n hd] at hmem
      cases hmem
  | some d =>
      have htells := htruthful.tells n d hd
      unfold Tells at htells
      refine ⟨d, rfl, ?_⟩
      cases hcase : d.response with
      | pending =>
          simp only [hcase] at htells
          rw [htells] at hmem
          cases hmem
      | chosen other =>
          simp only [hcase] at htells
          rw [htells.1, List.mem_singleton] at hmem
          subst hmem
          exact ⟨rfl, htells⟩
      | closed =>
          simp only [hcase] at htells
          rw [htells.1] at hmem
          cases hmem

/-- A look for the outcome of a dialog finds what its response and its session say. -/
theorem outcome_of_poll {a : Arbiter} {outcome : Except DialogError String}
    (hpoll : (a.poll n).2 = some outcome) :
    ∃ d, a.dialog? n = some d ∧ d.outcome? = some outcome := by
  rcases a.poll_cases n with ⟨_, h⟩ | ⟨found, hfound, h⟩
  · rw [h] at hpoll
    cases hpoll
  · rw [h] at hpoll
    cases hpoll
    exact Option.bind_eq_some_iff.mp hfound

/-- A chosen label is there to be found. -/
theorem poll_of_chosen {a : Arbiter} (hd : a.dialog? n = some d)
    (hresponse : d.response = .chosen label) : (a.poll n).2 = some (.ok label) := by
  simp [Arbiter.poll, hd, Dialog.outcome?, hresponse]

/-- **Answers are neither lost nor invented.** If the caller of a dialog gets an outcome after some
moves, then it is a label exactly if a choice of that label has succeeded on the dialog; it is
`superseded` exactly if no choice has, and the session is cancelled; and else it is `dismissed`, the
request having been let go without a choice. A label that was chosen is an action of the dialog,
remains the only one ever chosen on it, and is what its caller gets at any later time. -/
theorem answers_neither_lost_nor_invented (moves : List Move) (n : Nat) :
    let t := Transcript.empty.run moves
    (∀ outcome, (t.arbiter.poll n).2 = some outcome →
      (∀ label, outcome = .ok label ↔ .chose n label (.ok ()) ∈ t.notes) ∧
      (outcome = .error .superseded ↔
        (∀ label, .chose n label (.ok ()) ∉ t.notes) ∧ t.arbiter.IsCancelled n) ∧
      ((∃ label, outcome = .ok label) ∨ outcome = .error .superseded ∨
        outcome = .error .dismissed ∧ t.IsLetGo n ∧
          ∀ label, .chose n label (.ok ()) ∉ t.notes)) ∧
    ∀ label, .chose n label (.ok ()) ∈ t.notes →
      (∃ actions, .shown actions (.ok n) ∈ t.notes ∧ label ∈ actions) ∧
      ∀ more, let later := t.run more
        later.choices n = [label] ∧ (later.arbiter.poll n).2 = some (.ok label) := by
  intro t
  have htruthful : t.IsTruthful :=
    run_induction (fun _ move h => h.observe move) is_truthful_empty moves
  constructor
  · intro outcome hpoll
    obtain ⟨d, hd, houtcome⟩ := outcome_of_poll hpoll
    have htells := htruthful.tells n d hd
    have hcancelled : t.arbiter.IsCancelled n ↔ d.isCancelled = true := by
      simp [IsCancelled, hd]
    simp only [← mem_choices, hcancelled]
    unfold Tells at htells
    unfold Dialog.outcome? at houtcome
    cases hcase : d.response with
    | pending =>
        simp only [hcase] at htells houtcome
        split at houtcome
        · rename_i hended
          cases houtcome
          simp [htells, hended]
        · cases houtcome
    | chosen label =>
        simp only [hcase] at htells houtcome
        cases houtcome
        refine ⟨fun other => ?_, by simp [htells.1], .inl ⟨label, rfl⟩⟩
        rw [htells.1, List.mem_singleton, Except.ok.injEq]
        exact eq_comm
    | closed =>
        simp only [hcase] at htells houtcome
        obtain ⟨hnone, hlet⟩ := htells
        cases houtcome
        cases hended : d.isCancelled <;> simp [hnone, hlet]
  · intro label hchose
    obtain ⟨d, hd, _, _, hmem⟩ := htruthful.chosen hchose
    refine ⟨⟨d.actions, htruthful.shown n d hd, hmem⟩, ?_⟩
    intro more later
    -- What was noted stays noted, and the later transcript is truthful as well.
    have hlater : later.IsTruthful ∧ .chose n label (.ok ()) ∈ later.notes :=
      run_induction (p := fun t => t.IsTruthful ∧ .chose n label (.ok ()) ∈ t.notes)
        (fun _ move h => ⟨h.1.observe move, List.mem_append_left _ h.2⟩) ⟨htruthful, hchose⟩ more
    obtain ⟨d', hd', hresponse, hchoices, _⟩ := hlater.1.chosen hlater.2
    exact ⟨hchoices, poll_of_chosen hd' hresponse⟩

end Transcript

end Widgetry
