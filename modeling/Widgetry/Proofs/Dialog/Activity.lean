import Widgetry.Proofs.Dialog.Exclusion

/-!
# When an arbiter is active

An arbiter is active while the session in force is not cancelled. `Transcript.IsOpen` says from the
notes alone when the dialog shown last is still open, and `is_focused_make` says how a move changes
the session in force. The main theorem is `activity_is_reported`: an arbiter is active exactly if a
dialog is open, or if no show was accepted yet, since it begins with a session that belongs to no
dialog.
-/

namespace Widgetry

namespace Arbiter

variable {a : Arbiter} {n : Nat} {note : Note} {move : Move}

/-- What does not end the session in force of a dialog: moves other than accepted shows, outcomes
for its caller, and its caller giving up. -/
theorem ends_eq_false_iff : note.ends (.on n) n = false ↔
    note.focus? = none ∧ (∀ outcome, note ≠ .polled n (some outcome)) ∧ note ≠ .abandoned n := by
  cases note with
  | polled m answer =>
      cases answer with
      | none => simp [Note.ends, Note.focus?]
      | some outcome => simp [Note.ends, Note.focus?]
  | abandoned m => simp [Note.ends, Note.focus?]
  | shown | received | chose | letGo => simp [Note.ends]

/-- A show that puts the session in force on a dialog has shown that dialog. -/
theorem focus?_eq_on_iff :
    note.focus? = some (.on n) ↔ ∃ actions, note = .shown actions (.ok n) := by
  constructor
  · intro hfocus
    unfold Note.focus? at hfocus
    split at hfocus
    · cases hfocus
      exact ⟨_, rfl⟩
    · cases hfocus
    · cases hfocus
  · rintro ⟨actions, rfl⟩
    rfl

/-- No show puts the session in force back to where it was at first. -/
theorem focus?_ne_untouched : note.focus? ≠ some .untouched := by
  intro hfocus
  unfold Note.focus? at hfocus
  split at hfocus <;> cases hfocus

/-- The session in force is the first one as long as no show replaces it. -/
theorem untouched_make (a : Arbiter) (move : Move) :
    (a.make move).1.focus = .untouched ↔ a.focus = .untouched ∧ (a.make move).2.focus? = none := by
  rw [focus_make]
  cases hnote : (a.make move).2.focus? with
  | none => simp
  | some focus =>
      have hne : focus ≠ .untouched := fun heq => focus?_ne_untouched (heq ▸ hnote)
      simpa using hne

/-- The session in force is that of a dialog, and not cancelled. -/
def IsFocused (a : Arbiter) (n : Nat) : Prop :=
  a.focus = .on n ∧ a.IsLive n

/-- An arbiter is active with the first session and with an open one. -/
theorem has_active_iff (a : Arbiter) :
    a.hasActive = true ↔ a.focus = .untouched ∨ ∃ n, a.IsFocused n := by
  unfold hasActive IsFocused IsLive
  cases hfocus : a.focus with
  | untouched => simp
  | lost => simp
  | on n =>
      cases hdialog : a.dialog? n with
      | none => simp [hdialog]
      | some d => simp [hdialog]

/-- A dialog that is shown has the session in force. -/
theorem is_focused_of_shown {actions : List String}
    (hnote : (a.make move).2 = .shown actions (.ok n)) : (a.make move).1.IsFocused n := by
  constructor
  · rw [focus_make, hnote]
    rfl
  · cases move with
    | present title content labels =>
        obtain ⟨_, hshown⟩ := Note.shown.inj hnote
        exact is_live_present hshown
    | receive | choose | dismiss | dropFrontend | poll | abandon => cases hnote

/-- After a move, a dialog has the session in force if it was shown just now, or if it had it before
and the move does not end it. -/
theorem is_focused_make (a : Arbiter) (move : Move) (n : Nat) :
    (a.make move).1.IsFocused n ↔ (∃ actions, (a.make move).2 = .shown actions (.ok n)) ∨
      a.IsFocused n ∧ (a.make move).2.ends (.on n) n = false := by
  constructor
  · rintro ⟨hfocus, d', hd', hopen⟩
    rw [focus_make] at hfocus
    cases hnote : (a.make move).2.focus? with
    | some focus =>
        rw [hnote] at hfocus
        obtain rfl : focus = .on n := hfocus
        exact .inl (focus?_eq_on_iff.mp hnote)
    | none =>
        rw [hnote] at hfocus
        have hfocus : a.focus = .on n := hfocus
        cases hd : a.dialog? n with
        | none => exact .inl ⟨_, (dialog?_make_new move hd hd').1⟩
        | some d =>
            -- The session was open before, and the move did not end it.
            have hor := (follows_of_make hd hd').is_cancelled_eq
            rw [hopen, hfocus, eq_comm, Bool.or_eq_false_iff] at hor
            exact .inr ⟨⟨hfocus, d, hd, hor.1⟩, hor.2⟩
  · rintro (⟨actions, hnote⟩ | ⟨⟨hfocus, d, hd, hopen⟩, hends⟩)
    · exact is_focused_of_shown hnote
    · obtain ⟨d', hd', hfollows⟩ := follows_make move hd
      have hcancelled := hfollows.is_cancelled_eq
      rw [hopen, hfocus, hends] at hcancelled
      refine ⟨?_, d', hd', hcancelled⟩
      rw [focus_make, (ends_eq_false_iff.mp hends).1]
      exact hfocus

end Arbiter

namespace Transcript

open Arbiter

/-- No show was accepted yet. -/
def IsFresh (t : Transcript) : Prop :=
  ∀ note ∈ t.notes, note.focus? = none

/-- The dialog was shown, and since then no other show was accepted, its caller has not got an
outcome, and its caller has not given up. -/
def IsOpen (t : Transcript) (n : Nat) : Prop :=
  ∃ before actions after, t.notes = before ++ .shown actions (.ok n) :: after ∧
    ∀ note ∈ after, note.focus? = none ∧ (∀ outcome, note ≠ .polled n (some outcome)) ∧
      note ≠ .abandoned n

variable {t : Transcript} {n : Nat}

/-- A transcript stays fresh as long as no show is accepted. -/
theorem is_fresh_observe (t : Transcript) (move : Move) :
    (t.observe move).IsFresh ↔ t.IsFresh ∧ (t.arbiter.make move).2.focus? = none := by
  unfold IsFresh
  rw [notes_observe]
  simp [or_imp, forall_and]

/-- After a move, a dialog is open if it was shown just now, or if it was open before and the move
does not end its session. -/
theorem is_open_observe (t : Transcript) (move : Move) (n : Nat) :
    (t.observe move).IsOpen n ↔ (∃ actions, (t.arbiter.make move).2 = .shown actions (.ok n)) ∨
      t.IsOpen n ∧ (t.arbiter.make move).2.ends (.on n) n = false := by
  unfold IsOpen
  rw [notes_observe]
  generalize (t.arbiter.make move).2 = note
  constructor
  · rintro ⟨before, actions, after, hnotes, hafter⟩
    rcases List.eq_nil_or_concat after with rfl | ⟨between, last, rfl⟩
    · obtain ⟨_, hnote⟩ := List.append_inj' hnotes rfl
      exact .inl ⟨actions, (List.cons.inj hnote).1⟩
    · rw [List.concat_eq_append, ← List.cons_append, ← List.append_assoc] at hnotes
      obtain ⟨hbefore, hnote⟩ := List.append_inj' hnotes rfl
      obtain rfl : note = last := (List.cons.inj hnote).1
      refine .inr ⟨⟨before, actions, between, hbefore, fun other hother => ?_⟩, ?_⟩
      · exact hafter other (by simp [hother])
      · exact ends_eq_false_iff.mpr (hafter note (by simp))
  · rintro (⟨actions, rfl⟩ | ⟨⟨before, actions, after, hnotes, hafter⟩, hends⟩)
    · exact ⟨t.notes, actions, [], rfl, List.forall_mem_nil _⟩
    · refine ⟨before, actions, after ++ [note], by simp [hnotes], fun other hother => ?_⟩
      rcases List.mem_append.mp hother with hother | hother
      · exact hafter other hother
      · rw [List.mem_singleton.mp hother]
        exact ends_eq_false_iff.mp hends

/-- The session in force is the one that the notes tell of. -/
structure IsReported (t : Transcript) : Prop where
  fresh : t.arbiter.focus = .untouched ↔ t.IsFresh
  opened : ∀ n, t.arbiter.IsFocused n ↔ t.IsOpen n

/-- Every move keeps the session in force and the notes together. -/
theorem IsReported.observe (hreported : t.IsReported) (move : Move) :
    (t.observe move).IsReported where
  fresh := by
    rw [arbiter_observe, untouched_make, is_fresh_observe, hreported.fresh]
  opened := by
    intro n
    rw [arbiter_observe, is_focused_make, is_open_observe, hreported.opened]

/-- Before any move no dialog is open. -/
theorem not_is_open_empty (n : Nat) : ¬ Transcript.empty.IsOpen n := by
  rintro ⟨before, actions, after, hnotes, _⟩
  exact List.append_ne_nil_of_right_ne_nil before (List.cons_ne_nil _ after) hnotes.symm

/-- Before any move there is the first session, and there are no notes. -/
theorem is_reported_empty : Transcript.empty.IsReported where
  fresh := by
    constructor
    · intro _ note hnote
      cases hnote
    · intro _
      rfl
  opened := by
    intro n
    constructor
    · rintro ⟨hfocus, _⟩
      cases hfocus
    · intro hopen
      exact absurd hopen (not_is_open_empty n)

/-- **What an arbiter reports.** After any moves, an arbiter is active exactly if no show was
accepted yet, or if the dialog shown last is still open: no later show has superseded it, its caller
has not got an outcome, and its caller has not given up. -/
theorem activity_is_reported (moves : List Move) :
    let t := Transcript.empty.run moves
    t.arbiter.hasActive = true ↔ t.IsFresh ∨ ∃ n, t.IsOpen n := by
  intro t
  have hreported : t.IsReported :=
    run_induction (fun _ move h => h.observe move) is_reported_empty moves
  rw [has_active_iff, hreported.fresh]
  simp only [hreported.opened]

/-- Before any show an arbiter is active, and yet no dialog is open. -/
theorem active_without_dialog :
    Transcript.empty.arbiter.hasActive = true ∧ ¬ ∃ n, Transcript.empty.IsOpen n := by
  refine ⟨rfl, ?_⟩
  rintro ⟨n, hopen⟩
  exact not_is_open_empty n hopen

end Transcript

end Widgetry
