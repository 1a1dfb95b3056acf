import Widgetry.Dialog.Arbiter

/-!
# Moves of a dialog arbiter

Callers show dialogs, look for outcomes and give up; a frontend receives dialogs, chooses, dismisses
and goes away, all in any order. A `Transcript` is the arbiter after some moves, with a note of what
was seen of each. What a move does is said once: `follows_make` for a dialog, `focus_make` for the
session in force and `dialog?_make_new` for new dialogs. Invariants of transcripts are proved from
these, without a look at the definitions.
-/

namespace Widgetry

namespace Dialog

/-- Labels that can be the actions of a dialog: there are some, no two are equal, and each has a
character that is not blank. -/
structure AreActions (actions : List String) : Prop where
  exist : actions ≠ []
  distinct : actions.Nodup
  visible : ∀ label ∈ actions, ∃ c ∈ label.toList, Text.isBlank c = false

/-- A text is blank if none of its characters is visible. -/
theorem is_blank_text_eq_false {s : String} :
    Text.isBlankText s = false ↔ ∃ c ∈ s.toList, Text.isBlank c = false := by
  simp [Text.isBlankText, List.all_eq_false]

/-- Labels have no fault if each is visible, new among those before, and none is repeated. -/
theorem first_fault_eq_none {seen labels : List String} :
    firstFault? seen labels = none ↔
      labels.Nodup ∧ ∀ label ∈ labels, label ∉ seen ∧ Text.isBlankText label = false := by
  induction labels generalizing seen with
  | nil => simp [firstFault?]
  | cons label rest ih =>
      unfold firstFault?
      cases hblank : Text.isBlankText label with
      | true => simp [hblank]
      | false =>
          by_cases hseen : label ∈ seen
          · simp [hseen]
          · simp only [Bool.false_eq_true, if_false, List.contains_iff_mem, hseen, ih,
              List.mem_cons, not_or, List.nodup_cons]
            constructor
            · rintro ⟨hnodup, hrest⟩
              refine ⟨⟨fun hmem => (hrest label hmem).1.1 rfl, hnodup⟩, ?_⟩
              rintro other (rfl | hother)
              · exact ⟨hseen, hblank⟩
              · exact ⟨(hrest other hother).1.2, (hrest other hother).2⟩
            · rintro ⟨⟨hlabel, hnodup⟩, hrest⟩
              refine ⟨hnodup, fun other hother => ⟨⟨?_, (hrest other (.inr hother)).1⟩,
                (hrest other (.inr hother)).2⟩⟩
              rintro rfl
              exact hlabel hother

/-- The check accepts exactly the lists that can be actions. -/
theorem validate_actions_eq_ok {actions : List String} :
    validateActions actions = .ok () ↔ AreActions actions := by
  have hfault : validateActions actions = .ok () ↔ actionFault? actions = none := by
    unfold validateActions
    cases actionFault? actions <;> simp
  rw [hfault]
  cases actions with
  | nil =>
      simp only [actionFault?, reduceCtorEq, false_iff]
      exact fun hactions => hactions.exist rfl
  | cons label rest =>
      simp only [actionFault?, first_fault_eq_none, List.not_mem_nil, not_false_eq_true, true_and,
        is_blank_text_eq_false]
      constructor
      · rintro ⟨hnodup, hvisible⟩
        exact ⟨List.cons_ne_nil _ _, hnodup, hvisible⟩
      · rintro ⟨_, hnodup, hvisible⟩
        exact ⟨hnodup, hvisible⟩

/-- A list that cannot be actions is refused for its fault. -/
theorem validate_actions_eq_error {actions : List String} (hactions : ¬ AreActions actions) :
    ∃ fault, validateActions actions = .error (.invalidActions fault) := by
  rw [← validate_actions_eq_ok] at hactions
  unfold validateActions at hactions ⊢
  cases hfault : actionFault? actions with
  | none => simp [hfault] at hactions
  | some fault => exact ⟨fault, rfl⟩

/-- A dialog that was dismissed is dismissed once. -/
@[simp] theorem dismiss_dismiss (d : Dialog) : d.dismiss.dismiss = d.dismiss := by
  obtain ⟨title, content, actions, response, isCancelled⟩ := d
  cases response <;> rfl

@[simp] theorem is_cancelled_dismiss (d : Dialog) : d.dismiss.isCancelled = d.isCancelled := by
  obtain ⟨title, content, actions, response, isCancelled⟩ := d
  cases response <;> rfl

/-- A choice succeeds on a dialog with that action that is neither cancelled nor answered, and sets
its response. -/
theorem choose_eq_ok {d d' : Dialog} {label : String} (hchoose : d.choose label = .ok d') :
    label ∈ d.actions ∧ d.isCancelled = false ∧ d.response = .pending ∧
      d' = { d with response := .chosen label } := by
  unfold Dialog.choose at hchoose
  split at hchoose
  · cases hchoose
  · rename_i hmem
    split at hchoose
    · cases hchoose
    · rename_i hcancelled
      split at hchoose
      · rename_i hresponse
        cases hchoose
        exact ⟨by simpa using hmem, by simpa using hcancelled, hresponse, rfl⟩
      · cases hchoose

end Dialog

namespace Arbiter

/-- What callers and the frontend can do. Nothing is assumed of who does what at which time. -/
inductive Move where
  | present (title : Option String) (content : Node) (actions : List String)
  | receive
  | choose (n : Nat) (label : String)
  | dismiss (n : Nat)
  | dropFrontend
  | poll (n : Nat)
  | abandon (n : Nat)

/-- What is seen of a move: on what it is made, and its answer. Requests are let go one at a time,
or together with the frontend. -/
inductive Note where
  | shown (actions : List String) (answer : Except DialogError Nat)
  | received (answer : Option Nat)
  | chose (n : Nat) (label : String) (answer : Except DialogError Unit)
  | letGo (requests : List Nat)
  | polled (n : Nat) (answer : Option (Except DialogError String))
  | abandoned (n : Nat)

/-- Where a show that replaces the session in force puts the new one. It replaces it if its actions
are accepted, even if there is no frontend any more. -/
def Note.focus? : Note → Option Focus
  | .shown _ (.ok n) => some (.on n)
  | .shown _ (.error .unavailable) => some .lost
  | _ => none

/-- The move ends the session of a dialog: it replaces the session while it is in force, or the
caller of the dialog gets an outcome or gives up. -/
def Note.ends (focus : Focus) (n : Nat) : Note → Bool
  | .polled m (some _) => m = n
  | .abandoned m => m = n
  | note => note.focus?.isSome && focus = .on n

/-- Make a move. -/
def make (a : Arbiter) : Move → Arbiter × Note
  | .present title content actions =>
      let (a, answer) := a.present title content actions
      (a, .shown actions answer)
  | .receive =>
      let (a, answer) := a.receive
      (a, .received answer)
  | .choose n label =>
      let (a, answer) := a.choose n label
      (a, .chose n label answer)
  | .dismiss n => (a.dismiss n, .letGo [n])
  | .dropFrontend => (a.dropFrontend, .letGo a.queue)
  | .poll n =>
      let (a, answer) := a.poll n
      (a, .polled n answer)
  | .abandon n => (a.abandon n, .abandoned n)

variable {a : Arbiter} {n k : Nat} {d d' : Dialog} {move : Move}

/-! ## Operations and single dialogs -/

/-- Changing a dialog changes no other. -/
theorem dialog?_modify (a : Arbiter) (n : Nat) (f : Dialog → Dialog) (k : Nat) :
    (a.modify n f).dialog? k = if n = k then (a.dialog? k).map f else a.dialog? k := by
  unfold dialog? modify
  rw [List.getElem?_modify]
  by_cases hn : n = k <;> simp [hn]

/-- Cancelling the session in force cancels the dialog that it belongs to. -/
theorem dialog?_cancel_active (a : Arbiter) (k : Nat) :
    a.cancelActive.dialog? k =
      if a.focus = .on k then (a.dialog? k).map Dialog.cancel else a.dialog? k := by
  unfold cancelActive
  cases hfocus : a.focus with
  | untouched => simp
  | lost => simp
  | on n => simp only [dialog?_modify, Focus.on.injEq]

@[simp] theorem length_cancel_active (a : Arbiter) :
    a.cancelActive.dialogs.length = a.dialogs.length := by
  unfold cancelActive
  split
  · simp [modify]
  · rfl

@[simp] theorem queue_cancel_active (a : Arbiter) : a.cancelActive.queue = a.queue := by
  unfold cancelActive
  split <;> rfl

@[simp] theorem has_frontend_cancel_active (a : Arbiter) :
    a.cancelActive.hasFrontend = a.hasFrontend := by
  unfold cancelActive
  split <;> rfl

/-- Dismissing several dialogs dismisses each of them, and changes no other. -/
theorem dialog?_dismiss_all (a : Arbiter) (requests : List Nat) (k : Nat) :
    (requests.foldl dismiss a).dialog? k =
      if k ∈ requests then (a.dialog? k).map Dialog.dismiss else a.dialog? k := by
  induction requests generalizing a with
  | nil => simp
  | cons n requests ih =>
      rw [List.foldl_cons, ih, dismiss, dialog?_modify]
      by_cases hn : n = k
      · subst hn
        -- A dialog that is named twice is dismissed twice, which is once.
        by_cases hmem : n ∈ requests <;> simp [hmem, Function.comp_def]
      · by_cases hmem : k ∈ requests <;> simp [hmem, hn, Ne.symm hn]

@[simp] theorem focus_dismiss_all (a : Arbiter) (requests : List Nat) :
    (requests.foldl dismiss a).focus = a.focus := by
  induction requests generalizing a with
  | nil => rfl
  | cons n requests ih => exact ih (a.dismiss n)

/-- Showing a dialog is refused for its actions without any change; otherwise the session in force
is cancelled, and there is a new dialog unless the frontend is gone. -/
theorem present_cases (a : Arbiter) (title : Option String) (content : Node)
    (actions : List String) :
    (¬ Dialog.AreActions actions ∧ ∃ fault,
      a.present title content actions = (a, .error (.invalidActions fault))) ∨
    (Dialog.AreActions actions ∧ a.present title content actions =
      ({ a.cancelActive with
          dialogs := a.cancelActive.dialogs ++
            [⟨Dialog.titleOf title, content, actions, .pending, false⟩]
          queue := a.queue ++ [a.dialogs.length]
          focus := .on a.dialogs.length }, .ok a.dialogs.length)) ∨
    (Dialog.AreActions actions ∧ a.present title content actions =
      ({ a.cancelActive with focus := .lost }, .error .unavailable)) := by
  unfold present
  by_cases hactions : Dialog.AreActions actions
  · right
    rw [Dialog.validate_actions_eq_ok.mpr hactions]
    cases hfrontend : a.hasFrontend with
    | true => exact .inl ⟨hactions, by simp [hfrontend]⟩
    | false => exact .inr ⟨hactions, by simp [hfrontend]⟩
  · left
    obtain ⟨fault, hfault⟩ := Dialog.validate_actions_eq_error hactions
    exact ⟨hactions, fault, by rw [hfault]⟩

/-- A choice fails and changes nothing, or it sets the response of its dialog. -/
theorem choose_cases (a : Arbiter) (n : Nat) (label : String) :
    (∃ e, a.choose n label = (a, .error e)) ∨
    ∃ d d', a.dialog? n = some d ∧ d.choose label = .ok d' ∧
      a.choose n label = (a.modify n fun _ => d', .ok ()) := by
  unfold choose
  cases hdialog : a.dialog? n with
  | none => exact .inl ⟨_, rfl⟩
  | some d =>
      cases hchoose : d.choose label with
      | error e => exact .inl ⟨e, by simp [hchoose]⟩
      | ok d' => exact .inr ⟨d, d', rfl, hchoose, by simp [hchoose]⟩

/-- A look for the outcome of a dialog finds none and changes nothing, or it ends the session. -/
theorem poll_cases (a : Arbiter) (n : Nat) :
    ((a.dialog? n).bind Dialog.outcome? = none ∧ a.poll n = (a, none)) ∨
    ∃ outcome, (a.dialog? n).bind Dialog.outcome? = some outcome ∧
      a.poll n = (a.abandon n, some outcome) := by
  unfold poll
  cases houtcome : (a.dialog? n).bind Dialog.outcome? with
  | none => exact .inl ⟨rfl, rfl⟩
  | some outcome => exact .inr ⟨outcome, rfl, rfl⟩

/-- Receiving a dialog changes the queue alone. -/
theorem receive_eq (a : Arbiter) : a.receive.1 = { a with queue := a.queue.tail } := by
  unfold receive
  cases hqueue : a.queue with
  | nil =>
      show a = { a with queue := [] }
      rw [← hqueue]
  | cons n queue => rfl

/-! ## What a move does to a dialog -/

/-- `Follows focus k note d d'` lists what a move can make of the dialog `k` while the session in
force belongs to `focus`: nothing, a cancelled dialog if the move ends its session, a dismissed one
if its request is let go, and an answered one if the move is a choice that succeeds. -/
inductive Follows (focus : Focus) (k : Nat) : Note → Dialog → Dialog → Prop where
  | same {note d} : note.ends focus k = false → (∀ label, note ≠ .chose k label (.ok ())) →
      Follows focus k note d d
  | ended {note d} : note.ends focus k = true → Follows focus k note d d.cancel
  | dismissed {requests d} : k ∈ requests → Follows focus k (.letGo requests) d d.dismiss
  | answered {label d d'} : d.choose label = .ok d' →
      Follows focus k (.chose k label (.ok ())) d d'

/-- Showing a dialog cancels the dialog with the session in force, unless it is refused. -/
theorem follows_present (title : Option String) (content : Node) (actions : List String)
    (hdialog : a.dialog? k = some d) :
    ∃ d', (a.present title content actions).1.dialog? k = some d' ∧
      Follows a.focus k (.shown actions (a.present title content actions).2) d d' := by
  have hcancel : ∀ answer, (Note.shown actions answer).focus?.isSome = true →
      ∃ d', a.cancelActive.dialog? k = some d' ∧
        Follows a.focus k (.shown actions answer) d d' := by
    intro answer hreplaces
    rw [dialog?_cancel_active, hdialog]
    by_cases hfocus : a.focus = .on k
    · exact ⟨d.cancel, by simp [hfocus], .ended (by simp [Note.ends, hreplaces, hfocus])⟩
    · exact ⟨d, by simp [hfocus], .same (by simp [Note.ends, hfocus]) nofun⟩
  rcases a.present_cases title content actions with ⟨_, fault, h⟩ | ⟨_, h⟩ | ⟨_, h⟩
  · rw [h]
    exact ⟨d, hdialog, .same rfl nofun⟩
  · rw [h]
    obtain ⟨d', hd', hfollows⟩ := hcancel (.ok a.dialogs.length) rfl
    -- The dialogs that were there before keep their places.
    have hlength : k < a.cancelActive.dialogs.length := (List.getElem?_eq_some_iff.mp hd').1
    refine ⟨d', ?_, hfollows⟩
    show (a.cancelActive.dialogs ++ _)[k]? = some d'
    rw [List.getElem?_append_left hlength]
    exact hd'
  · rw [h]
    exact hcancel (.error .unavailable) rfl

/-- A caller that gives up, or has an outcome, ends the session of its dialog. -/
theorem follows_abandon {note : Note} (hdialog : a.dialog? k = some d)
    (hends : note.ends a.focus k = decide (n = k))
    (hnot : ∀ label, note ≠ .chose k label (.ok ())) :
    ∃ d', (a.abandon n).dialog? k = some d' ∧ Follows a.focus k note d d' := by
  rw [abandon, dialog?_modify, hdialog]
  by_cases hn : n = k
  · exact ⟨d.cancel, by simp [hn], .ended (by simp [hends, hn])⟩
  · exact ⟨d, by simp [hn], .same (by simp [hends, hn]) hnot⟩

/-- A choice that succeeds answers its dialog. -/
theorem follows_choose (n : Nat) (label : String) (hdialog : a.dialog? k = some d) :
    ∃ d', (a.choose n label).1.dialog? k = some d' ∧
      Follows a.focus k (.chose n label (a.choose n label).2) d d' := by
  rcases a.choose_cases n label with ⟨e, h⟩ | ⟨old, new, hold, hchoose, h⟩
  · rw [h]
    exact ⟨d, hdialog, .same rfl (by simp)⟩
  · rw [h]
    show ∃ d', (a.modify n fun _ => new).dialog? k = some d' ∧ _
    rw [dialog?_modify, hdialog]
    by_cases hn : n = k
    · subst hn
      obtain rfl : d = old := Option.some.inj (hdialog.symm.trans hold)
      exact ⟨new, by simp, .answered hchoose⟩
    · exact ⟨d, by simp [hn], .same rfl (by simp [hn])⟩

/-- Requests that are let go are dismissed. -/
theorem follows_dismiss_all (requests : List Nat) (hdialog : a.dialog? k = some d) :
    ∃ d', (requests.foldl dismiss a).dialog? k = some d' ∧
      Follows a.focus k (.letGo requests) d d' := by
  rw [dialog?_dismiss_all, hdialog]
  by_cases hmem : k ∈ requests
  · exact ⟨d.dismiss, by simp [hmem], .dismissed hmem⟩
  · exact ⟨d, by simp [hmem], .same rfl nofun⟩

/-- A move makes of every dialog one of the listed things. -/
theorem follows_make (move : Move) (hdialog : a.dialog? k = some d) :
    ∃ d', (a.make move).1.dialog? k = some d' ∧ Follows a.focus k (a.make move).2 d d' := by
  cases move with
  | present title content actions => exact follows_present title content actions hdialog
  | receive =>
      show ∃ d', a.receive.1.dialog? k = some d' ∧ _
      rw [receive_eq]
      exact ⟨d, hdialog, .same rfl nofun⟩
  | choose n label => exact follows_choose n label hdialog
  | dismiss n => exact follows_dismiss_all [n] hdialog
  | dropFrontend => exact follows_dismiss_all a.queue hdialog
  | poll n =>
      rcases a.poll_cases n with ⟨_, h⟩ | ⟨outcome, _, h⟩
      · simp only [make, h]
        exact ⟨d, hdialog, .same rfl nofun⟩
      · simp only [make, h]
        exact follows_abandon hdialog rfl nofun
  | abandon n => exact follows_abandon hdialog rfl nofun

/-- So the dialog that is found after a move follows on the one that was there before. -/
theorem follows_of_make (hdialog : a.dialog? k = some d)
    (hdialog' : (a.make move).1.dialog? k = some d') : Follows a.focus k (a.make move).2 d d' := by
  obtain ⟨found, hfound, hfollows⟩ := follows_make move hdialog
  obtain rfl : found = d' := Option.some.inj (hfound.symm.trans hdialog')
  exact hfollows

/-- A dialog is cancelled if it was before, or if the move ends its session. -/
theorem Follows.is_cancelled_eq {focus : Focus} {note : Note} (h : Follows focus k note d d') :
    d'.isCancelled = (d.isCancelled || note.ends focus k) := by
  cases h with
  | same hends _ => rw [hends, Bool.or_false]
  | ended hends => rw [hends, Bool.or_true, Dialog.cancel]
  | dismissed hmem => rw [Dialog.is_cancelled_dismiss]; exact (Bool.or_false _).symm
  | answered hchoose =>
      obtain ⟨_, _, _, rfl⟩ := Dialog.choose_eq_ok hchoose
      exact (Bool.or_false _).symm

/-- The actions of a dialog never change. -/
theorem Follows.actions_eq {focus : Focus} {note : Note} (h : Follows focus k note d d') :
    d'.actions = d.actions := by
  cases h with
  | same | ended => rfl
  | dismissed hmem =>
      unfold Dialog.dismiss
      split <;> rfl
  | answered hchoose =>
      obtain ⟨_, _, _, rfl⟩ := Dialog.choose_eq_ok hchoose
      rfl

/-- A new dialog is one that was shown just now. -/
theorem dialog?_make_new (move : Move) (hnone : a.dialog? k = none)
    (hdialog : (a.make move).1.dialog? k = some d) :
    (a.make move).2 = .shown d.actions (.ok k) ∧ Dialog.AreActions d.actions ∧
      d.response = .pending ∧ d.isCancelled = false := by
  cases move with
  | present title content actions =>
      have hold : a.cancelActive.dialog? k = none := by
        rw [dialog?_cancel_active, hnone]
        split <;> rfl
      rcases a.present_cases title content actions with ⟨_, fault, h⟩ | ⟨hactions, h⟩ | ⟨_, h⟩
      · simp only [make, h] at hdialog
        cases hnone.symm.trans hdialog
      · simp only [make, h] at hdialog ⊢
        have hlength : a.dialogs.length ≤ k := by
          rw [← length_cancel_active]
          exact List.getElem?_eq_none_iff.mp hold
        rw [dialog?, List.getElem?_append_right (by simpa using hlength),
          length_cancel_active] at hdialog
        -- Only the first place behind the old dialogs is taken.
        obtain ⟨hlast, rfl⟩ := List.getElem?_eq_some_iff.mp hdialog
        have hk : k = a.dialogs.length := by
          have hlt : k - a.dialogs.length < 1 := hlast
          omega
        subst hk
        simpa using hactions
      · simp only [make, h] at hdialog
        cases hold.symm.trans hdialog
  | receive =>
      simp only [make, receive_eq] at hdialog
      cases hnone.symm.trans hdialog
  | choose n label =>
      rcases a.choose_cases n label with ⟨e, h⟩ | ⟨old, new, hold, hchoose, h⟩
      · simp [make, h, hnone] at hdialog
      · simp [make, h, dialog?_modify, hnone] at hdialog
  | dismiss n => simp [make, dismiss, dialog?_modify, hnone] at hdialog
  | dropFrontend =>
      have hdismissed : (a.queue.foldl dismiss a).dialog? k = some d := hdialog
      simp [dialog?_dismiss_all, hnone] at hdismissed
  | poll n =>
      rcases a.poll_cases n with ⟨_, h⟩ | ⟨outcome, _, h⟩
      · simp [make, h, hnone] at hdialog
      · simp [make, h, abandon, dialog?_modify, hnone] at hdialog
  | abandon n => simp [make, abandon, dialog?_modify, hnone] at hdialog

/-- The session in force changes only when a show replaces it. -/
theorem focus_make (a : Arbiter) (move : Move) :
    (a.make move).1.focus = (a.make move).2.focus?.getD a.focus := by
  cases move with
  | present title content actions =>
      rcases a.present_cases title content actions with ⟨_, fault, h⟩ | ⟨_, h⟩ | ⟨_, h⟩ <;>
        simp [make, h, Note.focus?]
  | receive => simp [make, receive_eq, Note.focus?]
  | choose n label =>
      rcases a.choose_cases n label with ⟨e, h⟩ | ⟨old, new, _, _, h⟩ <;>
        simp [make, h, Note.focus?, modify]
  | dismiss n => rfl
  | dropFrontend => exact focus_dismiss_all a a.queue
  | poll n =>
      rcases a.poll_cases n with ⟨_, h⟩ | ⟨outcome, _, h⟩ <;>
        simp [make, h, Note.focus?, abandon, modify]
  | abandon n => rfl

end Arbiter

/-! ## Transcripts -/

/-- An arbiter after some moves, and what was seen of them in their order. -/
structure Transcript where
  arbiter : Arbiter
  notes : List Arbiter.Note

namespace Transcript

open Arbiter

/-- Before any move. -/
def empty : Transcript :=
  ⟨.empty, []⟩

/-- Make a move and note what is seen. -/
def observe (t : Transcript) (move : Move) : Transcript :=
  let (a, note) := t.arbiter.make move
  ⟨a, t.notes ++ [note]⟩

/-- Make moves in order. -/
def run (t : Transcript) (moves : List Move) : Transcript :=
  moves.foldl observe t

theorem arbiter_observe (t : Transcript) (move : Move) :
    (t.observe move).arbiter = (t.arbiter.make move).1 := rfl

theorem notes_observe (t : Transcript) (move : Move) :
    (t.observe move).notes = t.notes ++ [(t.arbiter.make move).2] := rfl

/-- What holds before and is kept by every move holds after all moves. -/
theorem run_induction {p : Transcript → Prop} (hstep : ∀ t move, p t → p (t.observe move))
    {t : Transcript} (ht : p t) (moves : List Move) : p (t.run moves) := by
  induction moves generalizing t with
  | nil => exact ht
  | cons move moves ih => exact ih (hstep t move ht)

end Transcript

end Widgetry
