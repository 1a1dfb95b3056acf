import Widgetry.Proofs.Dialog.Moves

/-!
# At most one dialog is open

After any moves, only the dialog that was shown last can have a session that is not cancelled, and
only if no later show has replaced it. `Transcript.IsOrderly` relates the session in force to the
sessions of all dialogs ever shown; every move keeps it. The main theorem is
`at_most_one_live_dialog`.
-/

namespace Widgetry

namespace Arbiter

/-- The session of a dialog is not cancelled. -/
def IsLive (a : Arbiter) (n : Nat) : Prop :=
  ∃ d, a.dialog? n = some d ∧ d.isCancelled = false

variable {a : Arbiter} {n : Nat}

/-- No label can be chosen in a dialog that is cancelled, and the attempt changes nothing. -/
theorem choose_of_cancelled {d : Dialog} (hdialog : a.dialog? n = some d)
    (hcancelled : d.isCancelled = true) (label : String) :
    ∃ e, a.choose n label = (a, .error e) := by
  rcases a.choose_cases n label with hfails | ⟨old, new, hold, hchoose, _⟩
  · exact hfails
  · obtain rfl : d = old := Option.some.inj (hdialog.symm.trans hold)
    obtain ⟨_, hopen, _, _⟩ := Dialog.choose_eq_ok hchoose
    rw [hopen] at hcancelled
    cases hcancelled

/-- A show is refused for its actions exactly if they cannot be actions. -/
theorem present_refused_iff (a : Arbiter) (title : Option String) (content : Node)
    (actions : List String) :
    (∃ fault, (a.present title content actions).2 = .error (.invalidActions fault)) ↔
      ¬ Dialog.AreActions actions := by
  rcases a.present_cases title content actions with ⟨hactions, fault, h⟩ | ⟨hactions, h⟩ |
    ⟨hactions, h⟩ <;> simp [h, hactions]

/-- A show that is refused for its actions changes nothing. -/
theorem present_refused {title : Option String} {content : Node} {actions : List String}
    {fault : ActionFault}
    (hrefused : (a.present title content actions).2 = .error (.invalidActions fault)) :
    (a.present title content actions).1 = a := by
  rcases a.present_cases title content actions with ⟨_, _, h⟩ | ⟨_, h⟩ | ⟨_, h⟩
  · rw [h]
  · rw [h] at hrefused
    cases hrefused
  · rw [h] at hrefused
    cases hrefused

/-- A show that succeeds makes its dialog live. -/
theorem is_live_present {title : Option String} {content : Node} {actions : List String}
    (hshown : (a.present title content actions).2 = .ok n) :
    (a.present title content actions).1.IsLive n := by
  rcases a.present_cases title content actions with ⟨_, _, h⟩ | ⟨_, h⟩ | ⟨_, h⟩
  · rw [h] at hshown
    cases hshown
  · rw [h] at hshown ⊢
    obtain rfl : a.dialogs.length = n := Except.ok.inj hshown
    exact ⟨⟨Dialog.titleOf title, content, actions, .pending, false⟩, by simp [dialog?], rfl⟩
  · rw [h] at hshown
    cases hshown

/-- The frontend is only ever to receive dialogs that were shown. -/
theorem queue_make (hqueue : ∀ n ∈ a.queue, ∃ d, a.dialog? n = some d) (move : Move) :
    ∀ n ∈ (a.make move).1.queue, ∃ d, (a.make move).1.dialog? n = some d := by
  -- No move removes a dialog, so that only one that has just joined the queue needs a look.
  have hkeeps : ∀ n ∈ a.queue, ∃ d, (a.make move).1.dialog? n = some d := by
    intro n hn
    obtain ⟨d, hd⟩ := hqueue n hn
    obtain ⟨d', hd', _⟩ := follows_make move hd
    exact ⟨d', hd'⟩
  intro n hn
  cases move with
  | present title content actions =>
      rcases a.present_cases title content actions with ⟨_, fault, h⟩ | ⟨_, h⟩ | ⟨_, h⟩
      · exact hkeeps n (by simpa [make, h] using hn)
      · have hmem : n ∈ a.queue ++ [a.dialogs.length] := by simpa [make, h] using hn
        rcases List.mem_append.mp hmem with hold | hnew
        · exact hkeeps n hold
        · rw [List.mem_singleton] at hnew
          subst hnew
          simp [make, h, dialog?]
      · exact hkeeps n (by simpa [make, h] using hn)
  | receive =>
      have htail : n ∈ a.queue.tail := by simpa [make, receive_eq] using hn
      exact hkeeps n (List.mem_of_mem_tail htail)
  | choose m label =>
      refine hkeeps n ?_
      rcases a.choose_cases m label with ⟨e, h⟩ | ⟨old, new, _, _, h⟩
      · simpa [make, h] using hn
      · simpa [make, h, modify] using hn
  | dismiss m => exact hkeeps n hn
  | dropFrontend => cases hn
  | poll m =>
      refine hkeeps n ?_
      rcases a.poll_cases m with ⟨_, h⟩ | ⟨outcome, _, h⟩
      · simpa [make, h] using hn
      · simpa [make, h, abandon, modify] using hn
  | abandon m => exact hkeeps n hn

end Arbiter

namespace Transcript

open Arbiter

/-- The dialog was shown, and no show after that has replaced its session. -/
def IsLatest (t : Transcript) (n : Nat) : Prop :=
  ∃ before actions after, t.notes = before ++ .shown actions (.ok n) :: after ∧
    ∀ note ∈ after, note.focus? = none

/-- The session in force belongs to the dialog shown last, all other sessions are cancelled, and the
requests are well formed. -/
structure IsOrderly (t : Transcript) : Prop where
  live : ∀ n, t.arbiter.IsLive n → t.arbiter.focus = .on n
  latest : ∀ n, t.arbiter.focus = .on n → t.IsLatest n
  actions : ∀ n d, t.arbiter.dialog? n = some d → Dialog.AreActions d.actions
  queue : ∀ n ∈ t.arbiter.queue, ∃ d, t.arbiter.dialog? n = some d

variable {t : Transcript} {n : Nat}

/-- A show that replaces the session in force ends it. -/
theorem focus?_eq_none_of_ends {focus : Focus} {note : Note} (hfocus : focus = .on n)
    (hends : note.ends focus n = false) : note.focus? = none := by
  subst hfocus
  cases note with
  | shown actions answer => simpa [Note.ends] using hends
  | received | chose | letGo | polled | abandoned => rfl

/-- Only the dialog with the session in force can be live after a move. -/
theorem IsOrderly.live_observe (horderly : t.IsOrderly) (move : Move)
    (hlive : (t.observe move).arbiter.IsLive n) : (t.observe move).arbiter.focus = .on n := by
  obtain ⟨d', hd', hopen⟩ := hlive
  rw [arbiter_observe] at hd' ⊢
  rw [focus_make]
  cases hd : t.arbiter.dialog? n with
  | none =>
      -- A new dialog has taken over the session in force.
      obtain ⟨hnote, _⟩ := dialog?_make_new move hd hd'
      rw [hnote]
      rfl
  | some d =>
      -- A dialog that is live now was live before, so that the session in force was its own.
      have hor := (follows_of_make hd hd').is_cancelled_eq
      rw [hopen, eq_comm, Bool.or_eq_false_iff] at hor
      have hfocus := horderly.live n ⟨d, hd, hor.1⟩
      rw [focus?_eq_none_of_ends hfocus hor.2]
      exact hfocus

/-- After a move the session in force belongs to the dialog shown last. -/
theorem IsOrderly.latest_observe (horderly : t.IsOrderly) (move : Move)
    (hfocus : (t.observe move).arbiter.focus = .on n) : (t.observe move).IsLatest n := by
  unfold IsLatest
  rw [notes_observe]
  rw [arbiter_observe, focus_make] at hfocus
  generalize (t.arbiter.make move).2 = note at hfocus
  cases hnote : note.focus? with
  | none =>
      rw [hnote] at hfocus
      obtain ⟨before, actions, after, hnotes, hafter⟩ := horderly.latest n hfocus
      refine ⟨before, actions, after ++ [note], by simp [hnotes], ?_⟩
      intro other hother
      rcases List.mem_append.mp hother with hother | hother
      · exact hafter other hother
      · rw [List.mem_singleton.mp hother]
        exact hnote
  | some focus =>
      rw [hnote] at hfocus
      obtain rfl : focus = .on n := hfocus
      obtain ⟨actions, rfl⟩ : ∃ actions, note = .shown actions (.ok n) := by
        unfold Note.focus? at hnote
        split at hnote
        · cases hnote
          exact ⟨_, rfl⟩
        · cases hnote
        · cases hnote
      exact ⟨t.notes, actions, [], rfl, nofun⟩

/-- Every move keeps a transcript orderly. -/
theorem IsOrderly.observe (horderly : t.IsOrderly) (move : Move) :
    (t.observe move).IsOrderly where
  live := fun _ hlive => horderly.live_observe move hlive
  latest := fun _ hfocus => horderly.latest_observe move hfocus
  queue := queue_make horderly.queue move
  actions := by
    intro n d' hd'
    cases hd : t.arbiter.dialog? n with
    | none => exact (dialog?_make_new move hd hd').2.1
    | some d =>
        rw [(follows_of_make hd hd').actions_eq]
        exact horderly.actions n d hd

/-- Before any move there is no dialog. -/
theorem is_orderly_empty : Transcript.empty.IsOrderly where
  live := by
    rintro n ⟨d, hd, _⟩
    cases hd
  latest := nofun
  actions := nofun
  queue := nofun

/-- **At most one dialog is live.** After any moves, no two dialogs have a session that is not
cancelled, and one that has is the dialog whose show was the last to replace the session in force.
All requests, those yet to be received included, belong to dialogs with proper actions. In a dialog
that is cancelled every choice fails and changes nothing. A show is refused for its actions exactly
if they are not proper, and then changes nothing; a show that succeeds makes its dialog live. -/
theorem at_most_one_live_dialog (moves : List Move) :
    let t := Transcript.empty.run moves
    let a := t.arbiter
    (∀ m n, a.IsLive m → a.IsLive n → m = n) ∧
      (∀ n, a.IsLive n → t.IsLatest n) ∧
      (∀ n ∈ a.queue, ∃ d, a.dialog? n = some d) ∧
      (∀ n d, a.dialog? n = some d → Dialog.AreActions d.actions) ∧
      (∀ n d, a.dialog? n = some d → d.isCancelled = true → ∀ label,
        ∃ e, a.choose n label = (a, .error e)) ∧
      ∀ title content actions,
        ((∃ fault, (a.present title content actions).2 = .error (.invalidActions fault)) ↔
          ¬ Dialog.AreActions actions) ∧
        (∀ fault, (a.present title content actions).2 = .error (.invalidActions fault) →
          (a.present title content actions).1 = a) ∧
        ∀ n, (a.present title content actions).2 = .ok n →
          (a.present title content actions).1.IsLive n := by
  intro t a
  have horderly : t.IsOrderly :=
    run_induction (fun _ move h => h.observe move) is_orderly_empty moves
  refine ⟨?_, ?_, horderly.queue, horderly.actions, ?_, ?_⟩
  · intro m n hm hn
    have hfocus := (horderly.live m hm).symm.trans (horderly.live n hn)
    exact Focus.on.inj hfocus
  · intro n hn
    exact horderly.latest n (horderly.live n hn)
  · intro n d hd hcancelled label
    exact choose_of_cancelled hd hcancelled label
  · intro title content actions
    exact ⟨present_refused_iff a title content actions, fun _ hrefused => present_refused hrefused,
      fun _ hshown => is_live_present hshown⟩

end Transcript

end Widgetry
