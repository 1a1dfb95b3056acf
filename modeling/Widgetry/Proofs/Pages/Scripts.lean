import Widgetry.Proofs.LetterCase
import Widgetry.Proofs.Pages.Head

/-!
# Where scripts end

A browser does not read a script up to the first end tag. A comment in the script is escaped text,
in which an end tag still ends the script. But from a start tag of a script on, the comment is
doubly escaped, and an end tag there only ends the inner script. `Script.State` has the states of a
browser that reads a script, and `Script.leave?` tells where it leaves the script.

A page puts a backslash into every end tag of a module, so that none of them ends the script early.
The main theorem, `scripts_end_where_written`, says that the script ends at the end tag written by
the page exactly if the source does not hide this end tag: `Script.HidesEnd` is a comment in the
source that stays open and has the start tag of a script in it.
-/

namespace Widgetry

namespace Script

/-! ## Reading scripts -/

/-- The dashes at the end of what was read of a comment. Two stand for two or more. -/
inductive Dashes where
  | none
  | one
  | two
  deriving Repr, DecidableEq

/-- One more dash. -/
def Dashes.more : Dashes → Dashes
  | .none => .one
  | _ => .two

/-- The dashes themselves. -/
def Dashes.text : Dashes → List Char
  | .none => []
  | .one => ['-']
  | .two => ['-', '-']

/-- What a browser is in the middle of while it reads a script: plain text, or the beginning of a
comment; a comment, doubly escaped or not; in a comment, the name after a bracket, or after a
bracket and a slash if the comment is doubly escaped; the end tag of the script. -/
inductive State where
  | plain
  | less
  | bang
  | bangDash
  | comment (doubled : Bool) (dashes : Dashes)
  | commentLess (doubled : Bool)
  | nest (name : List Char)
  | unnest (name : List Char)
  | endOpen (inComment : Bool)
  | endName (inComment : Bool) (name : List Char)
  | ended
  deriving Repr, DecidableEq

/-- The name is that of scripts, in small or capital letters. -/
def isScript (name : List Char) : Bool :=
  name.map Char.toLower = ['s', 'c', 'r', 'i', 'p', 't']

/-- A character that ends the name of a tag. -/
def isBreak (c : Char) : Bool :=
  Html.isSpace c || c = '/' || c = '>'

/-- Go on in plain text. -/
def plainNext (c : Char) : State :=
  if c = '<' then .less else .plain

/-- Go on in a comment. It ends with two dashes and a bracket. -/
def commentNext (doubled : Bool) (dashes : Dashes) (c : Char) : State :=
  if c = '-' then .comment doubled dashes.more
  else if c = '<' then .commentLess doubled
  else if c = '>' ∧ dashes = .two then .plain
  else .comment doubled .none

/-- Go on after something that was no end tag. -/
def textNext (inComment : Bool) (c : Char) : State :=
  if inComment then commentNext false .none c else plainNext c

/-- Read a character. -/
def step : State → Char → State
  | .plain, c => plainNext c
  | .less, c =>
      if c = '/' then .endOpen false else if c = '!' then .bang else plainNext c
  | .bang, c => if c = '-' then .bangDash else plainNext c
  | .bangDash, c => if c = '-' then .comment false .two else plainNext c
  | .comment doubled dashes, c => commentNext doubled dashes c
  | .commentLess false, c =>
      if c = '/' then .endOpen true
      else if c.isAlpha then .nest [c] else commentNext false .none c
  | .commentLess true, c => if c = '/' then .unnest [] else commentNext true .none c
  | .nest name, c =>
      if isBreak c then .comment (isScript name) .none
      else if c.isAlpha then .nest (name ++ [c]) else commentNext false .none c
  | .unnest name, c =>
      if isBreak c then .comment (!isScript name) .none
      else if c.isAlpha then .unnest (name ++ [c]) else commentNext true .none c
  | .endOpen inComment, c =>
      if c.isAlpha then .endName inComment [c] else textNext inComment c
  | .endName inComment name, c =>
      if isBreak c && isScript name then .ended
      else if c.isAlpha then .endName inComment (name ++ [c]) else textNext inComment c
  | .ended, _ => .ended

/-- Read characters in order. -/
def run (s : State) (cs : List Char) : State :=
  cs.foldl step s

/-- The text up to the character at which the script is left, and what follows. -/
def leave? (s : State) : List Char → Option (List Char × List Char)
  | [] => none
  | c :: rest =>
      if step s c = .ended then some ([c], rest)
      else (leave? (step s c) rest).map (Prod.map (c :: ·) id)

/-- The end tag that a page writes. -/
def endTag : List Char := ['<', '/', 's', 'c', 'r', 'i', 'p', 't', '>']

variable {s : State} {c : Char} {cs rest name : List Char}

/-- A script that was left is not entered again. -/
theorem run_ended (cs : List Char) : run .ended cs = .ended := by
  induction cs with
  | nil => rfl
  | cons c cs ih => exact ih

/-- A text in which the script is not left is read, and then what follows it. -/
theorem leave?_append (h : run s cs ≠ .ended) (rest : List Char) :
    leave? s (cs ++ rest) = (leave? (run s cs) rest).map (Prod.map (cs ++ ·) id) := by
  induction cs generalizing s with
  | nil =>
      show leave? s rest = (leave? s rest).map id
      rw [Option.map_id, id]
  | cons c cs ih =>
      have hstep : step s c ≠ .ended := by
        intro hstep
        apply h
        rw [run, List.foldl_cons, hstep]
        exact run_ended cs
      rw [List.cons_append, leave?, if_neg hstep, ih h, Option.map_map]
      rfl

/-- Something is read before a script is left. -/
theorem read_ne_nil {read : List Char} (h : leave? s cs = some (read, rest)) : read ≠ [] := by
  cases cs with
  | nil => cases h
  | cons c cs =>
      rw [leave?] at h
      split at h
      · cases h
        exact List.cons_ne_nil _ _
      · obtain ⟨⟨front, back⟩, _, heq⟩ := Option.map_eq_some_iff.mp h
        cases heq
        exact List.cons_ne_nil _ _

/-! ## Places of a text -/

/-- Some place of the text satisfies `p`, which is asked about all that follows from there. -/
def Occurs (p : List Char → Prop) (cs : List Char) : Prop :=
  ∃ after, after <:+ cs ∧ p after

/-- A place satisfies `p` if it is the first one, or one later. -/
theorem occurs_cons {p : List Char → Prop} :
    Occurs p (c :: cs) ↔ p (c :: cs) ∨ Occurs p cs := by
  constructor
  · rintro ⟨after, hafter, hp⟩
    rcases List.suffix_cons_iff.mp hafter with rfl | hafter
    · exact .inl hp
    · exact .inr ⟨after, hafter, hp⟩
  · rintro (hp | ⟨after, hafter, hp⟩)
    · exact ⟨c :: cs, List.suffix_refl _, hp⟩
    · exact ⟨after, hafter.trans (cs.suffix_cons c), hp⟩

/-- The end of a comment begins here. -/
def ClosesComment (cs : List Char) : Prop :=
  ['-', '-', '>'] <+: cs

/-- The start tag of a script begins here. -/
def OpensScript (cs : List Char) : Prop :=
  ∃ name t rest, cs = '<' :: (name ++ t :: rest) ∧ isScript name = true ∧ isBreak t = true

/-- A comment begins here that stays open and has the start tag of a script in it. The dashes with
which it begins may belong to its end. -/
def OpensHiding (cs : List Char) : Prop :=
  ∃ inner, cs = '<' :: '!' :: '-' :: '-' :: inner ∧
    ¬ Occurs ClosesComment ('-' :: '-' :: inner) ∧ Occurs OpensScript ('-' :: '-' :: inner)

/-- The text has a comment that stays open and has the start tag of a script in it. -/
def HidesEnd (cs : List Char) : Prop :=
  Occurs OpensHiding cs

/-- The end of a comment begins with two dashes. -/
theorem closes_comment_cons :
    ClosesComment (c :: cs) ↔ c = '-' ∧ ['-', '>'] <+: cs := by
  unfold ClosesComment
  rw [List.cons_prefix_cons, eq_comm]

/-- A start tag begins with a bracket. -/
theorem not_opens_script_of_ne (hc : c ≠ '<') : ¬ OpensScript (c :: cs) := by
  rintro ⟨name, t, rest, heq, _⟩
  exact hc (List.cons.inj heq).1

/-- A comment begins with a bracket. -/
theorem not_opens_hiding_of_ne (hc : c ≠ '<') : ¬ OpensHiding (c :: cs) := by
  rintro ⟨inner, heq, _⟩
  exact hc (List.cons.inj heq).1

/-- A comment begins with a bracket, an exclamation mark and two dashes. -/
theorem opens_hiding_iff : OpensHiding ('<' :: cs) ↔
    ∃ inner, cs = '!' :: '-' :: '-' :: inner ∧ ¬ Occurs ClosesComment ('-' :: '-' :: inner) ∧
      Occurs OpensScript ('-' :: '-' :: inner) := by
  simp only [OpensHiding, List.cons.injEq, true_and]

/-- A break is no letter. -/
theorem not_is_alpha_of_is_break (h : isBreak c = true) : c.isAlpha = false := by
  have hsigns : c = ' ' ∨ c = '\t' ∨ c = '\n' ∨ c = '\x0c' ∨ c = '\r' ∨ c = '/' ∨ c = '>' := by
    simpa [isBreak, Html.isSpace, or_assoc] using h
  rcases hsigns with rfl | rfl | rfl | rfl | rfl | rfl | rfl <;> decide

/-- The name of scripts is made of letters. -/
theorem is_alpha_of_is_script (h : isScript name = true) : ∀ c ∈ name, c.isAlpha = true := by
  intro c hc
  have hletters : ∀ d ∈ ['s', 'c', 'r', 'i', 'p', 't'], d.isAlpha = true :=
    List.all_eq_true.mp (by decide)
  have hlower : c.toLower.isAlpha = true := by
    refine hletters _ ?_
    rw [← of_decide_eq_true h]
    exact List.mem_map_of_mem hc
  cases halpha : c.isAlpha with
  | true => rfl
  | false => rw [(Text.to_lower_eq_iff halpha).mpr rfl, halpha] at hlower; exact hlower

/-- The name of a start tag are the letters after the bracket. -/
theorem opens_script_iff (hname : ∀ d ∈ name, d.isAlpha = true) (hc : c.isAlpha = false) :
    OpensScript ('<' :: (name ++ c :: cs)) ↔ isScript name = true ∧ isBreak c = true := by
  constructor
  · rintro ⟨word, t, rest, heq, hscript, hbreak⟩
    have hword := is_alpha_of_is_script hscript
    have ht := not_is_alpha_of_is_break hbreak
    have hletters := congrArg (List.takeWhile Char.isAlpha) (List.cons.inj heq).2
    rw [List.takeWhile_append_of_pos hname, List.takeWhile_append_of_pos hword,
      List.takeWhile_cons_of_neg (by simp [hc]), List.takeWhile_cons_of_neg (by simp [ht]),
      List.append_nil, List.append_nil] at hletters
    subst hletters
    obtain ⟨rfl, _⟩ := List.cons.inj (List.append_cancel_left (List.cons.inj heq).2)
    exact ⟨hscript, hbreak⟩
  · rintro ⟨hscript, hbreak⟩
    exact ⟨name, c, cs, rfl, hscript, hbreak⟩

/-! ## Doubly escaped text -/

/-- How deep the text is escaped. -/
inductive Level where
  | plain
  | escaped
  | doubled
  deriving DecidableEq

/-- The level of comments. -/
def Level.ofComment (doubled : Bool) : Level :=
  if doubled then .doubled else .escaped

/-- How deep the text is escaped in a state. -/
def State.level : State → Level
  | .comment doubled _ | .commentLess doubled => .ofComment doubled
  | .nest _ => .escaped
  | _ => .plain

/-- The characters read last, as far as they matter for what comes next. -/
def State.pending : State → List Char
  | .less | .commentLess _ => ['<']
  | .bang => ['<', '!']
  | .bangDash => ['<', '!', '-']
  | .comment _ dashes => dashes.text
  | .nest name => '<' :: name
  | _ => []

/-- A state that can be reached without end tags. -/
def State.IsInside : State → Prop
  | .nest name => ∀ c ∈ name, c.isAlpha = true
  | .unnest _ | .endOpen _ | .endName _ _ | .ended => False
  | _ => True

/-- After a text at the given level, what follows is doubly escaped: a comment that is open has the
start tag of a script in it, or is doubly escaped already, and stays open, or the text hides the end
anew. -/
def Doubles (level : Level) (cs : List Char) : Prop :=
  level ≠ .plain ∧ ¬ Occurs ClosesComment cs ∧ (level = .doubled ∨ Occurs OpensScript cs) ∨
    HidesEnd cs

variable {level : Level} {dashes : Dashes} {doubled : Bool}

theorem doubles_plain : Doubles .plain cs ↔ HidesEnd cs := by
  simp [Doubles]

/-- A character that begins nothing can be left out. -/
theorem doubles_cons (hclose : ¬ ClosesComment (c :: cs)) (hscript : ¬ OpensScript (c :: cs))
    (hhiding : ¬ OpensHiding (c :: cs)) : Doubles level (c :: cs) ↔ Doubles level cs := by
  simp only [Doubles, HidesEnd, occurs_cons, hclose, hscript, hhiding, false_or]

/-- A dash that is not the first of the end of a comment can be left out. -/
theorem doubles_dash (h : ¬ ['-', '>'] <+: cs) :
    Doubles level ('-' :: cs) ↔ Doubles level cs := by
  refine doubles_cons ?_ (not_opens_script_of_ne (by decide)) (not_opens_hiding_of_ne (by decide))
  rw [closes_comment_cons]
  exact fun hclose => h hclose.2

/-- A character that is neither a dash nor a bracket can be left out. -/
theorem doubles_other (hdash : c ≠ '-') (hless : c ≠ '<') :
    Doubles level (c :: cs) ↔ Doubles level cs := by
  refine doubles_cons ?_ (not_opens_script_of_ne hless) (not_opens_hiding_of_ne hless)
  rw [closes_comment_cons]
  exact fun hclose => hdash hclose.1

/-- Letters can be left out. -/
theorem doubles_letters (hname : ∀ d ∈ name, d.isAlpha = true) :
    Doubles level (name ++ cs) ↔ Doubles level cs := by
  induction name with
  | nil => rfl
  | cons d name ih =>
      obtain ⟨hd, hname⟩ := List.forall_mem_cons.mp hname
      have hdash : d ≠ '-' := by
        rintro rfl
        cases hd
      have hless : d ≠ '<' := by
        rintro rfl
        cases hd
      rw [List.cons_append, doubles_other hdash hless, ih hname]

/-- In a comment, a bracket can be left out that begins no start tag of a script, or any bracket if
the comment is doubly escaped. A comment that begins there is but a part of the one that is open. -/
theorem doubles_less (hlevel : level ≠ .plain)
    (hscript : level = .doubled ∨ ¬ OpensScript ('<' :: cs)) :
    Doubles level ('<' :: cs) ↔ Doubles level cs := by
  have hclose : Occurs ClosesComment ('<' :: cs) ↔ Occurs ClosesComment cs := by
    rw [occurs_cons, closes_comment_cons]
    simp
  have hnest : level = .doubled ∨ Occurs OpensScript ('<' :: cs) ↔
      level = .doubled ∨ Occurs OpensScript cs := by
    rw [occurs_cons]
    rcases hscript with hdoubled | hscript
    · simp [hdoubled]
    · simp [hscript]
  have hhides : OpensHiding ('<' :: cs) → ¬ Occurs ClosesComment cs ∧ Occurs OpensScript cs := by
    intro hhiding
    obtain ⟨inner, rfl, hopen, hinner⟩ := opens_hiding_iff.mp hhiding
    constructor
    · rw [occurs_cons, closes_comment_cons]
      rintro (⟨hbang, _⟩ | hclose)
      · cases hbang
      · exact hopen hclose
    · exact occurs_cons.mpr (.inr hinner)
  unfold Doubles HidesEnd
  rw [hclose, hnest, occurs_cons]
  constructor
  · rintro (hopen | hhiding | hlater)
    · exact .inl hopen
    · exact .inl ⟨hlevel, (hhides hhiding).1, .inr (hhides hhiding).2⟩
    · exact .inr hlater
  · rintro (hopen | hlater)
    · exact .inl hopen
    · exact .inr (.inr hlater)

/-- What a character does to a state, if no end tag begins: the state stays inside, all that matters
later was pending or is the character, and whether the end is doubly escaped can be told from what
is pending as well as before. -/
structure Advances (s : State) (c : Char) (cs : List Char) : Prop where
  inside : (step s c).IsInside
  pending : (step s c).pending <:+ s.pending ++ [c]
  doubles : Doubles s.level (s.pending ++ c :: cs) ↔
    Doubles (step s c).level ((step s c).pending ++ cs)

/-- What the next state has to satisfy, given that state. -/
theorem Advances.of_step {next : State} (hstep : step s c = next) (hinside : next.IsInside)
    (hpending : next.pending <:+ s.pending ++ [c])
    (hdoubles : Doubles s.level (s.pending ++ c :: cs) ↔ Doubles next.level (next.pending ++ cs)) :
    Advances s c cs := by
  subst hstep
  exact ⟨hinside, hpending, hdoubles⟩

/-- A character is read as in a state without pending characters if what is pending can be left
out. -/
theorem Advances.reconsume {base : State} (h : Advances base c cs) (hbase : base.pending = [])
    (hstep : step s c = step base c) (hlevel : s.level = base.level)
    (hdrop : Doubles base.level (s.pending ++ c :: cs) ↔ Doubles base.level (c :: cs)) :
    Advances s c cs := by
  obtain ⟨hinside, hpending, hdoubles⟩ := h
  rw [hbase, List.nil_append] at hpending hdoubles
  refine .of_step hstep hinside (hpending.trans (List.suffix_append _ _)) ?_
  rw [hlevel, hdrop, hdoubles]

/-- Plain text. -/
theorem advances_plain (c : Char) (cs : List Char) : Advances .plain c cs := by
  by_cases hless : c = '<'
  · subst hless
    exact ⟨trivial, List.suffix_refl _, Iff.rfl⟩
  · have hstep : step .plain c = .plain := if_neg hless
    refine .of_step hstep trivial List.nil_suffix ?_
    show Doubles .plain (c :: cs) ↔ Doubles .plain cs
    rw [doubles_plain, doubles_plain, HidesEnd, HidesEnd, occurs_cons]
    simp [not_opens_hiding_of_ne hless]

/-- Dashes before another character begin no end of a comment, unless it is the bracket that two
dashes wait for. -/
theorem doubles_dashes (hdash : c ≠ '-') (hclose : ¬ (c = '>' ∧ dashes = .two)) :
    Doubles level (dashes.text ++ c :: cs) ↔ Doubles level (c :: cs) := by
  have hone : ¬ ['-', '>'] <+: c :: cs := by
    rw [List.cons_prefix_cons]
    exact fun h => hdash h.1.symm
  cases dashes with
  | none => rfl
  | one => exact doubles_dash hone
  | two =>
      have hbracket : c ≠ '>' := fun h => hclose ⟨h, rfl⟩
      have htwo : ¬ ['-', '>'] <+: '-' :: c :: cs := by
        rw [List.cons_prefix_cons, List.cons_prefix_cons]
        exact fun h => hbracket h.2.1.symm
      exact (doubles_dash htwo).trans (doubles_dash hone)

/-- Comments. -/
theorem advances_comment (doubled : Bool) (dashes : Dashes) (c : Char) (cs : List Char) :
    Advances (.comment doubled dashes) c cs := by
  by_cases hdash : c = '-'
  · subst hdash
    refine ⟨trivial, ?_, ?_⟩
    · cases dashes with
      | none | one => exact List.suffix_refl _
      | two => exact ⟨['-'], rfl⟩
    · cases dashes with
      | none | one => exact Iff.rfl
      | two => exact doubles_dash (by simp)
  by_cases hless : c = '<'
  · subst hless
    exact ⟨trivial, List.suffix_append _ _, doubles_dashes (by decide) (by simp)⟩
  by_cases hclose : c = '>' ∧ dashes = .two
  · obtain ⟨rfl, rfl⟩ := hclose
    refine ⟨trivial, List.nil_suffix, ?_⟩
    -- The comment ends, and what hides the end can only come later.
    show Doubles (.ofComment doubled) ('-' :: '-' :: '>' :: cs) ↔ Doubles .plain cs
    have hcloses : Occurs ClosesComment ('-' :: '-' :: '>' :: cs) :=
      occurs_cons.mpr (.inl ⟨cs, rfl⟩)
    have hlater : HidesEnd ('-' :: '-' :: '>' :: cs) ↔ HidesEnd cs := by
      simp only [HidesEnd, occurs_cons, not_opens_hiding_of_ne (show '-' ≠ '<' by decide),
        not_opens_hiding_of_ne (show '>' ≠ '<' by decide), false_or]
    rw [doubles_plain, ← hlater]
    simp [Doubles, hcloses]
  · have hstep : step (.comment doubled dashes) c = .comment doubled .none := by
      simp [step, commentNext, hdash, hless, hclose]
    refine .of_step hstep trivial List.nil_suffix ?_
    exact (doubles_dashes hdash hclose).trans (doubles_other hdash hless)

/-- Names in comments. -/
theorem advances_nest (hname : ∀ d ∈ name, d.isAlpha = true) (c : Char) (cs : List Char) :
    Advances (.nest name) c cs := by
  have hdrop (hscript : ¬ OpensScript ('<' :: (name ++ c :: cs))) :
      Doubles .escaped ('<' :: (name ++ c :: cs)) ↔ Doubles .escaped (c :: cs) :=
    (doubles_less (by decide) (.inr hscript)).trans (doubles_letters hname)
  by_cases halpha : c.isAlpha = true
  · have hbreak : isBreak c = false := by
      cases hbreak : isBreak c with
      | false => rfl
      | true => cases (not_is_alpha_of_is_break hbreak).symm.trans halpha
    have hstep : step (.nest name) c = .nest (name ++ [c]) := by
      simp [step, hbreak, halpha]
    refine .of_step hstep ?_ (List.suffix_refl _) ?_
    · exact List.forall_mem_append.mpr ⟨hname, by simpa using halpha⟩
    · show Doubles .escaped ('<' :: name ++ c :: cs) ↔
        Doubles .escaped ('<' :: (name ++ [c]) ++ cs)
      rw [← List.cons_append, List.append_assoc]
      rfl
  rw [Bool.not_eq_true] at halpha
  by_cases hbreak : isBreak c = true
  · have hstep : step (.nest name) c = .comment (isScript name) .none := by
      simp [step, hbreak]
    refine .of_step hstep trivial List.nil_suffix ?_
    have hdash : c ≠ '-' := by
      rintro rfl
      cases hbreak
    have hless : c ≠ '<' := by
      rintro rfl
      cases hbreak
    show Doubles .escaped ('<' :: (name ++ c :: cs)) ↔ Doubles (.ofComment (isScript name)) cs
    cases hscript : isScript name with
    | false =>
        have hnot : ¬ OpensScript ('<' :: (name ++ c :: cs)) := by
          rw [opens_script_iff hname halpha, hscript]
          exact fun h => Bool.false_ne_true h.1
        exact (hdrop hnot).trans (doubles_other hdash hless)
    | true =>
        -- From the start tag of a script on, the comment is doubly escaped.
        have hopens : Occurs OpensScript ('<' :: (name ++ c :: cs)) :=
          occurs_cons.mpr (.inl ((opens_script_iff hname halpha).mpr ⟨hscript, hbreak⟩))
        have hdoubled : Doubles .escaped ('<' :: (name ++ c :: cs)) ↔
            Doubles .doubled ('<' :: (name ++ c :: cs)) := by
          simp [Doubles, hopens]
        rw [hdoubled, doubles_less (by decide) (.inl rfl), doubles_letters hname,
          doubles_other hdash hless]
        rfl
  · rw [Bool.not_eq_true] at hbreak
    refine (advances_comment false .none c cs).reconsume rfl ?_ rfl (hdrop ?_)
    · simp [step, hbreak, halpha]
    · rw [opens_script_iff hname halpha, hbreak]
      exact fun h => Bool.false_ne_true h.2

/-- After a bracket there is no slash if no end tag begins. -/
theorem ne_slash_of_is_free_of (h : Page.IsFreeOf [] ('<' :: c :: cs)) : c ≠ '/' := by
  rintro rfl
  exact absurd (h _ (List.suffix_refl _)) (by simp [Page.beginsEndTag])

/-- Every state inside goes on if no end tag begins. -/
theorem State.IsInside.advances (hinside : s.IsInside)
    (hfree : Page.IsFreeOf [] (s.pending ++ c :: cs)) : Advances s c cs := by
  cases s with
  | plain => exact advances_plain c cs
  | less =>
      have hslash : c ≠ '/' := ne_slash_of_is_free_of hfree
      by_cases hbang : c = '!'
      · subst hbang
        exact ⟨trivial, List.suffix_refl _, Iff.rfl⟩
      refine (advances_plain c cs).reconsume rfl (by simp [step, hslash, hbang]) rfl ?_
      show Doubles .plain ('<' :: c :: cs) ↔ Doubles .plain (c :: cs)
      rw [doubles_plain, doubles_plain, HidesEnd, occurs_cons, opens_hiding_iff]
      simp [hbang, HidesEnd]
  | bang =>
      by_cases hdash : c = '-'
      · subst hdash
        exact ⟨trivial, List.suffix_refl _, Iff.rfl⟩
      refine (advances_plain c cs).reconsume rfl (by simp [step, hdash]) rfl ?_
      show Doubles .plain ('<' :: '!' :: c :: cs) ↔ Doubles .plain (c :: cs)
      rw [doubles_plain, doubles_plain, HidesEnd, occurs_cons, opens_hiding_iff, occurs_cons]
      simp [hdash, not_opens_hiding_of_ne (show '!' ≠ '<' by decide), HidesEnd]
  | bangDash =>
      have hdrop (rest : List Char) : HidesEnd ('<' :: '!' :: '-' :: rest) ↔
          OpensHiding ('<' :: '!' :: '-' :: rest) ∨ HidesEnd rest := by
        simp only [HidesEnd, occurs_cons, not_opens_hiding_of_ne (show '!' ≠ '<' by decide),
          not_opens_hiding_of_ne (show '-' ≠ '<' by decide), false_or]
      by_cases hdash : c = '-'
      · subst hdash
        refine .of_step rfl trivial ⟨['<', '!'], rfl⟩ ?_
        -- A comment begins, and it is to stay open from its first dashes on.
        show Doubles .plain ('<' :: '!' :: '-' :: '-' :: cs) ↔
          Doubles .escaped ('-' :: '-' :: cs)
        have hlater : HidesEnd ('-' :: '-' :: cs) ↔ HidesEnd ('-' :: cs) := by
          simp only [HidesEnd, occurs_cons, not_opens_hiding_of_ne (show '-' ≠ '<' by decide),
            false_or]
        rw [doubles_plain, hdrop, opens_hiding_iff, ← hlater]
        simp [Doubles]
      refine (advances_plain c cs).reconsume rfl (by simp [step, hdash]) rfl ?_
      show Doubles .plain ('<' :: '!' :: '-' :: c :: cs) ↔ Doubles .plain (c :: cs)
      rw [doubles_plain, doubles_plain, hdrop, opens_hiding_iff]
      simp [hdash]
  | comment doubled dashes => exact advances_comment doubled dashes c cs
  | commentLess doubled =>
      have hslash : c ≠ '/' := ne_slash_of_is_free_of hfree
      cases doubled with
      | true =>
          refine (advances_comment true .none c cs).reconsume rfl (by simp [step, hslash]) rfl ?_
          exact doubles_less (by decide) (.inl rfl)
      | false =>
          by_cases halpha : c.isAlpha = true
          · have hstep : step (.commentLess false) c = .nest [c] := by
              simp [step, hslash, halpha]
            refine .of_step hstep ?_ (List.suffix_refl _) Iff.rfl
            simpa [State.IsInside] using halpha
          rw [Bool.not_eq_true] at halpha
          refine (advances_comment false .none c cs).reconsume rfl
            (by simp [step, hslash, halpha]) rfl (doubles_less (by decide) (.inr ?_))
          -- No letter follows the bracket.
          show ¬ OpensScript ('<' :: ([] ++ c :: cs))
          rw [opens_script_iff (List.forall_mem_nil _) halpha]
          exact fun h => Bool.false_ne_true h.1
  | nest name => exact advances_nest hinside c cs
  | unnest | endOpen | endName | ended => exact absurd hinside (by simp [State.IsInside])

/-- Neither the end of a comment nor a start tag nor a comment that hides the end can do without a
break. -/
theorem not_occurs_of_no_break (hcs : ∀ t ∈ cs, isBreak t = false) :
    ¬ Occurs ClosesComment cs ∧ ¬ Occurs OpensScript cs ∧ ¬ HidesEnd cs := by
  have hno {after : List Char} (hafter : after <:+ cs) {t : Char} (ht : t ∈ after)
      (hbreak : isBreak t = true) : False := by
    rw [hcs t (hafter.mem ht)] at hbreak
    cases hbreak
  refine ⟨?_, ?_, ?_⟩
  · rintro ⟨after, hafter, rest, rfl⟩
    exact hno hafter (t := '>') (by simp) (by decide)
  · rintro ⟨after, hafter, name, t, rest, rfl, _, hbreak⟩
    exact hno hafter (t := t) (by simp) hbreak
  · rintro ⟨after, hafter, inner, rfl, _, tag, htag, name, t, rest, rfl, _, hbreak⟩
    have ht : t ∈ '-' :: '-' :: inner := htag.mem (by simp)
    exact hno hafter (t := t) (List.mem_cons_of_mem _ (List.mem_cons_of_mem _ ht)) hbreak

/-- No break is ever pending. -/
theorem State.IsInside.not_is_break (hinside : s.IsInside) :
    ∀ t ∈ s.pending, isBreak t = false := by
  cases s with
  | nest name =>
      refine List.forall_mem_cons.mpr ⟨by decide, fun t ht => ?_⟩
      cases hbreak : isBreak t with
      | false => rfl
      | true => cases (not_is_alpha_of_is_break hbreak).symm.trans (hinside t ht)
  | comment doubled dashes =>
      cases dashes <;> simp [State.pending, Dashes.text, isBreak, Html.isSpace]
  | _ => simp [State.pending, isBreak, Html.isSpace]

/-- A text free of end tags keeps the state inside, and is doubly escaped at its end if it hides the
end, given what was pending before it. -/
theorem State.IsInside.run (hinside : s.IsInside) (hfree : Page.IsFreeOf [] (s.pending ++ cs)) :
    (run s cs).IsInside ∧ ((run s cs).level = .doubled ↔ Doubles s.level (s.pending ++ cs)) := by
  induction cs generalizing s with
  | nil =>
      obtain ⟨hclose, hscript, hhides⟩ := not_occurs_of_no_break hinside.not_is_break
      refine ⟨hinside, ?_⟩
      rw [List.append_nil, Doubles]
      simp only [hclose, hscript, hhides, not_false_eq_true, or_false, true_and]
      show s.level = .doubled ↔ s.level ≠ .plain ∧ s.level = .doubled
      cases s.level <;> decide
  | cons c cs ih =>
      obtain ⟨hnext, ⟨before, hpending⟩, hdoubles⟩ := hinside.advances hfree
      rw [hdoubles]
      refine ih hnext fun after hafter => hfree after (hafter.trans ⟨before, ?_⟩)
      rw [← List.append_assoc, hpending, List.append_assoc]
      rfl

/-- The state after a bracket. -/
def Level.bracket : Level → State
  | .plain => .less
  | .escaped => .commentLess false
  | .doubled => .commentLess true

/-- After a bracket only the level counts. -/
theorem State.IsInside.step_bracket (hinside : s.IsInside) : step s '<' = s.level.bracket := by
  cases s with
  | comment doubled dashes => cases doubled <;> rfl
  | commentLess doubled => cases doubled <;> rfl
  | plain | less | bang | bangDash | nest => rfl
  | unnest | endOpen | endName | ended => exact absurd hinside (by simp [State.IsInside])

/-- The end tag of a page ends a script that is not doubly escaped. In one that is, it ends the
inner script, and the comment goes on. -/
theorem State.IsInside.leave?_end_tag (hinside : s.IsInside) (rest : List Char) :
    leave? s (endTag ++ rest) =
      if s.level = .doubled then
        (leave? (.comment false .none) rest).map (Prod.map (endTag ++ ·) id)
      else some (endTag, rest) := by
  have hrun (cs : List Char) : Script.run s ('<' :: cs) = Script.run s.level.bracket cs := by
    rw [Script.run, List.foldl_cons, hinside.step_bracket]
    rfl
  have hname (inComment : Bool) (h : Script.run s ['<', '/', 's', 'c', 'r', 'i', 'p', 't'] =
      .endName inComment ['s', 'c', 'r', 'i', 'p', 't']) :
      leave? s (endTag ++ rest) = some (endTag, rest) := by
    show leave? s (['<', '/', 's', 'c', 'r', 'i', 'p', 't'] ++ '>' :: rest) = _
    rw [leave?_append (by simp [h]), h]
    rfl
  cases hlevel : s.level with
  | plain => exact hname false (by rw [hrun, hlevel]; rfl)
  | escaped => exact hname true (by rw [hrun, hlevel]; rfl)
  | doubled =>
      have hend : Script.run s endTag = .comment false .none := by
        rw [endTag, hrun, hlevel]
        rfl
      rw [leave?_append (by simp [hend]), hend, if_pos rfl]

/-! ## Backslashes hide nothing and reveal nothing -/

/-- A character other than a bracket stays, and what follows is escaped. -/
theorem escape_cons (hc : c ≠ '<') (cs : List Char) :
    Page.escapeEndTags (c :: cs) = c :: Page.escapeEndTags cs :=
  Page.escapeEndTags.eq_2 c cs fun _ hless _ => hc hless

/-- The first character stays. -/
theorem head?_escape (cs : List Char) : (Page.escapeEndTags cs).head? = cs.head? := by
  fun_cases Page.escapeEndTags cs <;> rfl

/-- A bracket stays, and what follows is escaped unless it is a slash. -/
theorem escape_bracket (hslash : cs.head? ≠ some '/') :
    Page.escapeEndTags ('<' :: cs) = '<' :: Page.escapeEndTags cs := by
  refine Page.escapeEndTags.eq_2 '<' cs fun rest _ heq => ?_
  rw [heq] at hslash
  exact hslash rfl

/-- The beginning of an escaped text is that of the text, as far as it has no brackets. -/
theorem escape_eq_append_iff {front back : List Char} (hfront : '<' ∉ front) :
    Page.escapeEndTags cs = front ++ back ↔
      ∃ rest, cs = front ++ rest ∧ Page.escapeEndTags rest = back := by
  induction front generalizing cs with
  | nil => simp
  | cons d front ih =>
      rw [List.mem_cons, not_or] at hfront
      constructor
      · intro heq
        have hhead := head?_escape cs
        rw [heq] at hhead
        obtain ⟨tail, rfl⟩ := List.head?_eq_some_iff.mp hhead.symm
        rw [escape_cons (Ne.symm hfront.1), List.cons_append] at heq
        obtain ⟨rest, rfl, hrest⟩ := (ih hfront.2).mp (List.cons.inj heq).2
        exact ⟨rest, rfl, hrest⟩
      · rintro ⟨rest, rfl, hrest⟩
        rw [List.cons_append, escape_cons (Ne.symm hfront.1),
          (ih hfront.2).mpr ⟨rest, rfl, hrest⟩]
        rfl

/-- So it is after a bracket, if neither a slash nor a backslash comes next. -/
theorem escape_eq_bracket_iff {d : Char} {front back : List Char} (hbackslash : d ≠ '\\')
    (hslash : d ≠ '/') (hfront : '<' ∉ d :: front) :
    Page.escapeEndTags cs = '<' :: (d :: front ++ back) ↔
      ∃ rest, cs = '<' :: (d :: front ++ rest) ∧ Page.escapeEndTags rest = back := by
  constructor
  · intro heq
    have hhead := head?_escape cs
    rw [heq] at hhead
    obtain ⟨tail, rfl⟩ := List.head?_eq_some_iff.mp hhead.symm
    by_cases htail : tail.head? = some '/'
    · obtain ⟨rest, rfl⟩ := List.head?_eq_some_iff.mp htail
      exact absurd (List.cons.inj (List.cons.inj heq).2).1.symm hbackslash
    · rw [escape_bracket htail] at heq
      obtain ⟨rest, rfl, hrest⟩ := (escape_eq_append_iff hfront).mp (List.cons.inj heq).2
      exact ⟨rest, rfl, hrest⟩
  · rintro ⟨rest, rfl, hrest⟩
    have hhead : (d :: front ++ rest).head? ≠ some '/' := fun h => hslash (Option.some.inj h)
    rw [escape_bracket hhead, (escape_eq_append_iff hfront).mpr ⟨rest, rfl, hrest⟩]

/-- A property of places is kept by escaping if it is kept at each of them, and holds neither at
backslashes nor at slashes. -/
theorem occurs_escape {p : List Char → Prop} (hp : ∀ cs, p (Page.escapeEndTags cs) ↔ p cs)
    (hbackslash : ∀ cs, ¬ p ('\\' :: cs)) (hslash : ∀ cs, ¬ p ('/' :: cs)) (cs : List Char) :
    Occurs p (Page.escapeEndTags cs) ↔ Occurs p cs := by
  fun_induction Page.escapeEndTags cs with
  | case1 rest ih =>
      have hfirst := hp ('<' :: '/' :: rest)
      rw [Page.escapeEndTags] at hfirst
      simp only [occurs_cons, hfirst, hbackslash, hslash, false_or, ih]
  | case2 c rest hne ih =>
      have hfirst := hp (c :: rest)
      rw [Page.escapeEndTags.eq_2 c rest hne] at hfirst
      rw [occurs_cons, occurs_cons, hfirst, ih]
  | case3 => rfl

/-- Escaping keeps ends of comments. -/
theorem closes_comment_escape (cs : List Char) :
    ClosesComment (Page.escapeEndTags cs) ↔ ClosesComment cs := by
  have hsigns : '<' ∉ ['-', '-', '>'] := by decide
  constructor
  · rintro ⟨back, hback⟩
    obtain ⟨rest, rfl, _⟩ := (escape_eq_append_iff hsigns).mp hback.symm
    exact ⟨rest, rfl⟩
  · rintro ⟨rest, rfl⟩
    exact ⟨_, ((escape_eq_append_iff hsigns).mpr ⟨rest, rfl, rfl⟩).symm⟩

/-- Escaping keeps start tags of scripts, which have neither brackets nor slashes in their names. -/
theorem opens_script_escape (cs : List Char) :
    OpensScript (Page.escapeEndTags cs) ↔ OpensScript cs := by
  have hiff (name : List Char) (t : Char) (hscript : isScript name = true)
      (hbreak : isBreak t = true) (back : List Char) :
      Page.escapeEndTags cs = '<' :: (name ++ t :: back) ↔
        ∃ rest, cs = '<' :: (name ++ t :: rest) ∧ Page.escapeEndTags rest = back := by
    have hletters := is_alpha_of_is_script hscript
    cases name with
    | nil => cases hscript
    | cons d name =>
        have hd := hletters d List.mem_cons_self
        have hsigns : '<' ∉ d :: (name ++ [t]) := by
          intro hmem
          rw [← List.cons_append] at hmem
          rcases List.mem_append.mp hmem with hname | ht
          · cases hletters '<' hname
          · rw [← List.mem_singleton.mp ht] at hbreak
            cases hbreak
        have hbackslash : d ≠ '\\' := by
          rintro rfl
          cases hd
        have hslash : d ≠ '/' := by
          rintro rfl
          cases hd
        have hescape : Page.escapeEndTags cs = '<' :: (d :: (name ++ [t]) ++ back) ↔ _ :=
          escape_eq_bracket_iff hbackslash hslash hsigns
        simpa using hescape
  constructor
  · rintro ⟨name, t, back, heq, hscript, hbreak⟩
    obtain ⟨rest, hrest, _⟩ := (hiff name t hscript hbreak back).mp heq
    exact ⟨name, t, rest, hrest, hscript, hbreak⟩
  · rintro ⟨name, t, rest, heq, hscript, hbreak⟩
    exact ⟨name, t, _, (hiff name t hscript hbreak _).mpr ⟨rest, heq, rfl⟩, hscript, hbreak⟩

/-- Escaping a source neither hides the end nor reveals it. -/
theorem hides_end_escape (cs : List Char) :
    HidesEnd (Page.escapeEndTags cs) ↔ HidesEnd cs := by
  have hcloses := occurs_escape closes_comment_escape
    (fun cs h => absurd (closes_comment_cons.mp h).1 (by decide))
    (fun cs h => absurd (closes_comment_cons.mp h).1 (by decide))
  have hopens := occurs_escape opens_script_escape
    (fun cs => not_opens_script_of_ne (by decide)) (fun cs => not_opens_script_of_ne (by decide))
  have hdashes (cs : List Char) :
      '-' :: '-' :: Page.escapeEndTags cs = Page.escapeEndTags ('-' :: '-' :: cs) := by
    rw [escape_cons (by decide), escape_cons (by decide)]
  have hhiding (cs : List Char) : OpensHiding (Page.escapeEndTags cs) ↔ OpensHiding cs := by
    have hsigns : '<' ∉ '!' :: ['-', '-'] := by decide
    constructor
    · rintro ⟨inner, heq, hopen, hscript⟩
      obtain ⟨rest, rfl, rfl⟩ :=
        (escape_eq_bracket_iff (by decide) (by decide) hsigns).mp heq
      rw [hdashes, hcloses] at hopen
      rw [hdashes, hopens] at hscript
      exact ⟨rest, rfl, hopen, hscript⟩
    · rintro ⟨rest, rfl, hopen, hscript⟩
      refine ⟨Page.escapeEndTags rest, ?_, ?_, ?_⟩
      · exact (escape_eq_bracket_iff (by decide) (by decide) hsigns).mpr ⟨rest, rfl, rfl⟩
      · rw [hdashes, hcloses]
        exact hopen
      · rw [hdashes, hopens]
        exact hscript
  exact occurs_escape hhiding (fun cs => not_opens_hiding_of_ne (by decide))
    (fun cs => not_opens_hiding_of_ne (by decide)) cs

/-- A source with a backslash in every end tag is free of end tags. -/
theorem is_free_of_escape (cs : List Char) : Page.IsFreeOf [] (Page.escapeEndTags cs) := by
  rw [Page.escape_end_tags_eq]
  exact Page.is_free_of_backslashed (by decide)

/-- A source that hides the end is doubly escaped at its end, and only such a source. -/
theorem level_run_escape (cs : List Char) :
    (run .plain (Page.escapeEndTags cs)).level = .doubled ↔ HidesEnd cs := by
  have hinside : State.plain.IsInside := trivial
  rw [(hinside.run (is_free_of_escape cs)).2]
  exact doubles_plain.trans (hides_end_escape cs)

/-- Whether a source hides the end can be found out by reading it. -/
instance (cs : List Char) : Decidable (HidesEnd cs) :=
  decidable_of_iff _ (level_run_escape cs)

/-- An escaped source is left at the end tag that follows it, unless the source hides this end tag.
If it does, then the comment goes on. -/
theorem leave?_escape (cs rest : List Char) :
    leave? .plain (Page.escapeEndTags cs ++ (endTag ++ rest)) =
      if HidesEnd cs then
        (leave? (.comment false .none) rest).map
          (Prod.map (Page.escapeEndTags cs ++ endTag ++ ·) id)
      else some (Page.escapeEndTags cs ++ endTag, rest) := by
  have hplain : State.plain.IsInside := trivial
  have hinside := (hplain.run (is_free_of_escape cs)).1
  have hended : run .plain (Page.escapeEndTags cs) ≠ .ended := by
    intro hended
    rw [hended] at hinside
    exact hinside
  rw [leave?_append hended, hinside.leave?_end_tag]
  simp only [level_run_escape]
  split
  · rw [Option.map_map]
    refine congrFun (congrArg Option.map (funext fun found => ?_)) _
    simp only [Function.comp_apply, Prod.map, List.append_assoc, id]
  · rfl

/-- Read a script: the text up to where the script is left, and what follows. -/
def readFrom? (s : State) (text : String) : Option (String × String) :=
  (leave? s text.toList).map (Prod.map String.ofList String.ofList)

/-- What is read of a script is not empty. -/
theorem read_from?_ne_empty {text read after : String} (h : readFrom? s text = some (read, after)) :
    read ≠ "" := by
  obtain ⟨⟨front, back⟩, hleave, heq⟩ := Option.map_eq_some_iff.mp h
  obtain ⟨rfl, _⟩ := Prod.mk.inj heq
  intro hempty
  rw [← String.toList_inj, String.toList_ofList] at hempty
  exact read_ne_nil hleave hempty

end Script

/-! ## Scripts in a page -/

namespace Page

open Script

/-- What stands in a page before one of its modules, given the modules before it. -/
def beforeModule (page : Page) (earlier : List Module) : String :=
  headStart ++ "<title>" ++ Html.escapeText page.title ++ "</title>\n" ++
    page.stylesheet.elim "" styleElement ++ (if page.hasTabs then tabElement else "") ++
    String.join (earlier.map moduleElement)

/-- What stands in a page after one of its modules, given the modules after it. -/
def afterModule (page : Page) (later : List Module) (cache : Cache) : String :=
  String.join (later.map moduleElement) ++ page.afterHead cache

/-- The place of a module in a page. -/
theorem html_of_module {page : Page} {earlier later : List Module} {m : Module}
    (hmodules : page.modules = earlier ++ m :: later) (cache : Cache) :
    page.html cache =
      page.beforeModule earlier ++ (moduleElement m ++ page.afterModule later cache) := by
  rw [html_eq_parts, hmodules]
  unfold beforeModule afterModule
  simp only [List.map_append, List.map_cons, String.join_append, String.join_cons,
    String.append_assoc]

/-- **Scripts end where the page ends them, unless they hide their end.** The source of a module
stands in the page with a backslash in every end tag. A browser that reads it after the start tag
leaves the script at the end tag that the page writes exactly if no comment in the source stays open
with the start tag of a script in it. If one does, then the browser goes on in that comment behind
the end tag. -/
theorem scripts_end_where_written (page : Page) (cache : Cache) (earlier later : List Module)
    (m : Module) (source : String) (hmodules : page.modules = earlier ++ m :: later)
    (hsource : m.source = .ok source) :
    let written := String.ofList (escapeEndTags source.toList)
    let after := "\n" ++ page.afterModule later cache
    page.html cache = page.beforeModule earlier ++ ("<script type=\"module\">" ++
      (written ++ "</script>" ++ after)) ∧
    (readFrom? .plain (written ++ "</script>" ++ after) = some (written ++ "</script>", after) ↔
      ¬ HidesEnd source.toList) ∧
    (HidesEnd source.toList → readFrom? .plain (written ++ "</script>" ++ after) =
      (readFrom? (.comment false .none) after).map
        (Prod.map (written ++ "</script>" ++ ·) id)) := by
  intro written after
  have hhtml := html_of_module hmodules cache
  rw [moduleElement, hsource] at hhtml
  have hchars : (written ++ "</script>" ++ after).toList =
      escapeEndTags source.toList ++ (endTag ++ after.toList) := by
    rw [String.toList_append, String.toList_append, String.toList_ofList, List.append_assoc]
    rfl
  have hwritten : String.ofList (escapeEndTags source.toList ++ endTag) = written ++ "</script>" :=
    String.ofList_append
  have hleave := leave?_escape source.toList after.toList
  rw [← hchars] at hleave
  have hgoesOn : HidesEnd source.toList → readFrom? .plain (written ++ "</script>" ++ after) =
      (readFrom? (.comment false .none) after).map (Prod.map (written ++ "</script>" ++ ·) id) := by
    intro hhides
    rw [readFrom?, hleave, if_pos hhides, readFrom?, Option.map_map, Option.map_map]
    refine congrFun (congrArg Option.map (funext fun found => ?_)) _
    simp only [Function.comp_apply, Prod.map, String.ofList_append, hwritten, id]
  refine ⟨?_, ⟨?_, ?_⟩, hgoesOn⟩
  · have hbreak : "</script>\n" = "</script>" ++ "\n" := rfl
    rw [hhtml, hbreak]
    simp only [written, after, String.append_assoc]
  · intro hread hhides
    rw [hgoesOn hhides] at hread
    obtain ⟨⟨read, rest⟩, hfound, heq⟩ := Option.map_eq_some_iff.mp hread
    -- Behind the end tag something more is read.
    refine read_from?_ne_empty hfound ((String.append_right_inj (written ++ "</script>")).mp ?_)
    exact (Prod.mk.inj heq).1.trans String.append_empty.symm
  · intro hnot
    rw [readFrom?, hleave, if_neg hnot, Option.map_some, Prod.map, hwritten, String.ofList_toList]

/-- A module with the given bytes. -/
def moduleOf (bytes : Text.Bytes) : Module :=
  ⟨"main.js", ⟨"main.js", 0, "text/javascript", bytes⟩⟩

/-- A page with such a module. -/
def pageOf (bytes : Text.Bytes) : Page where
  title := "t"
  stylesheet := none
  modules := [moduleOf bytes]
  body := Node.ofKind .block

/-- The bytes of `<!--<script></script>-->`. -/
def closedComment : Text.Bytes :=
  [60, 33, 45, 45, 60, 115, 99, 114, 105, 112, 116, 62, 60, 47, 115, 99, 114, 105, 112, 116, 62, 45,
    45, 62]

/-- A script in a comment does no harm if the comment ends. -/
theorem scripts_end_where_written_closed :
    let after := "\n" ++ (pageOf closedComment).afterModule [] .empty
    (pageOf closedComment).modules = [] ++ moduleOf closedComment :: [] ∧
    (moduleOf closedComment).source = .ok "<!--<script></script>-->" ∧
    readFrom? .plain ("<!--<script><\\/script>-->" ++ "</script>" ++ after) =
      some ("<!--<script><\\/script>-->" ++ "</script>", after) := by
  have hsource : (moduleOf closedComment).source = .ok "<!--<script></script>-->" := rfl
  have hends := scripts_end_where_written (pageOf closedComment) .empty [] [] _ _ rfl hsource
  exact ⟨rfl, hsource, hends.2.1.mpr (by decide)⟩

/-- The bytes of `<!--<script>`. -/
def openComment : Text.Bytes :=
  [60, 33, 45, 45, 60, 115, 99, 114, 105, 112, 116, 62]

/-- A comment that stays open swallows the end tag that the page writes, and all that follows. -/
theorem open_comment_swallows_end :
    (pageOf openComment).html .empty = (pageOf openComment).beforeModule [] ++
      ("<script type=\"module\">" ++ ("<!--<script>" ++ "</script>" ++
        ("\n" ++ (pageOf openComment).afterModule [] .empty))) ∧
    readFrom? .plain ("<!--<script>" ++ "</script>" ++
      ("\n" ++ (pageOf openComment).afterModule [] .empty)) = none := by
  constructor
  · decide +kernel
  · decide +kernel

end Page

end Widgetry
