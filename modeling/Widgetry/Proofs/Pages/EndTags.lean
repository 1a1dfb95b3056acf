import Widgetry.Page

/-!
# End tags in raw text

The content of a raw text element is read up to the first end tag of its name, and nothing else in
it is markup. `cutEndTag?` reads by that rule. `backslashed` says position by position what the
escaping of a page does, and `is_free_of_backslashed` says that it leaves no end tag behind. A text
free of end tags is read back whole, which is `cut_end_tag?_of_is_free_of`.
-/

namespace Widgetry.Page

/-- The text begins with an end tag of the given name, in small or capital letters. The empty name
stands for any end tag. -/
def beginsEndTag (tag : List Char) : List Char → Bool
  | '<' :: '/' :: rest => (rest.take tag.length).map Char.toLower = tag
  | _ => false

/-- The text with a backslash after the first character of every place that satisfies `p`, which
is asked about all that follows from there. -/
def backslashed (p : List Char → Bool) : List Char → List Char
  | [] => []
  | c :: rest =>
      if p (c :: rest) then c :: '\\' :: backslashed p rest else c :: backslashed p rest

/-- The text up to the first end tag of the given name, and what follows that name. -/
def cutEndTag? (tag : List Char) : List Char → Option (List Char × List Char)
  | [] => none
  | c :: rest =>
      if beginsEndTag tag (c :: rest) then some ([], rest.drop (tag.length + 1))
      else (cutEndTag? tag rest).map fun (content, after) => (c :: content, after)

/-- No place of the text begins an end tag of the given name. -/
def IsFreeOf (tag cs : List Char) : Prop :=
  ∀ after, after <:+ cs → beginsEndTag tag after = false

variable {tag cs rest : List Char} {c : Char}

/-! ## Where an end tag begins -/

/-- An end tag is made of an angle bracket, a slash and the name. -/
theorem begins_end_tag_iff :
    beginsEndTag tag cs = true ↔
      ∃ name rest, cs = '<' :: '/' :: (name ++ rest) ∧ name.map Char.toLower = tag := by
  unfold beginsEndTag
  split
  next rest =>
    rw [decide_eq_true_iff]
    constructor
    · intro hname
      exact ⟨rest.take tag.length, rest.drop tag.length, by rw [List.take_append_drop], hname⟩
    · rintro ⟨name, more, heq, hname⟩
      have hrest : rest = name ++ more := (List.cons.inj (List.cons.inj heq).2).2
      have hlength : tag.length = name.length := by rw [← hname, List.length_map]
      rw [hrest, hlength, List.take_left, hname]
  next hne =>
    simp only [Bool.false_eq_true, false_iff]
    rintro ⟨name, more, heq, _⟩
    exact hne _ heq

/-- An end tag begins with an angle bracket. -/
theorem begins_end_tag_of_ne (hc : c ≠ '<') : beginsEndTag tag (c :: cs) = false := by
  rw [Bool.eq_false_iff, Ne, begins_end_tag_iff]
  rintro ⟨name, more, heq, _⟩
  exact hc (List.cons.inj heq).1

/-- An end tag of some name is an end tag. -/
theorem begins_end_tag_nil (h : beginsEndTag tag cs = true) : beginsEndTag [] cs = true := by
  obtain ⟨name, more, rfl, _⟩ := begins_end_tag_iff.mp h
  exact begins_end_tag_iff.mpr ⟨[], name ++ more, rfl, rfl⟩

/-- An end tag begins with an angle bracket and a slash. -/
theorem begins_end_tag_nil_of_ne (h : ∀ rest, c = '<' → cs = '/' :: rest → False) :
    beginsEndTag [] (c :: cs) = false := by
  rw [Bool.eq_false_iff, Ne, begins_end_tag_iff]
  rintro ⟨name, more, heq, _⟩
  obtain ⟨rfl, rfl⟩ := List.cons.inj heq
  exact h _ rfl rfl

/-- A name without angle brackets has none in capital letters either. -/
theorem not_mem_of_map_to_lower (htag : '<' ∉ tag) (hcs : cs.map Char.toLower = tag) :
    '<' ∉ cs := by
  intro hmem
  apply htag
  rw [← hcs]
  exact List.mem_map.mpr ⟨'<', hmem, rfl⟩

/-- Whether an end tag begins in a text does not depend on the markup that follows the text. -/
theorem begins_end_tag_append (htag : '<' ∉ tag) (hcs : cs ≠ []) :
    beginsEndTag tag (cs ++ '<' :: rest) = beginsEndTag tag cs := by
  rw [Bool.eq_iff_iff, begins_end_tag_iff, begins_end_tag_iff]
  constructor
  · rintro ⟨name, more, heq, hname⟩
    have hslash : '<' ∉ '/' :: name := by
      simpa using not_mem_of_map_to_lower htag hname
    obtain ⟨c, cs, rfl⟩ := List.exists_cons_of_ne_nil hcs
    obtain ⟨rfl, hafter⟩ := List.cons.inj heq
    have hrest : cs ++ '<' :: rest = ('/' :: name) ++ more := hafter
    rcases List.append_eq_append_iff.mp hrest with ⟨tail, hsplit, htail⟩ | ⟨tail, hsplit, _⟩
    · -- The name would reach into the markup, which begins with an angle bracket.
      cases tail with
      | nil => exact ⟨name, [], by rw [List.append_nil] at hsplit ⊢; rw [hsplit], hname⟩
      | cons d tail =>
          obtain ⟨rfl, _⟩ := List.cons.inj htail
          exact absurd (by rw [hsplit]; simp) hslash
    · exact ⟨name, tail, by rw [hsplit, List.cons_append], hname⟩
  · rintro ⟨name, more, rfl, hname⟩
    exact ⟨name, more ++ '<' :: rest, by simp, hname⟩

/-! ## Texts without end tags -/

/-- A text is free of end tags if none begins at its first place or later. -/
theorem is_free_of_cons :
    IsFreeOf tag (c :: cs) ↔ beginsEndTag tag (c :: cs) = false ∧ IsFreeOf tag cs := by
  constructor
  · intro h
    exact ⟨h _ (List.suffix_refl _), fun after hafter => h after (hafter.trans (cs.suffix_cons c))⟩
  · rintro ⟨hfirst, hrest⟩ after hafter
    rcases List.suffix_cons_iff.mp hafter with rfl | hafter
    · exact hfirst
    · exact hrest after hafter

/-- The empty text is free of end tags. -/
theorem is_free_of_nil : IsFreeOf tag [] := by
  intro after hafter
  rw [List.suffix_nil.mp hafter]
  rfl

/-- A text free of all end tags is free of those of one name. -/
theorem IsFreeOf.of_nil (h : IsFreeOf [] cs) : IsFreeOf tag cs := by
  intro after hafter
  rw [Bool.eq_false_iff]
  intro hbegins
  exact absurd (begins_end_tag_nil hbegins) (by simp [h after hafter])

/-- A text without angle brackets is free of end tags. -/
theorem is_free_of_of_not_mem (hcs : '<' ∉ cs) : IsFreeOf tag cs := by
  induction cs with
  | nil => exact is_free_of_nil
  | cons c cs ih =>
      rw [List.mem_cons, not_or] at hcs
      exact is_free_of_cons.mpr ⟨begins_end_tag_of_ne (Ne.symm hcs.1), ih hcs.2⟩

/-- A text free of end tags is read up to the end tag that follows it. -/
theorem cut_end_tag?_of_is_free_of (htag : '<' ∉ tag) (hlower : tag.map Char.toLower = tag)
    (hcs : IsFreeOf tag cs) :
    cutEndTag? tag (cs ++ '<' :: '/' :: (tag ++ rest)) = some (cs, rest) := by
  induction cs with
  | nil =>
      have hbegins : beginsEndTag tag ('<' :: '/' :: (tag ++ rest)) = true :=
        begins_end_tag_iff.mpr ⟨tag, rest, rfl, hlower⟩
      rw [List.nil_append, cutEndTag?, if_pos hbegins, List.drop_succ_cons, List.drop_left]
  | cons c cs ih =>
      obtain ⟨hfirst, hrest⟩ := is_free_of_cons.mp hcs
      have hbegins : beginsEndTag tag (c :: (cs ++ '<' :: '/' :: (tag ++ rest))) = false :=
        (begins_end_tag_append htag (List.cons_ne_nil c cs)).trans hfirst
      rw [List.cons_append, cutEndTag?, hbegins, if_neg Bool.false_ne_true, ih hrest]
      rfl

/-! ## Backslashes -/

/-- A text with backslashes begins as the text itself up to the first angle bracket. -/
theorem exists_append_of_backslashed {start : List Char} (hstart : '<' ∉ start)
    (h : backslashed (beginsEndTag tag) cs = start ++ rest) : ∃ more, cs = start ++ more := by
  induction start generalizing cs with
  | nil => exact ⟨cs, rfl⟩
  | cons s start ih =>
      rw [List.mem_cons, not_or] at hstart
      cases cs with
      | nil => cases h
      | cons c cs =>
          have hc : c = s := by
            rw [backslashed] at h
            split at h <;> exact (List.cons.inj h).1
          subst hc
          rw [backslashed, begins_end_tag_of_ne (Ne.symm hstart.1),
            if_neg Bool.false_ne_true] at h
          obtain ⟨more, rfl⟩ := ih hstart.2 (List.cons.inj h).2
          exact ⟨more, rfl⟩

/-- A text with a backslash in every end tag of a name has no end tag of that name. -/
theorem is_free_of_backslashed (htag : '<' ∉ tag) :
    IsFreeOf tag (backslashed (beginsEndTag tag) cs) := by
  induction cs with
  | nil => exact is_free_of_nil
  | cons c cs ih =>
      rw [backslashed]
      split
      next =>
        refine is_free_of_cons.mpr ⟨?_, is_free_of_cons.mpr ⟨begins_end_tag_of_ne (by decide), ih⟩⟩
        rw [Bool.eq_false_iff, Ne, begins_end_tag_iff]
        rintro ⟨name, more, heq, _⟩
        exact absurd (List.cons.inj (List.cons.inj heq).2).1 (by decide)
      next hbegins =>
        refine is_free_of_cons.mpr ⟨?_, ih⟩
        rw [Bool.eq_false_iff]
        intro hescaped
        -- An end tag here would have been one before, since its name has no place for a backslash.
        obtain ⟨name, more, heq, hname⟩ := begins_end_tag_iff.mp hescaped
        obtain ⟨rfl, hafter⟩ := List.cons.inj heq
        have hslash : '<' ∉ '/' :: name := by
          simpa using not_mem_of_map_to_lower htag hname
        obtain ⟨more, rfl⟩ := exists_append_of_backslashed hslash hafter
        exact hbegins (begins_end_tag_iff.mpr ⟨name, more, rfl, hname⟩)

/-- Nothing is put into a text without end tags of the name. -/
theorem backslashed_of_is_free_of (h : IsFreeOf tag cs) :
    backslashed (beginsEndTag tag) cs = cs := by
  induction cs with
  | nil => rfl
  | cons c cs ih =>
      obtain ⟨hfirst, hrest⟩ := is_free_of_cons.mp h
      rw [backslashed, hfirst, if_neg Bool.false_ne_true, ih hrest]

/-- An angle bracket with a slash is kept or has a backslash put into it, and the rest follows. -/
theorem backslashed_opener (tag cs : List Char) :
    backslashed (beginsEndTag tag) ('<' :: '/' :: cs) =
      (if beginsEndTag tag ('<' :: '/' :: cs) then ['<', '\\', '/'] else ['<', '/']) ++
        backslashed (beginsEndTag tag) cs := by
  rw [backslashed, backslashed, begins_end_tag_of_ne (c := '/') (by decide),
    if_neg Bool.false_ne_true]
  split <;> rfl

/-- A character that begins no end tag of any name is kept. -/
theorem backslashed_cons (h : beginsEndTag [] (c :: cs) = false) :
    backslashed (beginsEndTag tag) (c :: cs) = c :: backslashed (beginsEndTag tag) cs := by
  have hname : ¬beginsEndTag tag (c :: cs) = true := by
    intro hbegins
    rw [begins_end_tag_nil hbegins] at h
    cases h
  rw [backslashed, if_neg hname]

/-- Putting a backslash into every end tag is the case of the empty name. -/
theorem escape_end_tags_eq (cs : List Char) :
    escapeEndTags cs = backslashed (beginsEndTag []) cs := by
  fun_induction escapeEndTags cs with
  | case1 rest ih =>
      have hbegins : beginsEndTag [] ('<' :: '/' :: rest) = true :=
        begins_end_tag_iff.mpr ⟨[], rest, rfl, rfl⟩
      rw [ih, backslashed_opener, if_pos hbegins]
      rfl
  | case2 c rest hne ih => rw [ih, backslashed_cons (begins_end_tag_nil_of_ne hne)]
  | case3 => rfl

end Widgetry.Page
