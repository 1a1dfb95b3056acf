import Widgetry.Text.Basic

/-!
# What cutting a text keeps

A text that is trimmed or cut at separators loses blanks and separators and nothing else. Every
lemma here says where a character of the text goes, or how the text is put together again from its
parts.
-/

namespace Widgetry.Text

variable {α : Type} {p : α → Bool} {c sep : Char} {cs : List Char}

/-! ## Trimming -/

/-- A character at the end of a text is dropped or stays. -/
theorem mem_drop_end_while {a : α} {as : List α} (ha : a ∈ as) :
    p a = true ∨ a ∈ dropEndWhile p as := by
  have hsplit : a ∈ as.reverse.takeWhile p ++ as.reverse.dropWhile p := by
    rw [List.takeWhile_append_dropWhile]
    exact List.mem_reverse.mpr ha
  rcases List.mem_append.mp hsplit with htaken | hkept
  · exact .inl (List.all_eq_true.mp List.all_takeWhile a htaken)
  · exact .inr (List.mem_reverse.mpr hkept)

/-- Nothing is dropped from a text that ends in what stays. -/
theorem drop_end_while_concat {a : α} (ha : p a = false) (as : List α) :
    dropEndWhile p (as ++ [a]) = as ++ [a] := by
  simp [dropEndWhile, ha]

/-- What satisfies the test is dropped at the end. -/
theorem drop_end_while_append {as tail : List α} (htail : ∀ a ∈ tail, p a = true) :
    dropEndWhile p (as ++ tail) = dropEndWhile p as := by
  unfold dropEndWhile
  rw [List.reverse_append, List.dropWhile_append_of_pos]
  exact fun a ha => htail a (List.mem_reverse.mp ha)

/-- Nothing is dropped from a text whose last character stays. -/
theorem drop_end_while_eq_self {as : List α} (h : ∀ a ∈ as.getLast?, p a = false) :
    dropEndWhile p as = as := by
  rcases List.eq_nil_or_concat as with rfl | ⟨front, last, rfl⟩
  · rfl
  · rw [List.concat_eq_append] at h ⊢
    exact drop_end_while_concat (h last (by simp)) front

/-- A character of a text is blank or stays when the text is trimmed. -/
theorem mem_trimmed (hc : c ∈ cs) : isBlank c = true ∨ c ∈ trimmed cs := by
  rw [← cs.takeWhile_append_dropWhile (p := isBlank)] at hc
  rcases List.mem_append.mp hc with htaken | hkept
  · exact .inl (List.all_eq_true.mp List.all_takeWhile c htaken)
  · exact mem_drop_end_while hkept

/-- Trimming adds nothing. -/
theorem mem_of_mem_trimmed (hc : c ∈ trimmed cs) : c ∈ cs := by
  have hreversed := (List.dropWhile_sublist isBlank).subset (List.mem_reverse.mp hc)
  exact (List.dropWhile_sublist isBlank).subset (List.mem_reverse.mp hreversed)

/-- Trimming takes away the blanks around a text that begins and ends with none. -/
theorem trimmed_padded {before after : List Char} (hbefore : ∀ c ∈ before, isBlank c = true)
    (hafter : ∀ c ∈ after, isBlank c = true) (hne : cs ≠ [])
    (hfirst : ∀ c ∈ cs.head?, isBlank c = false) (hlast : ∀ c ∈ cs.getLast?, isBlank c = false) :
    trimmed (before ++ cs ++ after) = cs := by
  have hstart : (before ++ (cs ++ after)).dropWhile isBlank = cs ++ after := by
    rw [List.dropWhile_append_of_pos hbefore]
    cases cs with
    | nil => exact absurd rfl hne
    | cons c cs => simp [hfirst c rfl]
  rw [trimmed, List.append_assoc, hstart, drop_end_while_append hafter,
    drop_end_while_eq_self hlast]

/-- Blanks before a text are trimmed away. -/
theorem trimmed_append_left {before : List Char} (hbefore : ∀ c ∈ before, isBlank c = true)
    (cs : List Char) : trimmed (before ++ cs) = trimmed cs := by
  rw [trimmed, trimmed, List.dropWhile_append_of_pos hbefore]

/-- Blanks after a text are trimmed away. -/
theorem trimmed_append_right {after : List Char} (hafter : ∀ c ∈ after, isBlank c = true)
    (cs : List Char) : trimmed (cs ++ after) = trimmed cs := by
  unfold trimmed
  rw [List.dropWhile_append]
  split
  · rename_i hblank
    rw [List.isEmpty_iff] at hblank
    rw [hblank, ← List.append_nil after, List.dropWhile_append_of_pos hafter, List.dropWhile_nil]
  · exact drop_end_while_append hafter

/-- What is dropped at the end of a text. -/
theorem exists_drop_end_while (as : List α) :
    ∃ tail, (∀ a ∈ tail, p a = true) ∧ as = dropEndWhile p as ++ tail := by
  refine ⟨(as.reverse.takeWhile p).reverse, ?_, ?_⟩
  · intro a ha
    exact List.all_eq_true.mp List.all_takeWhile a (List.mem_reverse.mp ha)
  · unfold dropEndWhile
    rw [← List.reverse_append, List.takeWhile_append_dropWhile, List.reverse_reverse]

/-- A text is what trimming leaves of it, with blanks around. -/
theorem exists_trimmed (cs : List Char) :
    ∃ before after, (∀ c ∈ before, isBlank c = true) ∧ (∀ c ∈ after, isBlank c = true) ∧
      cs = before ++ trimmed cs ++ after := by
  obtain ⟨after, hafter, hend⟩ := exists_drop_end_while (p := isBlank) (cs.dropWhile isBlank)
  refine ⟨cs.takeWhile isBlank, after, List.all_eq_true.mp List.all_takeWhile, hafter, ?_⟩
  rw [List.append_assoc, trimmed, ← hend, List.takeWhile_append_dropWhile]

/-- A trimmed text does not begin with a blank. -/
theorem head_trimmed (hc : c ∈ (trimmed cs).head?) : isBlank c = false := by
  obtain ⟨after, _, hend⟩ := exists_drop_end_while (p := isBlank) (cs.dropWhile isBlank)
  have hhead : (cs.dropWhile isBlank).head? = some c := by
    rw [hend, ← trimmed, List.head?_append, Option.mem_def.mp hc]
    rfl
  have hfirst := List.head?_dropWhile_not isBlank cs
  rwa [hhead] at hfirst

/-- A trimmed text does not end with a blank. -/
theorem last_trimmed (hc : c ∈ (trimmed cs).getLast?) : isBlank c = false := by
  unfold trimmed dropEndWhile at hc
  rw [List.getLast?_reverse] at hc
  have hlast := List.head?_dropWhile_not isBlank (cs.dropWhile isBlank).reverse
  rwa [Option.mem_def.mp hc] at hlast

/-- A text that neither begins nor ends with a blank stays when it is trimmed. -/
theorem trimmed_eq_self (hfirst : ∀ c ∈ cs.head?, isBlank c = false)
    (hlast : ∀ c ∈ cs.getLast?, isBlank c = false) : trimmed cs = cs := by
  cases hcs : cs with
  | nil => rfl
  | cons c rest =>
      subst hcs
      have hpadded : trimmed ([] ++ c :: rest ++ []) = c :: rest :=
        trimmed_padded (by simp) (by simp) (List.cons_ne_nil c rest) hfirst hlast
      rwa [List.nil_append, List.append_nil] at hpadded

/-! ## Cutting -/

/-- A text is read up to the first character that fails the test, and no further. -/
theorem take_while_append_cons {a : α} (ha : p a = false) (as more : List α) :
    (as ++ a :: more).takeWhile p = as.takeWhile p := by
  rw [List.takeWhile_append, List.takeWhile_cons_of_neg (by rw [ha]; exact Bool.false_ne_true),
    List.append_nil]
  split
  · rename_i hall
    exact ((List.takeWhile_prefix p).eq_of_length hall).symm
  · rfl

/-- The pieces of a text are those of the library's splitting function. -/
theorem pieces_eq_split_on_p (p : α → Bool) (as : List α) : pieces p as = as.splitOnP p := by
  induction as with
  | nil => rfl
  | cons a as ih =>
      rw [pieces, List.splitOnP_cons_eq_if_modifyHead, ih]
      split
      · rfl
      · cases hpieces : as.splitOnP p with
        | nil => exact absurd hpieces (List.splitOnP_ne_nil p as)
        | cons piece more => rfl

/-- A character of a text separates pieces or belongs to one. -/
theorem mem_pieces {a : α} {as : List α} (ha : a ∈ as) :
    p a = true ∨ ∃ piece ∈ pieces p as, a ∈ piece := by
  induction as with
  | nil => cases ha
  | cons first rest ih =>
      rw [pieces]
      rcases List.mem_cons.mp ha with rfl | ha
      · by_cases hsep : p a = true
        · exact .inl hsep
        · rw [if_neg hsep]
          refine .inr ?_
          split <;> simp
      · refine (ih ha).imp_right ?_
        rintro ⟨piece, hpiece, hmem⟩
        split
        · exact ⟨piece, List.mem_cons_of_mem _ hpiece, hmem⟩
        · split
          next hnone => simp [hnone] at hpiece
          next head more hpieces =>
            -- The first piece has grown by one character, and the others are the same.
            rw [hpieces] at hpiece
            rcases List.mem_cons.mp hpiece with rfl | hpiece
            · exact ⟨first :: piece, List.mem_cons_self, List.mem_cons_of_mem _ hmem⟩
            · exact ⟨piece, List.mem_cons_of_mem _ hpiece, hmem⟩

/-- Elements that separate nothing belong to the first piece. -/
theorem pieces_append {front : List α} (h : ∀ a ∈ front, p a = false) (rest : List α) :
    pieces p (front ++ rest) = (pieces p rest).modifyHead (front ++ ·) := by
  induction front with
  | nil =>
      rw [List.nil_append]
      cases pieces p rest <;> rfl
  | cons a front ih =>
      obtain ⟨ha, hfront⟩ := List.forall_mem_cons.mp h
      rw [List.cons_append, pieces, ih hfront, ha, if_neg Bool.false_ne_true]
      cases hpieces : pieces p rest with
      | nil =>
          rw [pieces_eq_split_on_p] at hpieces
          exact absurd hpieces (List.splitOnP_ne_nil p rest)
      | cons piece more => rfl

/-- A text without separators is one piece. -/
theorem pieces_eq_singleton {as : List α} (h : ∀ a ∈ as, p a = false) : pieces p as = [as] := by
  have hpieces := pieces_append h []
  rw [List.append_nil] at hpieces
  rw [hpieces, pieces, List.modifyHead_cons, List.append_nil]

/-- The first piece ends at the first separator. -/
theorem pieces_append_cons {front : List α} {sep : α} (h : ∀ a ∈ front, p a = false)
    (hsep : p sep = true) (rest : List α) :
    pieces p (front ++ sep :: rest) = front :: pieces p rest := by
  rw [pieces_append h, pieces, if_pos hsep, List.modifyHead_cons, List.append_nil]

/-- A character of a text separates words or belongs to one. -/
theorem mem_words {p : Char → Bool} (hc : c ∈ cs) :
    p c = true ∨ ∃ word ∈ words p cs, c ∈ word := by
  refine (mem_pieces hc).imp_right ?_
  rintro ⟨piece, hpiece, hmem⟩
  refine ⟨piece, List.mem_filter.mpr ⟨hpiece, ?_⟩, hmem⟩
  cases piece with
  | nil => cases hmem
  | cons => rfl

/-- Separators before the first word do not count. -/
theorem words_append {p : Char → Bool} {front : List Char} (h : ∀ c ∈ front, p c = true)
    (rest : List Char) : words p (front ++ rest) = words p rest := by
  induction front with
  | nil => rfl
  | cons c front ih =>
      obtain ⟨hc, hfront⟩ := List.forall_mem_cons.mp h
      rw [← ih hfront]
      unfold words
      rw [List.cons_append, pieces, if_pos hc]
      rfl

/-- The first word ends where the text does or at the first separator. -/
theorem words_word_append {p : Char → Bool} {word rest : List Char} (hne : word ≠ [])
    (hword : ∀ c ∈ word, p c = false) (hrest : ∀ c ∈ rest.head?, p c = true) :
    words p (word ++ rest) = word :: words p rest := by
  have hkept : ∀ more : List (List Char), (word :: more).filter (fun piece => !piece.isEmpty) =
      word :: more.filter (fun piece => !piece.isEmpty) := fun more =>
    List.filter_cons_of_pos (by simpa using hne)
  unfold words
  cases rest with
  | nil =>
      rw [List.append_nil, pieces_eq_singleton hword, hkept]
      rfl
  | cons sep rest =>
      rw [pieces_append_cons hword (hrest sep rfl), hkept, pieces, if_pos (hrest sep rfl)]
      rfl

/-- A text is cut at the first separator, which stands between its parts. -/
theorem cut_first?_eq_some_iff {before after : List Char} :
    cutFirst? sep cs = some (before, after) ↔ cs = before ++ sep :: after ∧ sep ∉ before := by
  induction cs generalizing before with
  | nil => simp [cutFirst?]
  | cons c cs ih =>
      rw [cutFirst?]
      split
      next hsep =>
        subst hsep
        cases before with
        | nil => simp [eq_comm]
        | cons first before =>
            simp only [Option.some.injEq, Prod.mk.injEq, List.nil_eq, reduceCtorEq, false_and,
              List.cons_append, List.cons.injEq, List.mem_cons, not_or, false_iff]
            rintro ⟨⟨rfl, _⟩, hne, _⟩
            exact hne rfl
      next hsep =>
        rw [Option.map_eq_some_iff]
        constructor
        · rintro ⟨⟨start, rest⟩, hcut, heq⟩
          obtain ⟨rfl, rfl⟩ := Prod.mk.inj heq
          obtain ⟨rfl, hstart⟩ := ih.mp hcut
          exact ⟨rfl, by simpa [Ne.symm hsep] using hstart⟩
        · rintro ⟨heq, hbefore⟩
          cases before with
          | nil => exact absurd (List.cons.inj heq).1 hsep
          | cons first before =>
              obtain ⟨rfl, rfl⟩ := List.cons.inj heq
              have hstart : sep ∉ before := fun hmem => hbefore (List.mem_cons_of_mem _ hmem)
              exact ⟨(before, after), ih.mpr ⟨rfl, hstart⟩, rfl⟩

/-- A text is not cut if it has no separator. -/
theorem cut_first?_eq_none (h : sep ∉ cs) : cutFirst? sep cs = none := by
  cases hcut : cutFirst? sep cs with
  | none => rfl
  | some parts =>
      obtain ⟨rfl, _⟩ := cut_first?_eq_some_iff.mp hcut
      simp at h

/-- The rest of a text after a given beginning. -/
theorem after?_eq_some_iff {start rest : List Char} :
    after? start cs = some rest ↔ cs = start ++ rest := by
  induction start generalizing cs with
  | nil => simp [after?]
  | cons s start ih =>
      cases cs with
      | nil => simp [after?]
      | cons c cs =>
          rw [after?]
          split
          next heq => rw [ih, heq, List.cons_append, List.cons.injEq, and_iff_right rfl]
          next hne => simp [Ne.symm hne]

/-- The part of a text before a given end. -/
theorem before?_eq_some_iff {tail start : List Char} :
    before? tail cs = some start ↔ cs = start ++ tail := by
  rw [before?, Option.map_eq_some_iff]
  constructor
  · rintro ⟨rest, hrest, rfl⟩
    rw [after?_eq_some_iff] at hrest
    simpa using congrArg List.reverse hrest
  · rintro rfl
    exact ⟨start.reverse, after?_eq_some_iff.mpr (by simp), by simp⟩

end Widgetry.Text
