import Mathlib.Logic.Relation
import Widgetry.Proofs.LetterCase
import Widgetry.Resource.Kind

/-!
# Content kinds are normal forms

A response says the same about its content if the reported type gets parameters, blanks around it or
other letter case, and if the URL gets other letter case, a query or a fragment. The content kind is
the same for all such variants, and it is itself the plainest of the types that say the same: the
main theorem, `kinds_are_normal_forms`. It depends on the URL exactly if the type says nothing.

What a reported type says is its `essence`, and two types are variants of each other exactly if they
have one essence (`is_retyped_iff`).
-/

namespace Widgetry.ContentKind

open Relation

/-! ## Variants -/

/-- A change of a reported type that does not change what it says. -/
inductive Retyped : String → String → Prop where
  | parameters (type parameters : String) : Retyped type (type ++ ";" ++ parameters)
  | letterCase (type other : String) : Text.lower type = Text.lower other → Retyped type other
  | blanks (before type after : String) :
      Text.isBlankText before = true → Text.isBlankText after = true →
      Retyped type (before ++ type ++ after)

/-- A change of a URL that does not change the name of its file, up to letter case. -/
inductive Readdressed : String → String → Prop where
  | letterCase (url other : String) : Text.lower url = Text.lower other → Readdressed url other
  | query (url text : String) : Readdressed url (url ++ "?" ++ text)
  | fragment (url text : String) : Readdressed url (url ++ "#" ++ text)

/-- One type comes from the other by changes, or by changes undone, that do not change what it
says. -/
abbrev IsRetyped : String → String → Prop := EqvGen Retyped

/-- One URL comes from the other by changes, or by changes undone, that do not change the name of
its file. -/
abbrev IsReaddressed : String → String → Prop := EqvGen Readdressed

/-- What is the same after each change is the same after all. -/
theorem eq_of_eqv_gen {α β : Type} {r : α → α → Prop} {f : α → β}
    (hf : ∀ a b, r a b → f a = f b) {a b : α} (h : EqvGen r a b) : f a = f b := by
  induction h with
  | rel a b hab => exact hf a b hab
  | refl a => rfl
  | symm a b _ ih => exact ih.symm
  | trans a b c _ _ hab hbc => exact hab.trans hbc

/-! ## The essence of a type -/

/-- What a reported type says: the part before the parameters, trimmed and in small letters. -/
def essence (type : String) : List Char :=
  (Text.trimmed (type.toList.takeWhile (· ≠ ';'))).map Char.toLower

/-- A type says nothing if its essence is empty or the unknown kind, and else it is its essence. -/
theorem declared?_eq (type : String) :
    declared? type =
      if essence type = [] ∨ essence type = unknown.toList then none
      else some (String.ofList (essence type)) := by
  have hempty : (String.ofList (essence type)).isEmpty = true ↔ essence type = [] := by
    rw [String.isEmpty_iff, ← String.toList_inj, String.toList_ofList, String.toList_empty]
  have hunknown : String.ofList (essence type) = unknown ↔ essence type = unknown.toList := by
    rw [← String.toList_inj, String.toList_ofList]
  show (if (String.ofList (essence type)).isEmpty || decide (String.ofList (essence type) = unknown)
    then none else some (String.ofList (essence type))) = _
  simp only [Bool.or_eq_true, decide_eq_true_eq, hempty, hunknown]

/-- The part before the parameters does not depend on letter case. -/
theorem take_while_map_to_lower (cs : List Char) :
    (cs.map Char.toLower).takeWhile (· ≠ ';') = (cs.takeWhile (· ≠ ';')).map Char.toLower := by
  have hsign : (fun c : Char => decide (c ≠ ';')) ∘ Char.toLower = fun c => decide (c ≠ ';') := by
    funext c
    exact decide_eq_decide.mpr (not_congr (Text.to_lower_eq_iff (by decide)))
  rw [List.takeWhile_map, hsign]

/-- The essence of a type in small letters. -/
theorem essence_eq_lower (type : String) :
    essence type = Text.trimmed ((Text.lower type).toList.takeWhile (· ≠ ';')) := by
  rw [Text.lower, String.toList_ofList, take_while_map_to_lower, Text.trimmed_map_to_lower, essence]

/-- Parameters are not of the essence. -/
theorem essence_parameters (type parameters : String) :
    essence (type ++ ";" ++ parameters) = essence type := by
  unfold essence
  rw [String.append_assoc, String.toList_append, String.toList_append]
  exact congrArg (fun cs => (Text.trimmed cs).map Char.toLower)
    (Text.take_while_append_cons (by decide) type.toList parameters.toList)

/-- Blanks are no semicolons. -/
theorem ne_of_is_blank {c : Char} (hc : Text.isBlank c = true) : c ≠ ';' := by
  rintro rfl
  revert hc
  decide

/-- Blanks around a type are not of the essence. -/
theorem essence_blanks {before after : String} (hbefore : Text.isBlankText before = true)
    (hafter : Text.isBlankText after = true) (type : String) :
    essence (before ++ type ++ after) = essence type := by
  have hbefore := List.all_eq_true.mp hbefore
  have hafter := List.all_eq_true.mp hafter
  unfold essence
  rw [String.append_assoc, String.toList_append, String.toList_append,
    List.takeWhile_append_of_pos fun c hc => decide_eq_true (ne_of_is_blank (hbefore c hc)),
    Text.trimmed_append_left hbefore, List.takeWhile_append]
  split
  · rename_i hall
    -- There are no parameters, and the blanks at the end stand before none.
    have hkept : after.toList.takeWhile (· ≠ ';') = after.toList :=
      List.takeWhile_eq_self_iff.mpr fun c hc => decide_eq_true (ne_of_is_blank (hafter c hc))
    rw [hkept, Text.trimmed_append_right hafter, (List.takeWhile_prefix _).eq_of_length hall]
  · rfl

/-- Types that say the same have one essence. -/
theorem essence_of_retyped {type other : String} (h : Retyped type other) :
    essence type = essence other := by
  cases h with
  | parameters _ parameters => exact (essence_parameters type parameters).symm
  | letterCase _ _ hlower => rw [essence_eq_lower, hlower, ← essence_eq_lower]
  | blanks before _ after hbefore hafter => exact (essence_blanks hbefore hafter type).symm

/-- A sign of the part before the parameters is of the essence, and only such a sign. -/
theorem mem_essence_iff {c : Char} (hletter : c.isAlpha = false) (hblank : Text.isBlank c = false)
    {type : String} : c ∈ essence type ↔ c ∈ type.toList.takeWhile (· ≠ ';') := by
  constructor
  · intro hmem
    obtain ⟨d, hd, hlower⟩ := List.mem_map.mp hmem
    rw [Text.to_lower_eq_iff hletter] at hlower
    exact hlower ▸ Text.mem_of_mem_trimmed hd
  · intro hmem
    rcases Text.mem_trimmed hmem with hdropped | hkept
    · rw [hdropped] at hblank
      cases hblank
    · exact List.mem_map.mpr ⟨c, hkept, (Text.to_lower_eq_iff hletter).mpr rfl⟩

/-- A type says what the part before its parameters says. -/
theorem is_retyped_take_while (type : String) :
    IsRetyped (String.ofList (type.toList.takeWhile (· ≠ ';'))) type := by
  have hsplit := List.takeWhile_append_dropWhile (p := (· ≠ ';')) (l := type.toList)
  cases hrest : type.toList.dropWhile (· ≠ ';') with
  | nil =>
      rw [hrest, List.append_nil] at hsplit
      rw [hsplit, String.ofList_toList]
      exact .refl type
  | cons c parameters =>
      have hsign := List.head?_dropWhile_not (· ≠ ';') type.toList
      rw [hrest] at hsign
      have hc : c = ';' := by simpa using hsign
      subst hc
      have htype : String.ofList (type.toList.takeWhile (· ≠ ';')) ++ ";" ++
          String.ofList parameters = type := by
        rw [hrest] at hsplit
        rw [← String.toList_inj, String.append_assoc, String.toList_append, String.toList_append,
          String.toList_ofList, String.toList_ofList, String.toList_ofList]
        exact hsplit
      have hparameters := Retyped.parameters (String.ofList (type.toList.takeWhile (· ≠ ';')))
        (String.ofList parameters)
      rw [htype] at hparameters
      exact .rel _ _ hparameters

/-- A type says what its essence says. -/
theorem is_retyped_essence (type : String) : IsRetyped (String.ofList (essence type)) type := by
  -- From the essence, letter case comes back first, then the blanks, and last the parameters.
  obtain ⟨before, after, hbefore, hafter, hpart⟩ :=
    Text.exists_trimmed (type.toList.takeWhile (· ≠ ';'))
  have htrimmed : Retyped (String.ofList (Text.trimmed (type.toList.takeWhile (· ≠ ';'))))
      (String.ofList (type.toList.takeWhile (· ≠ ';'))) := by
    have hblanks := Retyped.blanks (String.ofList before)
      (String.ofList (Text.trimmed (type.toList.takeWhile (· ≠ ';')))) (String.ofList after)
      (by rw [Text.isBlankText, String.toList_ofList]; exact List.all_eq_true.mpr hbefore)
      (by rw [Text.isBlankText, String.toList_ofList]; exact List.all_eq_true.mpr hafter)
    rwa [← String.ofList_append, ← String.ofList_append, ← hpart] at hblanks
  have hlower : Retyped (String.ofList (essence type))
      (String.ofList (Text.trimmed (type.toList.takeWhile (· ≠ ';')))) := by
    refine .letterCase _ _ ?_
    simp only [Text.lower, String.toList_ofList, essence, List.map_map, Function.comp_def,
      Char.toLower_toLower_eq_toLower]
  exact .trans _ _ _ (.rel _ _ hlower) (.trans _ _ _ (.rel _ _ htrimmed)
    (is_retyped_take_while type))

/-- Two types are variants of each other exactly if they have one essence. -/
theorem is_retyped_iff {type other : String} :
    IsRetyped type other ↔ essence type = essence other := by
  constructor
  · exact eq_of_eqv_gen (fun _ _ h => essence_of_retyped h)
  · intro heq
    have hother := is_retyped_essence other
    rw [← heq] at hother
    exact .trans _ _ _ (.symm _ _ (is_retyped_essence type)) hother

/-- A type says nothing exactly if it is a variant of the empty type or of the unknown kind. -/
theorem declared?_eq_none_iff (type : String) :
    declared? type = none ↔ IsRetyped type "" ∨ IsRetyped type unknown := by
  have hempty : essence "" = [] := by decide
  have hunknown : essence unknown = unknown.toList := by decide
  rw [declared?_eq, is_retyped_iff, is_retyped_iff, hempty, hunknown]
  split <;> simp_all

/-! ## The file name of a URL -/

/-- What follows a query or fragment sign does not count. -/
theorem file_name_append {sign : Char} (hsign : sign = '?' ∨ sign = '#') (url text : List Char) :
    fileName (url ++ sign :: text) = fileName url := by
  unfold fileName
  rw [Text.take_while_append_cons (by rcases hsign with rfl | rfl <;> decide)]

/-- A text is cut at signs in any letter case. -/
theorem cut_last?_map_to_lower {sep : Char} (hsep : sep.isAlpha = false) (cs : List Char) :
    Text.cutLast? sep (cs.map Char.toLower) =
      (Text.cutLast? sep cs).map (Prod.map (List.map Char.toLower) (List.map Char.toLower)) := by
  have hfirst : ∀ cs : List Char, Text.cutFirst? sep (cs.map Char.toLower) =
      (Text.cutFirst? sep cs).map (Prod.map (List.map Char.toLower) (List.map Char.toLower)) := by
    intro cs
    induction cs with
    | nil => rfl
    | cons c cs ih =>
        rw [List.map_cons, Text.cutFirst?, Text.cutFirst?, ih]
        by_cases hc : c = sep
        · rw [if_pos hc, if_pos ((Text.to_lower_eq_iff hsep).mpr hc)]
          rfl
        · rw [if_neg hc, if_neg fun h => hc ((Text.to_lower_eq_iff hsep).mp h)]
          cases Text.cutFirst? sep cs <;> rfl
  unfold Text.cutLast?
  rw [← List.map_reverse, hfirst]
  cases Text.cutFirst? sep cs.reverse <;> simp

/-- The file name of a URL in small letters. -/
theorem file_name_map_to_lower (url : List Char) :
    fileName (url.map Char.toLower) = (fileName url).map Char.toLower := by
  have hsigns : (fun c : Char => decide (c ≠ '?') && decide (c ≠ '#')) ∘ Char.toLower =
      fun c => decide (c ≠ '?') && decide (c ≠ '#') := by
    funext c
    have hquery := Text.to_lower_eq_iff (c := c) (d := '?') (by decide)
    have hfragment := Text.to_lower_eq_iff (c := c) (d := '#') (by decide)
    simp only [Function.comp_apply, ne_eq, hquery, hfragment]
  unfold fileName
  rw [List.takeWhile_map, hsigns]
  dsimp only
  rw [cut_last?_map_to_lower (by decide)]
  cases Text.cutLast? '/' (url.takeWhile fun c => c ≠ '?' && c ≠ '#') <;> rfl

/-- URLs with one file name have one extension. -/
theorem of_extension?_congr {url other : String} (h : fileName url.toList = fileName other.toList) :
    ofExtension? url = ofExtension? other := by
  unfold ofExtension?
  rw [h]

/-- The extension of a URL counts in any letter case. -/
theorem of_extension?_lower (url : String) : ofExtension? (Text.lower url) = ofExtension? url := by
  unfold ofExtension? Text.lower
  rw [String.toList_ofList, file_name_map_to_lower, cut_last?_map_to_lower (by decide)]
  cases Text.cutLast? '.' (fileName url.toList) with
  | none => rfl
  | some parts =>
      simp only [Option.map_some, Prod.map_snd, List.map_map, Function.comp_def,
        Char.toLower_toLower_eq_toLower]

/-- Changes that do not change the name of a file do not change its extension. -/
theorem of_extension?_of_readdressed {url other : String} (h : Readdressed url other) :
    ofExtension? url = ofExtension? other := by
  cases h with
  | letterCase _ hlower => rw [← of_extension?_lower, hlower, of_extension?_lower]
  | query text | fragment text =>
      refine of_extension?_congr ?_
      rw [String.append_assoc, String.toList_append, String.toList_append]
      exact (file_name_append (by decide) url.toList text.toList).symm

/-! ## Normal forms -/

/-- A type in its plainest form. -/
structure IsNormal (kind : String) : Prop where
  nonempty : kind ≠ ""
  /-- There are no parameters. -/
  bare : ';' ∉ kind.toList
  small : ∀ c ∈ kind.toList, c.isUpper = false
  /-- There are no blanks around. -/
  first : ∀ c ∈ kind.toList.head?, Text.isBlank c = false
  last : ∀ c ∈ kind.toList.getLast?, Text.isBlank c = false

/-- A type in its plainest form is its own essence. -/
theorem IsNormal.essence_eq {kind : String} (h : IsNormal kind) : essence kind = kind.toList := by
  have hbare : kind.toList.takeWhile (· ≠ ';') = kind.toList :=
    List.takeWhile_eq_self_iff.mpr fun c hc => decide_eq_true fun heq => h.bare (heq ▸ hc)
  have hsmall : kind.toList.map Char.toLower = kind.toList.map id := by
    refine List.map_congr_left fun c hc => Char.toLower_eq_of_not_isUpper ?_
    rw [h.small c hc]
    exact Bool.false_ne_true
  rw [essence, hbare, Text.trimmed_eq_self h.first h.last, hsmall, List.map_id]

/-- A type that is its own essence is in its plainest form, if it is not empty. -/
theorem is_normal_of_essence {kind : String} (hne : kind ≠ "")
    (hself : essence kind = kind.toList) : IsNormal kind where
  nonempty := hne
  bare := by
    intro hmem
    rw [← hself] at hmem
    obtain ⟨c, hc, hsign⟩ := List.mem_map.mp hmem
    rw [Text.to_lower_eq_iff (by decide)] at hsign
    have hpart := List.mem_takeWhile_imp (Text.mem_of_mem_trimmed hc)
    simp [hsign] at hpart
  small := by
    intro c hmem
    rw [← hself] at hmem
    obtain ⟨d, _, rfl⟩ := List.mem_map.mp hmem
    exact Char.isUpper_toLower_eq_false d
  first := by
    intro c hfirst
    rw [← hself, essence, List.head?_map] at hfirst
    obtain ⟨d, hd, rfl⟩ := Option.map_eq_some_iff.mp hfirst
    rw [Text.is_blank_to_lower]
    exact Text.head_trimmed hd
  last := by
    intro c hlast
    rw [← hself, essence, List.getLast?_map] at hlast
    obtain ⟨d, hd, rfl⟩ := Option.map_eq_some_iff.mp hlast
    rw [Text.is_blank_to_lower]
    exact Text.last_trimmed hd

/-- What a type says is in its plainest form, and known. -/
theorem is_normal_of_declared? {type kind : String} (h : declared? type = some kind) :
    IsNormal kind ∧ kind ≠ unknown := by
  rw [declared?_eq] at h
  split at h
  · cases h
  · rename_i hsays
    cases h
    obtain ⟨hempty, hunknown⟩ := not_or.mp hsays
    have hessence : ∀ text, String.ofList (essence type) = text → essence type = text.toList := by
      rintro text rfl
      rw [String.toList_ofList]
    refine ⟨is_normal_of_essence (fun heq => hempty (hessence _ heq)) ?_,
      fun heq => hunknown (hessence _ heq)⟩
    rw [is_retyped_iff.mp (is_retyped_essence type), String.toList_ofList]

/-- A type in its plainest form says itself, unless it is the unknown kind. -/
theorem IsNormal.declared?_eq {kind : String} (h : IsNormal kind) (hknown : kind ≠ unknown) :
    declared? kind = some kind := by
  have hne : kind.toList ≠ [] := fun hempty => h.nonempty (by
    rw [← String.toList_inj, hempty, String.toList_empty])
  have hknown : kind.toList ≠ unknown.toList := fun heq => hknown (String.toList_inj.mp heq)
  rw [ContentKind.declared?_eq, h.essence_eq, if_neg (not_or.mpr ⟨hne, hknown⟩),
    String.ofList_toList]

/-- The kind that belongs to the extension of a URL is one of the table. -/
theorem mem_of_extension? {url kind : String} (h : ofExtension? url = some kind) :
    kind ∈ extensions.map Prod.snd := by
  unfold ofExtension? at h
  split at h
  · obtain ⟨before, after, htable, _⟩ := List.lookup_eq_some_iff.mp h
    rw [htable, List.map_append]
    exact List.mem_append_right _ List.mem_cons_self
  · cases h

/-- The kinds of the table are in their plainest form. -/
theorem is_normal_of_mem_extensions {kind : String} (h : kind ∈ extensions.map Prod.snd) :
    IsNormal kind := by
  have htable : ∀ kind ∈ extensions.map Prod.snd,
      decide (kind ≠ "" ∧ essence kind = kind.toList) = true :=
    List.all_eq_true.mp (by decide)
  obtain ⟨hne, hself⟩ := of_decide_eq_true (htable kind h)
  exact is_normal_of_essence hne hself

/-! ## Content kinds -/

/-- The content kind is what the type says, if it says anything. -/
theorem detect_of_declared? {type kind : String} (h : declared? type = some kind) (url : String) :
    detect url (some type) = kind := by
  simp [detect, h]

/-- If the type says nothing, the extension of the URL decides. -/
theorem detect_of_undeclared {type : Option String} (h : type.bind declared? = none)
    (url : String) : detect url type = (ofExtension? url).getD unknown := by
  rw [detect, h, Option.none_or]

/-- Every content kind is in its plainest form. -/
theorem is_normal_detect (url : String) (type : Option String) : IsNormal (detect url type) := by
  cases hdeclared : type.bind declared? with
  | some kind =>
      obtain ⟨said, rfl, hsaid⟩ := Option.bind_eq_some_iff.mp hdeclared
      rw [detect_of_declared? hsaid]
      exact (is_normal_of_declared? hsaid).1
  | none =>
      rw [detect_of_undeclared hdeclared]
      cases hextension : ofExtension? url with
      | some kind => exact is_normal_of_mem_extensions (mem_of_extension? hextension)
      | none => exact is_normal_of_essence (by decide) (by decide)

/-- A sign that stands in no kind of the table stands in a content kind exactly if it stands in the
reported type before the parameters. -/
theorem mem_detect_iff {c : Char} (hletter : c.isAlpha = false) (hblank : Text.isBlank c = false)
    (htable : ∀ kind ∈ unknown :: extensions.map Prod.snd, c ∉ kind.toList) (url : String)
    (type : Option String) :
    c ∈ (detect url type).toList ↔ ∃ said ∈ type, c ∈ said.toList.takeWhile (· ≠ ';') := by
  cases hdeclared : type.bind declared? with
  | some kind =>
      obtain ⟨said, rfl, hsaid⟩ := Option.bind_eq_some_iff.mp hdeclared
      rw [detect_of_declared? hsaid]
      rw [declared?_eq] at hsaid
      split at hsaid
      · cases hsaid
      · cases hsaid
        rw [String.toList_ofList, mem_essence_iff hletter hblank]
        simp
  | none =>
      -- The table names the kind then, and the type says nothing or that it is unknown.
      rw [detect_of_undeclared hdeclared]
      refine iff_of_false ?_ ?_
      · cases hextension : ofExtension? url with
        | some kind => exact htable kind (List.mem_cons_of_mem _ (mem_of_extension? hextension))
        | none => exact htable unknown List.mem_cons_self
      · rintro ⟨said, rfl, hmem⟩
        rw [Option.bind_some, declared?_eq] at hdeclared
        rw [← mem_essence_iff hletter hblank] at hmem
        split at hdeclared
        · rename_i hsays
          rcases hsays with hempty | hunknown
          · rw [hempty] at hmem
            cases hmem
          · rw [hunknown] at hmem
            exact htable unknown List.mem_cons_self hmem
        · cases hdeclared

/-- A sign stands in the reported type before its parameters. -/
def hasSign (sign : Char) (type : Option String) : Bool :=
  type.any fun said => (said.toList.takeWhile (· ≠ ';')).contains sign

/-- A content kind has a comma, a quote or an ampersand exactly if the reported type has it before
its parameters. -/
theorem sign_mem_detect_iff {sign : Char} (hsign : sign ∈ [',', '"', '&']) (url : String)
    (type : Option String) : sign ∈ (detect url type).toList ↔ hasSign sign type = true := by
  -- The signs are neither letters nor blanks, and they stand in no kind of the table.
  have hall : ∀ sign ∈ [',', '"', '&'], decide (sign.isAlpha = false ∧ Text.isBlank sign = false ∧
      ∀ kind ∈ unknown :: extensions.map Prod.snd, sign ∉ kind.toList) = true :=
    List.all_eq_true.mp (by decide)
  obtain ⟨hletter, hblank, htable⟩ := of_decide_eq_true (hall sign hsign)
  rw [mem_detect_iff hletter hblank htable, hasSign, Option.any_eq_true]
  simp only [List.contains_iff_mem, Option.mem_def]

/-- A content kind that is reported as a type is the content kind. -/
theorem detect_detect (url : String) (type : Option String) :
    detect url (some (detect url type)) = detect url type := by
  by_cases hknown : detect url type = unknown
  · -- The unknown kind says nothing, and the URL has no extension that is known.
    have hunknown : declared? unknown = none := by decide
    have hextension : (ofExtension? url).getD unknown = unknown := by
      cases hdeclared : type.bind declared? with
      | none => rwa [detect_of_undeclared hdeclared] at hknown
      | some kind =>
          obtain ⟨said, rfl, hsaid⟩ := Option.bind_eq_some_iff.mp hdeclared
          rw [detect_of_declared? hsaid] at hknown
          exact absurd hknown (is_normal_of_declared? hsaid).2
    rw [hknown, detect_of_undeclared (by rw [Option.bind_some, hunknown]), hextension]
  · exact detect_of_declared? ((is_normal_detect url type).declared?_eq hknown) url

/-- Variants of a response have one content kind. -/
theorem detect_congr {url url' : String} {type type' : Option String}
    (hurl : IsReaddressed url url') (htype : Option.Rel IsRetyped type type') :
    detect url type = detect url' type' := by
  have hextension : ofExtension? url = ofExtension? url' :=
    eq_of_eqv_gen (fun _ _ h => of_extension?_of_readdressed h) hurl
  have hdeclared : type.bind declared? = type'.bind declared? := by
    cases htype with
    | none => rfl
    | some hsame => rw [Option.bind_some, Option.bind_some, declared?_eq, declared?_eq,
        is_retyped_iff.mp hsame]
  rw [detect, detect, hextension, hdeclared]

/-- The content kind depends on the URL exactly if the type says nothing. -/
theorem exists_detect_ne_iff (url : String) (type : Option String) :
    (∃ url', detect url' type ≠ detect url type) ↔ type.bind declared? = none := by
  constructor
  · rintro ⟨url', hne⟩
    cases hdeclared : type.bind declared? with
    | none => rfl
    | some kind =>
        obtain ⟨said, rfl, hsaid⟩ := Option.bind_eq_some_iff.mp hdeclared
        rw [detect_of_declared? hsaid, detect_of_declared? hsaid] at hne
        exact absurd rfl hne
  · intro hnone
    have himage : detect "a.png" type = "image/png" := by
      rw [detect_of_undeclared hnone]
      decide
    have hbare : detect "" type = unknown := by
      rw [detect_of_undeclared hnone]
      decide
    -- Of two URLs with different content kinds, one differs from the given URL.
    by_cases hurl : detect url type = unknown
    · exact ⟨"a.png", by rw [himage, hurl]; decide⟩
    · exact ⟨"", by rw [hbare]; exact Ne.symm hurl⟩

/-- **Content kinds are normal forms.** A content kind is not empty and has no parameters, no
capitals and no blanks around, and it is its own content kind. Variants of a response have one
content kind, which every family of media judges alike. Whether the URL matters depends on the type:
it does if there is none, or if it is a variant of the empty type or of the unknown kind, and else
it does not. -/
theorem kinds_are_normal_forms (url : String) (type : Option String) :
    IsNormal (detect url type) ∧
    detect url (some (detect url type)) = detect url type ∧
    (∀ url' type', IsReaddressed url url' → Option.Rel IsRetyped type type' →
      detect url' type' = detect url type ∧
      ∀ family : Family, family.support (detect url' type') = family.support (detect url type)) ∧
    ((∃ url', detect url' type ≠ detect url type) ↔
      ∀ said ∈ type, IsRetyped said "" ∨ IsRetyped said unknown) := by
  refine ⟨is_normal_detect url type, detect_detect url type, ?_, ?_⟩
  · intro url' type' hurl htype
    have hkind := detect_congr hurl htype
    exact ⟨hkind.symm, fun family => by rw [hkind]⟩
  · rw [exists_detect_ne_iff]
    cases type with
    | none => simp
    | some said => simp [declared?_eq_none_iff]

end Widgetry.ContentKind
