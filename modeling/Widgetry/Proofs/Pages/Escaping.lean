import Widgetry.Proofs.Pages.EndTags
import Widgetry.Proofs.Slices

/-!
# Escaping by bytes

A page escapes the end tags of a name in the bytes of a text: it searches the next angle bracket
with a slash, cuts the bytes there and looks at as many bytes behind it as the name has. The scan
passes over the characters before (`escape_bytes?_encode_cons`) and goes on behind the slash
(`escape_bytes?_encode_opener`), so that it never cuts inside a character and puts a backslash into
each end tag of the name and nowhere else: `escape_bytes?_encode`.
-/

namespace Widgetry.Page

open Text Text.Utf8

variable {tag rest : Bytes} {place : Nat}

/-! ## Steps of the scan -/

/-- Bytes without an angle bracket and a slash are kept. -/
theorem escape_bytes?_of_find?_eq_none (h : find? (encode "</") rest = none) :
    escapeBytes? tag rest = some rest := by
  rw [escapeBytes?, h]

/-- The bytes are cut around the first angle bracket with a slash. -/
theorem escape_bytes?_of_find?_eq_some (h : find? (encode "</") rest = some place) :
    escapeBytes? tag rest =
      (sliceFrom? rest (place + 2)).bind fun after =>
        (sliceTo? rest place).bind fun front =>
          (escapeBytes? tag after).map fun more =>
            front ++ encode (if startsWithName tag after then "<\\/" else "</") ++ more := by
  rw [escapeBytes?, h]
  dsimp only
  split
  next hafter => rw [hafter]; rfl
  next after hafter =>
    rw [hafter]
    show (sliceTo? rest place).bind _ = (sliceTo? rest place).bind _
    congr 1
    funext front
    exact (Option.map_eq_bind ..).symm

/-- The scan passes over bytes if the search does. -/
theorem escape_bytes?_append {front bytes : Bytes}
    (h : find? (encode "</") (front ++ bytes) =
      (find? (encode "</") bytes).map (front.length + ·)) :
    escapeBytes? tag (front ++ bytes) = (escapeBytes? tag bytes).map (front ++ ·) := by
  cases hfind : find? (encode "</") bytes with
  | none =>
      rw [hfind] at h
      rw [escape_bytes?_of_find?_eq_none h, escape_bytes?_of_find?_eq_none hfind]
      rfl
  | some place =>
      rw [hfind] at h
      rw [escape_bytes?_of_find?_eq_some h, escape_bytes?_of_find?_eq_some hfind, Nat.add_assoc,
        slice_from?_append, slice_to?_append]
      cases sliceFrom? bytes (place + 2) with
      | none => rfl
      | some after =>
          cases sliceTo? bytes place with
          | none => rfl
          | some start => simp [Function.comp_def]

/-! ## Texts -/

/-- The bytes of a text that begins no end tag are kept up to its second character. -/
theorem escape_bytes?_encode_cons {c : Char} {cs : List Char}
    (h : beginsEndTag [] (c :: cs) = false) :
    escapeBytes? tag ((c :: cs).flatMap String.utf8EncodeChar) =
      (escapeBytes? tag (cs.flatMap String.utf8EncodeChar)).map
        (String.utf8EncodeChar c ++ ·) := by
  have hopener : ¬['<', '/'] <+: c :: cs := by
    rintro ⟨rest, hrest⟩
    have hbegins : beginsEndTag [] (c :: cs) = true :=
      begins_end_tag_iff.mpr ⟨[], rest, hrest.symm, rfl⟩
    rw [h] at hbegins
    cases hbegins
  exact escape_bytes?_append (find?_encode_cons (by decide) hopener)

/-- A name is looked for behind an angle bracket and a slash as the rule of raw text has it. -/
theorem starts_with_name_encode (tag cs : List Char) :
    startsWithName (tag.flatMap String.utf8EncodeChar) (cs.flatMap String.utf8EncodeChar) =
      beginsEndTag (tag.map Char.toLower) ('<' :: '/' :: cs) := by
  rw [startsWithName, any_slice_to?_encode]
  show _ = decide (_ = _)
  rw [List.length_map]

/-- An angle bracket with a slash is written, with a backslash in it if the name follows, and the
scan goes on behind it. -/
theorem escape_bytes?_encode_opener (tag cs : List Char) :
    escapeBytes? (tag.flatMap String.utf8EncodeChar)
        (('<' :: '/' :: cs).flatMap String.utf8EncodeChar) =
      (escapeBytes? (tag.flatMap String.utf8EncodeChar)
        (cs.flatMap String.utf8EncodeChar)).map
          ((if beginsEndTag (tag.map Char.toLower) ('<' :: '/' :: cs) then ['<', '\\', '/']
            else ['<', '/']).flatMap String.utf8EncodeChar ++ ·) := by
  have hfind : find? (encode "</") (('<' :: '/' :: cs).flatMap String.utf8EncodeChar) = some 0 :=
    if_pos (List.isPrefixOf_iff_prefix.mpr ⟨cs.flatMap String.utf8EncodeChar, rfl⟩)
  have hafter : sliceFrom? (('<' :: '/' :: cs).flatMap String.utf8EncodeChar) (0 + 2) =
      some (cs.flatMap String.utf8EncodeChar) := slice_from?_encode ['<', '/'] cs
  have hfront : sliceTo? (('<' :: '/' :: cs).flatMap String.utf8EncodeChar) 0 = some [] :=
    slice_to?_encode [] ('<' :: '/' :: cs)
  rw [escape_bytes?_of_find?_eq_some hfind, hafter, hfront, Option.bind_some, Option.bind_some,
    ← starts_with_name_encode]
  cases startsWithName (tag.flatMap String.utf8EncodeChar) (cs.flatMap String.utf8EncodeChar) with
  | false => rfl
  | true => rfl

/-- The scan never fails on the bytes of a text. It puts a backslash into the end tags of the name,
in small or capital letters. -/
theorem escape_bytes?_encode (tag cs : List Char) :
    escapeBytes? (tag.flatMap String.utf8EncodeChar) (cs.flatMap String.utf8EncodeChar) =
      some ((backslashed (beginsEndTag (tag.map Char.toLower)) cs).flatMap
        String.utf8EncodeChar) := by
  -- From one angle bracket with a slash to the next, as end tags of any name are escaped.
  induction cs using escapeEndTags.induct with
  | case1 rest ih =>
      rw [escape_bytes?_encode_opener, ih, backslashed_opener, List.flatMap_append]
      rfl
  | case2 c rest hne ih =>
      have hbegins := begins_end_tag_nil_of_ne hne
      rw [escape_bytes?_encode_cons hbegins, ih, backslashed_cons hbegins, List.flatMap_cons]
      rfl
  | case3 => exact escape_bytes?_of_find?_eq_none rfl

/-- Escaping the end tags of a name in a text. -/
theorem escape_end_tag?_eq (tag source : String) :
    escapeEndTag? tag source =
      some (String.ofList
        (backslashed (beginsEndTag (tag.toList.map Char.toLower)) source.toList)) := by
  have hbytes : escapeBytes? (encode tag) (encode source) =
      some (encode (String.ofList
        (backslashed (beginsEndTag (tag.toList.map Char.toLower)) source.toList))) := by
    rw [encode, encode, encode, escape_bytes?_encode, String.toList_ofList]
  rw [escapeEndTag?, hbytes, Option.bind_eq_bind, Option.bind_some, decode_encode]
  rfl

/-- A name of letters has no angle bracket, in capital letters or in small ones. -/
theorem not_mem_map_to_lower {tag : List Char} (htag : tag.all Char.isAlpha = true) :
    '<' ∉ tag.map Char.toLower := by
  intro hmem
  obtain ⟨c, hc, hlower⟩ := List.mem_map.mp hmem
  have halpha : c.isAlpha = true := List.all_eq_true.mp htag c hc
  by_cases hupper : c.val ≥ 'A'.val ∧ c.val ≤ 'Z'.val
  · have hlow : 65 ≤ c.val.toNat := UInt32.le_iff_toNat_le.mp hupper.1
    have hcode := code_to_lower hupper
    rw [hlower] at hcode
    have hbracket : ('<' : Char).val.toNat = 60 := rfl
    omega
  · have hself : c.toLower = c := dif_neg hupper
    rw [← hself, hlower] at halpha
    cases halpha

/-- Escaping touches the end tags of a name and nothing else. For every text and every name of
ASCII letters it gives a result, so that no character is cut in two: the text with one backslash
between the angle bracket and the slash of each end tag of that name, whatever the case of its
letters. The result has no such end tag, and escaping it again changes nothing. -/
theorem end_tags_alone_are_escaped (tag source : String)
    (htag : tag.toList.all Char.isAlpha = true) :
    ∃ written, escapeEndTag? tag source = some written ∧
      written.toList = backslashed (beginsEndTag (tag.toList.map Char.toLower)) source.toList ∧
      IsFreeOf (tag.toList.map Char.toLower) written.toList ∧
      escapeEndTag? tag written = some written := by
  have hfree : IsFreeOf (tag.toList.map Char.toLower)
      (backslashed (beginsEndTag (tag.toList.map Char.toLower)) source.toList) :=
    is_free_of_backslashed (not_mem_map_to_lower htag)
  refine ⟨_, escape_end_tag?_eq tag source, String.toList_ofList, ?_, ?_⟩
  · rw [String.toList_ofList]
    exact hfree
  · rw [escape_end_tag?_eq, String.toList_ofList, backslashed_of_is_free_of hfree]

/-- Of four angle brackets with a slash only the second begins an end tag. Behind the third the name
would end inside a character, and behind the fourth after the end of the text. -/
theorem end_tags_alone_are_escaped_overlapping :
    "Style".toList.all Char.isAlpha = true ∧
      escapeEndTag? "Style" "</</STYLE></styl€</sty" = some "</<\\/STYLE></styl€</sty" ∧
      IsFreeOf "style".toList "</<\\/STYLE></styl€</sty".toList ∧
      escapeEndTag? "Style" "</<\\/STYLE></styl€</sty" = some "</<\\/STYLE></styl€</sty" := by
  obtain ⟨written, hwritten, htext, hfree, hagain⟩ :=
    end_tags_alone_are_escaped "Style" "</</STYLE></styl€</sty" (by decide)
  obtain rfl : written = "</<\\/STYLE></styl€</sty" :=
    String.toList_inj.mp (htext.trans (by decide))
  exact ⟨by decide, hwritten, hfree, hagain⟩

end Widgetry.Page
