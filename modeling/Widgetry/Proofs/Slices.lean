import Widgetry.Proofs.Utf8
import Widgetry.Text.Slice

/-!
# Slices of texts

The bytes of a text can be cut behind any of its characters: `is_boundary_encode`. Slices and
searches go on behind bytes that are passed over (`slice_to?_append`, `slice_from?_append`,
`find?_append`). Lowering the bytes of a text lowers its characters (`encode_map_to_lower`), so that
a slice as long as a name is that name up to case exactly if the text begins with its characters:
`any_slice_to?_encode`.
-/

namespace Widgetry.Text.Utf8

/-! ## Places -/

/-- What stands before a place does not matter for a cut there. -/
theorem is_boundary_append (front bytes : Bytes) (place : Nat) :
    isBoundary (front ++ bytes) (front.length + place) = isBoundary bytes place := by
  have hplace : (front.length + place == front.length + bytes.length) =
      (place == bytes.length) := by
    rw [Bool.eq_iff_iff, beq_iff_eq, beq_iff_eq]
    omega
  unfold isBoundary
  rw [List.drop_length_add_append, List.length_append, hplace]

/-- A slice up to a place behind some bytes begins with them. -/
theorem slice_to?_append (front bytes : Bytes) (place : Nat) :
    sliceTo? (front ++ bytes) (front.length + place) =
      (sliceTo? bytes place).map (front ++ ·) := by
  unfold sliceTo?
  rw [is_boundary_append, List.take_length_add_append]
  split <;> rfl

/-- A slice from a place behind some bytes has none of them. -/
theorem slice_from?_append (front bytes : Bytes) (place : Nat) :
    sliceFrom? (front ++ bytes) (front.length + place) = sliceFrom? bytes place := by
  unfold sliceFrom?
  rw [is_boundary_append, List.drop_length_add_append]

/-- A pattern is searched behind bytes in which it cannot begin. -/
theorem find?_append {first : UInt8} {pattern front : Bytes} (hfront : first ∉ front)
    (bytes : Bytes) :
    find? (first :: pattern) (front ++ bytes) =
      (find? (first :: pattern) bytes).map (front.length + ·) := by
  induction front with
  | nil => simp
  | cons b front ih =>
      rw [List.mem_cons, not_or] at hfront
      have hstart : (first :: pattern).isPrefixOf (b :: (front ++ bytes)) = false := by
        rw [List.isPrefixOf, beq_eq_false_iff_ne.mpr hfront.1, Bool.false_and]
      rw [List.cons_append, find?, hstart, if_neg Bool.false_ne_true, ih hfront.2,
        Option.map_map, List.length_cons]
      congr 1
      funext place
      show front.length + place + 1 = front.length + 1 + place
      omega

/-! ## The bytes of characters -/

/-- A text can be cut at its beginning. -/
theorem is_boundary_encode_zero (cs : List Char) :
    isBoundary (cs.flatMap String.utf8EncodeChar) 0 = true := by
  cases cs with
  | nil => rfl
  | cons c cs =>
      obtain ⟨lead, tail, hbytes, hlead⟩ := exists_encode_char c
      rw [List.flatMap_cons, hbytes]
      show (!isContinuation lead) = true
      rw [hlead]
      rfl

/-- A text can be cut behind any of its characters. -/
theorem is_boundary_encode (cs ds : List Char) :
    isBoundary ((cs ++ ds).flatMap String.utf8EncodeChar)
      (cs.flatMap String.utf8EncodeChar).length = true := by
  rw [List.flatMap_append]
  exact (is_boundary_append _ _ 0).trans (is_boundary_encode_zero ds)

/-- The slice up to such a place. -/
theorem slice_to?_encode (cs ds : List Char) :
    sliceTo? ((cs ++ ds).flatMap String.utf8EncodeChar) (cs.flatMap String.utf8EncodeChar).length =
      some (cs.flatMap String.utf8EncodeChar) := by
  rw [sliceTo?, if_pos (is_boundary_encode cs ds), List.flatMap_append, List.take_left]

/-- The slice from such a place on. -/
theorem slice_from?_encode (cs ds : List Char) :
    sliceFrom? ((cs ++ ds).flatMap String.utf8EncodeChar)
      (cs.flatMap String.utf8EncodeChar).length = some (ds.flatMap String.utf8EncodeChar) := by
  rw [sliceFrom?, if_pos (is_boundary_encode cs ds), List.flatMap_append, List.drop_left]

/-- A pattern that begins with an ASCII character is searched one character after the other, since
it never begins inside a character. -/
theorem find?_encode_cons {first c : Char} {pattern cs : List Char} (hfirst : first.val.toNat < 128)
    (h : ¬first :: pattern <+: c :: cs) :
    find? ((first :: pattern).flatMap String.utf8EncodeChar)
        ((c :: cs).flatMap String.utf8EncodeChar) =
      (find? ((first :: pattern).flatMap String.utf8EncodeChar)
        (cs.flatMap String.utf8EncodeChar)).map ((String.utf8EncodeChar c).length + ·) := by
  have hbyte := encode_char_of_ascii hfirst
  by_cases hc : c = first
  · -- The pattern begins here, but does not go on.
    subst hc
    have hstart : ¬(UInt8.ofNat c.val.toNat :: pattern.flatMap String.utf8EncodeChar).isPrefixOf
        (UInt8.ofNat c.val.toNat :: cs.flatMap String.utf8EncodeChar) = true := by
      rw [← prefix_encode_iff, List.flatMap_cons, List.flatMap_cons, hbyte] at h
      rw [List.isPrefixOf_iff_prefix]
      exact h
    rw [List.flatMap_cons, List.flatMap_cons, hbyte, List.singleton_append, List.singleton_append,
      find?, if_neg hstart]
    congr 1
    funext place
    exact Nat.add_comm place 1
  · have hfront : UInt8.ofNat first.val.toNat ∉ String.utf8EncodeChar c := by
      intro hmem
      have hnumber := to_nat_byte (n := first.val.toNat) (by omega)
      have hcode := code_of_mem_encode_char hmem (by omega)
      exact hc (Char.ext (UInt32.toNat_inj.mp (hcode.trans hnumber)))
    rw [List.flatMap_cons, List.flatMap_cons, hbyte, List.singleton_append, find?_append hfront]

/-- The code of a capital letter that is lowered. -/
theorem code_to_lower {c : Char} (hupper : c.val ≥ 'A'.val ∧ c.val ≤ 'Z'.val) :
    c.toLower.val.toNat = c.val.toNat + 32 := by
  have hhigh : c.val.toNat ≤ 90 := UInt32.le_iff_toNat_le.mp hupper.2
  rw [show c.toLower = _ from dif_pos hupper]
  show (c.val.toNat + 32) % 4294967296 = _
  omega

/-- Lowering the bytes of a character lowers the character. -/
theorem encode_char_to_lower (c : Char) :
    String.utf8EncodeChar c.toLower = (String.utf8EncodeChar c).map lowerByte := by
  by_cases hupper : c.val ≥ 'A'.val ∧ c.val ≤ 'Z'.val
  · have hcode : 65 ≤ c.val.toNat ∧ c.val.toNat ≤ 90 :=
      ⟨UInt32.le_iff_toNat_le.mp hupper.1, UInt32.le_iff_toNat_le.mp hupper.2⟩
    have hlower := code_to_lower hupper
    have hbetween : (decide ((0x41 : UInt8) ≤ UInt8.ofNat c.val.toNat) &&
        decide (UInt8.ofNat c.val.toNat ≤ 0x5A)) = true := (between_iff (by omega)).mpr hcode
    rw [encode_char_of_ascii (c := c) (by omega), encode_char_of_ascii (c := c.toLower) (by omega),
      hlower, List.map_singleton, lowerByte, if_pos hbetween, UInt8.ofNat_add]
    rfl
  · have hself : c.toLower = c := dif_neg hupper
    have hbyte : ∀ b ∈ String.utf8EncodeChar c, lowerByte b = id b := by
      intro b hb
      refine if_neg fun hbetween => hupper ?_
      rw [Bool.and_eq_true, decide_eq_true_eq, decide_eq_true_eq, UInt8.le_iff_toNat_le,
        UInt8.le_iff_toNat_le] at hbetween
      have hhigh : b.toNat ≤ 90 := hbetween.2
      have hcode := code_of_mem_encode_char hb (by omega)
      exact ⟨UInt32.le_iff_toNat_le.mpr (hcode ▸ hbetween.1),
        UInt32.le_iff_toNat_le.mpr (hcode ▸ hbetween.2)⟩
    rw [hself, List.map_congr_left hbyte, List.map_id]

/-- Lowering the bytes of a text lowers its characters. -/
theorem encode_map_to_lower (cs : List Char) :
    (cs.map Char.toLower).flatMap String.utf8EncodeChar =
      (cs.flatMap String.utf8EncodeChar).map lowerByte := by
  rw [List.flatMap_map, List.map_flatMap]
  congr 1
  funext c
  exact encode_char_to_lower c

/-! ## Names -/

/-- A text begins with a name, up to the case of letters, exactly if a slice as long as the name has
the same bytes up to case. There may be no such slice, if the text is too short or if the name would
end inside a character. -/
theorem any_slice_to?_encode (name cs : List Char) :
    (sliceTo? (cs.flatMap String.utf8EncodeChar) (name.flatMap String.utf8EncodeChar).length).any
        (equalFolded · (name.flatMap String.utf8EncodeChar)) =
      decide ((cs.take name.length).map Char.toLower = name.map Char.toLower) := by
  rw [Bool.eq_iff_iff, decide_eq_true_iff, Option.any_eq_true]
  constructor
  · rintro ⟨start, hstart, hequal⟩
    have htake : start = (cs.flatMap String.utf8EncodeChar).take _ :=
      (Option.some.inj (Option.ite_none_right_eq_some.mp hstart).2).symm
    rw [equalFolded, beq_iff_eq, htake, List.map_take, ← encode_map_to_lower,
      ← encode_map_to_lower] at hequal
    have hprefix : name.map Char.toLower <+: cs.map Char.toLower :=
      prefix_encode_iff.mp (hequal ▸ List.take_prefix _ _)
    rw [List.prefix_iff_eq_take, List.length_map] at hprefix
    rw [List.map_take, ← hprefix]
  · intro hname
    have hlength : ((cs.take name.length).flatMap String.utf8EncodeChar).length =
        (name.flatMap String.utf8EncodeChar).length := by
      rw [← List.length_map lowerByte, ← encode_map_to_lower, hname, encode_map_to_lower,
        List.length_map]
    have hslice := slice_to?_encode (cs.take name.length) (cs.drop name.length)
    rw [List.take_append_drop, hlength] at hslice
    refine ⟨_, hslice, ?_⟩
    rw [equalFolded, beq_iff_eq, ← encode_map_to_lower, hname, encode_map_to_lower]

end Widgetry.Text.Utf8
