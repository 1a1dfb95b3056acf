import Widgetry.Proofs.Text
import Widgetry.Text.Utf8

/-!
# Texts as bytes

A text is read back from its bytes: `decode_encode`. A text begins with another exactly if its bytes
do: `prefix_encode_iff`. A byte below 128 is a character of its own, so that the bytes of a text are
cut at slashes where the text is: `pieces_encode`. Texts in the order of their characters are in the
order of their bytes: `encode_lt_encode`.
-/

namespace Widgetry.Text.Utf8

/-! ## Bytes as numbers -/

variable {n : Nat} {b : UInt8}

theorem to_nat_byte (h : n < 256) : (UInt8.ofNat n).toNat = n :=
  UInt8.toNat_ofNat_of_lt' h

theorem byte_lt_iff (h : n < 256) : UInt8.ofNat n < b ↔ n < b.toNat := by
  rw [UInt8.lt_iff_toNat_lt, to_nat_byte h]

theorem byte_le_iff (h : n < 256) : UInt8.ofNat n ≤ b ↔ n ≤ b.toNat := by
  rw [UInt8.le_iff_toNat_le, to_nat_byte h]

theorem le_byte_iff (h : n < 256) : b ≤ UInt8.ofNat n ↔ b.toNat ≤ n := by
  rw [UInt8.le_iff_toNat_le, to_nat_byte h]

theorem byte_eq_iff (h : n < 256) : UInt8.ofNat n = b ↔ n = b.toNat := by
  rw [← UInt8.toNat_inj, to_nat_byte h]

/-- A byte lies between two others. -/
theorem between_iff (h : n < 256) {low high : UInt8} :
    (decide (low ≤ UInt8.ofNat n) && decide (UInt8.ofNat n ≤ high)) = true ↔
      low.toNat ≤ n ∧ n ≤ high.toNat := by
  rw [Bool.and_eq_true, decide_eq_true_eq, decide_eq_true_eq, le_byte_iff h, byte_le_iff h]

/-- The bytes after the first one of a character continue it. -/
theorem is_continuation_byte (n : Nat) :
    isContinuation (UInt8.ofNat (n % 64 + 128)) = true := by
  unfold isContinuation
  rw [between_iff (by omega)]
  show 128 ≤ _ ∧ _ ≤ 191
  omega

/-- They carry six bits. -/
theorem payload_byte (n : Nat) : payload (UInt8.ofNat (n % 64 + 128)) = n % 64 := by
  unfold payload
  rw [to_nat_byte (by omega)]
  omega

/-- The second byte of a character of three or four bytes is in the range that its first byte
leaves. -/
theorem follows_byte {m : Nat} (hn : n < 256) (hlow : 128 ≤ m) (hhigh : m ≤ 191)
    (hoverlong : n = 224 → 160 ≤ m) (hsurrogate : n = 237 → m ≤ 159)
    (hoverlong' : n = 240 → 144 ≤ m) (hlast : n = 244 → m ≤ 143) :
    follows (UInt8.ofNat n) (UInt8.ofNat m) = true := by
  have hm : m < 256 := by omega
  unfold follows followers
  simp only [byte_eq_iff hn]
  split
  · rename_i hlead
    rw [between_iff hm]
    exact ⟨hoverlong hlead, hhigh⟩
  split
  · rename_i hlead
    rw [between_iff hm]
    exact ⟨hlow, hsurrogate hlead⟩
  split
  · rename_i hlead
    rw [between_iff hm]
    exact ⟨hoverlong' hlead, hhigh⟩
  split
  · rename_i hlead
    rw [between_iff hm]
    exact ⟨hlow, hlast hlead⟩
  · rw [between_iff hm]
    exact ⟨hlow, hhigh⟩

/-! ## Characters -/

variable {v : Nat}

/-- The first byte of a character says how many there are. -/
theorem next_eq (h : n < 256) (rest : Bytes) :
    next (UInt8.ofNat n :: rest) =
      if n < 128 then .character (Char.ofNat n) 1
      else if 194 ≤ n ∧ n ≤ 223 then next2 (UInt8.ofNat n) rest
      else if 224 ≤ n ∧ n ≤ 239 then next3 (UInt8.ofNat n) rest
      else if 240 ≤ n ∧ n ≤ 244 then next4 (UInt8.ofNat n) rest
      else .invalid 1 := by
  rw [next, to_nat_byte h]
  simp only [byte_lt_iff h, between_iff h]
  rfl

/-- A character of one byte is read. -/
theorem next_one (h : v ≤ 127) (rest : Bytes) :
    next (UInt8.ofNat v :: rest) = .character (Char.ofNat v) 1 := by
  rw [next_eq (by omega), if_pos (by omega)]

/-- A character of two bytes is read. -/
theorem next_two (h : 127 < v) (h' : v ≤ 2047) (rest : Bytes) :
    next (UInt8.ofNat (v / 64 % 32 + 192) :: UInt8.ofNat (v % 64 + 128) :: rest) =
      .character (Char.ofNat v) 2 := by
  have hbyte : v / 64 % 32 + 192 < 256 := by omega
  have hvalue : (v / 64 % 32 + 192) % 32 * 64 + v % 64 = v := by omega
  rw [next_eq hbyte, if_neg (by omega), if_pos (by omega), next2,
    if_pos (is_continuation_byte v), payload_byte, to_nat_byte hbyte, hvalue]

/-- A character of three bytes is read, unless it is a surrogate. -/
theorem next_three (h : 2047 < v) (h' : v ≤ 65535) (hvalid : v < 55296 ∨ 57343 < v)
    (rest : Bytes) :
    next (UInt8.ofNat (v / 4096 % 16 + 224) :: UInt8.ofNat (v / 64 % 64 + 128) ::
      UInt8.ofNat (v % 64 + 128) :: rest) = .character (Char.ofNat v) 3 := by
  have hbyte : v / 4096 % 16 + 224 < 256 := by omega
  have hfollows : follows (UInt8.ofNat (v / 4096 % 16 + 224))
      (UInt8.ofNat (v / 64 % 64 + 128)) = true := by
    apply follows_byte hbyte <;> omega
  have hvalue : (v / 4096 % 16 + 224) % 16 * 4096 + v / 64 % 64 * 64 + v % 64 = v := by omega
  rw [next_eq hbyte, if_neg (by omega), if_neg (by omega), if_pos (by omega), next3, hfollows,
    Bool.not_true, if_neg Bool.false_ne_true, if_pos (is_continuation_byte v), payload_byte,
    payload_byte, to_nat_byte hbyte, hvalue]

/-- A character of four bytes is read. -/
theorem next_four (h : 65535 < v) (h' : v < 1114112) (rest : Bytes) :
    next (UInt8.ofNat (v / 262144 % 8 + 240) :: UInt8.ofNat (v / 4096 % 64 + 128) ::
      UInt8.ofNat (v / 64 % 64 + 128) :: UInt8.ofNat (v % 64 + 128) :: rest) =
      .character (Char.ofNat v) 4 := by
  have hbyte : v / 262144 % 8 + 240 < 256 := by omega
  have hfollows : follows (UInt8.ofNat (v / 262144 % 8 + 240))
      (UInt8.ofNat (v / 4096 % 64 + 128)) = true := by
    apply follows_byte hbyte <;> omega
  have hvalue : (v / 262144 % 8 + 240) % 8 * 262144 + v / 4096 % 64 * 4096 + v / 64 % 64 * 64 +
      v % 64 = v := by omega
  rw [next_eq hbyte, if_neg (by omega), if_neg (by omega), if_neg (by omega), if_pos (by omega),
    next4, hfollows, Bool.not_true, if_neg Bool.false_ne_true, is_continuation_byte, Bool.not_true,
    if_neg Bool.false_ne_true, if_pos (is_continuation_byte v), payload_byte, payload_byte,
    payload_byte, to_nat_byte hbyte, hvalue]

/-- A character is read off its bytes. -/
theorem next_encode_char (c : Char) (rest : Bytes) :
    next (String.utf8EncodeChar c ++ rest) =
      .character c (String.utf8EncodeChar c).length := by
  have hvalid : c.val.toNat < 55296 ∨ 57343 < c.val.toNat ∧ c.val.toNat < 1114112 := c.valid
  have hchar : Char.ofNat c.val.toNat = c := Char.ofNat_toNat c
  unfold String.utf8EncodeChar
  dsimp only
  split
  · rename_i h
    exact (next_one h rest).trans (by rw [hchar]; rfl)
  split
  · rename_i h h'
    exact (next_two (by omega) h' rest).trans (by rw [hchar]; rfl)
  split
  · rename_i h h' h''
    exact (next_three (by omega) h'' (by omega) rest).trans (by rw [hchar]; rfl)
  · exact (next_four (by omega) (by omega) rest).trans (by rw [hchar]; rfl)

/-! ## Texts -/

/-- A character has at least one byte. -/
theorem length_encode_char_pos (c : Char) : 0 < (String.utf8EncodeChar c).length := by
  rw [String.length_utf8EncodeChar]
  exact c.utf8Size_pos

/-- The characters of a text are read off its bytes. -/
theorem decode_from_encode (cs : List Char) (fuel index : Nat)
    (hfuel : (cs.flatMap String.utf8EncodeChar).length ≤ fuel) :
    decodeFrom fuel index (cs.flatMap String.utf8EncodeChar) = .ok cs := by
  induction cs generalizing fuel index with
  | nil => cases fuel <;> rfl
  | cons c cs ih =>
      rw [List.flatMap_cons] at hfuel ⊢
      rw [List.length_append] at hfuel
      have hpos := length_encode_char_pos c
      cases fuel with
      | zero => omega
      | succ fuel =>
          rw [decodeFrom, next_encode_char]
          dsimp only
          rw [List.drop_left, ih fuel _ (by omega)]
          rfl

/-- A text is read back from its bytes. -/
theorem decode_encode (s : String) : decode (encode s) = .ok s := by
  unfold decode encode
  rw [decode_from_encode _ _ _ (Nat.le_refl _)]
  exact congrArg Except.ok (String.ofList_toList)

/-- Nor is a fault found by a reader that goes on after faults. -/
theorem lenient_from_encode (cs : List Char) (fuel : Nat)
    (hfuel : (cs.flatMap String.utf8EncodeChar).length ≤ fuel) :
    lenientFrom fuel (cs.flatMap String.utf8EncodeChar) = cs.map some := by
  induction cs generalizing fuel with
  | nil => cases fuel <;> rfl
  | cons c cs ih =>
      rw [List.flatMap_cons] at hfuel ⊢
      rw [List.length_append] at hfuel
      have hpos := length_encode_char_pos c
      cases fuel with
      | zero => omega
      | succ fuel =>
          rw [lenientFrom, next_encode_char]
          dsimp only
          rw [List.drop_left, ih fuel (by omega), List.map_cons]

/-- The bytes of a text all belong to its characters. -/
theorem lenient_encode (s : String) : lenient (encode s) = s.toList.map some :=
  lenient_from_encode _ _ (Nat.le_refl _)

/-! ## Where a character begins -/

/-- The bytes of a character tell where they end. -/
theorem encode_char_append_inj {c d : Char} {front back : Bytes}
    (h : String.utf8EncodeChar c ++ front = String.utf8EncodeChar d ++ back) :
    c = d ∧ front = back := by
  have hnext : Step.character c (String.utf8EncodeChar c).length =
      .character d (String.utf8EncodeChar d).length := by
    rw [← next_encode_char c front, h, next_encode_char]
  obtain ⟨rfl, _⟩ := Step.character.inj hnext
  exact ⟨rfl, List.append_cancel_left h⟩

/-- A text begins with another exactly if its bytes do. -/
theorem prefix_encode_iff {cs ds : List Char} :
    cs.flatMap String.utf8EncodeChar <+: ds.flatMap String.utf8EncodeChar ↔ cs <+: ds := by
  constructor
  · rintro ⟨bytes, hbytes⟩
    induction cs generalizing ds with
    | nil => exact List.nil_prefix
    | cons c cs ih =>
        rw [List.flatMap_cons, List.append_assoc] at hbytes
        cases ds with
        | nil =>
            have hlength := congrArg List.length hbytes
            have hpos := length_encode_char_pos c
            rw [List.length_append, List.flatMap_nil, List.length_nil] at hlength
            omega
        | cons d ds =>
            rw [List.flatMap_cons] at hbytes
            obtain ⟨rfl, hrest⟩ := encode_char_append_inj hbytes
            exact List.cons_prefix_cons.mpr ⟨rfl, ih hrest⟩
  · rintro ⟨rest, rfl⟩
    exact ⟨rest.flatMap String.utf8EncodeChar, List.flatMap_append.symm⟩

/-- The first byte of a character continues no other. -/
theorem exists_encode_char (c : Char) :
    ∃ lead tail, String.utf8EncodeChar c = lead :: tail ∧ isContinuation lead = false := by
  obtain ⟨lead, tail, hbytes⟩ := List.exists_cons_of_length_pos (length_encode_char_pos c)
  refine ⟨lead, tail, hbytes, ?_⟩
  rw [Bool.eq_false_iff]
  intro hlead
  -- No character is read where a continuation byte stands.
  have hread : next (lead :: tail) = .character c (String.utf8EncodeChar c).length := by
    rw [← hbytes, ← List.append_nil (String.utf8EncodeChar c), next_encode_char,
      List.append_nil]
  simp only [isContinuation, Bool.and_eq_true, decide_eq_true_eq, UInt8.le_iff_toNat_le] at hlead
  simp only [next, Bool.and_eq_true, decide_eq_true_eq, UInt8.le_iff_toNat_le,
    UInt8.lt_iff_toNat_lt] at hread
  simp only [UInt8.reduceToNat] at hlead hread
  rw [if_neg (by omega), if_neg (by omega), if_neg (by omega), if_neg (by omega)] at hread
  cases hread

/-- An ASCII character is a byte of its own. -/
theorem encode_char_of_ascii {c : Char} (h : c.val.toNat < 128) :
    String.utf8EncodeChar c = [UInt8.ofNat c.val.toNat] :=
  if_pos (Nat.le_of_lt_succ h)

/-- A byte below 128 is a character of its own. -/
theorem code_of_mem_encode_char {c : Char} {b : UInt8} (hb : b ∈ String.utf8EncodeChar c)
    (hsmall : b.toNat < 128) : c.val.toNat = b.toNat := by
  unfold String.utf8EncodeChar at hb
  dsimp only at hb
  split at hb
  · exact (byte_eq_iff (by omega)).mp (List.mem_singleton.mp hb).symm
  -- The bytes of all other characters are numbers from 128 on.
  have hlarge : ∀ m, 128 ≤ m → m < 256 → b ≠ UInt8.ofNat m := by
    intro m hlow hhigh heq
    have hnumber : m = b.toNat := (byte_eq_iff hhigh).mp heq.symm
    omega
  split at hb
  · simp only [List.mem_cons, List.not_mem_nil, or_false] at hb
    rcases hb with hb | hb <;> exact absurd hb (hlarge _ (by omega) (by omega))
  split at hb
  · simp only [List.mem_cons, List.not_mem_nil, or_false] at hb
    rcases hb with hb | hb | hb <;> exact absurd hb (hlarge _ (by omega) (by omega))
  · simp only [List.mem_cons, List.not_mem_nil, or_false] at hb
    rcases hb with hb | hb | hb | hb <;> exact absurd hb (hlarge _ (by omega) (by omega))

/-! ## Cutting at slashes -/

/-- No byte of a character is that of a slash, unless the character is a slash. -/
theorem not_slash_of_mem_encode_char {c : Char} (h : c ≠ '/') {b : UInt8}
    (hb : b ∈ String.utf8EncodeChar c) : (b == (0x2F : UInt8)) = false := by
  rw [beq_eq_false_iff_ne]
  rintro rfl
  exact h (Char.ext (UInt32.toNat_inj.mp (code_of_mem_encode_char hb (by decide))))

/-- The bytes of a text are cut at slashes where the text is. -/
theorem pieces_encode (cs : List Char) :
    pieces (· == (0x2F : UInt8)) (cs.flatMap String.utf8EncodeChar) =
      (pieces (· == '/') cs).map (List.flatMap String.utf8EncodeChar) := by
  induction cs with
  | nil => rfl
  | cons c cs ih =>
      rw [List.flatMap_cons]
      by_cases hslash : c = '/'
      · subst hslash
        have hbyte : String.utf8EncodeChar '/' = [0x2F] := by decide
        rw [hbyte, List.singleton_append, pieces, pieces, ih]
        rfl
      · rw [pieces_append (fun b hb => not_slash_of_mem_encode_char hslash hb), ih, pieces,
          if_neg (by simpa using hslash)]
        cases hpieces : pieces (· == '/') cs with
        | nil =>
            rw [pieces_eq_split_on_p] at hpieces
            exact absurd hpieces (List.splitOnP_ne_nil _ cs)
        | cons piece more => rfl

/-! ## Order -/

/-- A smaller byte puts a list of bytes first, whatever follows. -/
theorem byte_cons_lt {n m : Nat} {front back : Bytes} (hm : m < 256) (h : n < m) :
    UInt8.ofNat n :: front < UInt8.ofNat m :: back := by
  refine List.cons_lt_cons_iff.mpr (.inl ?_)
  rw [byte_lt_iff (by omega), to_nat_byte hm]
  exact h

/-- Of equal bytes the following ones count. -/
theorem byte_cons_lt_cons {n m : Nat} {front back : Bytes} (hm : m < 256)
    (h : n ≤ m) (hrest : n = m → front < back) :
    UInt8.ofNat n :: front < UInt8.ofNat m :: back := by
  rcases Nat.lt_or_eq_of_le h with hlt | rfl
  · exact byte_cons_lt hm hlt
  · exact List.cons_lt_cons_iff.mpr (.inr ⟨rfl, hrest rfl⟩)

/-- The bytes of a character are in order before those of any greater one. -/
theorem encode_char_append_lt {c d : Char} (h : c < d) (front back : Bytes) :
    String.utf8EncodeChar c ++ front < String.utf8EncodeChar d ++ back := by
  have hlt : c.val.toNat < d.val.toNat := UInt32.lt_iff_toNat_lt.mp (Char.lt_def.mp h)
  have hvalid : d.val.toNat < 1114112 := by
    have hd : d.val.toNat < 55296 ∨ 57343 < d.val.toNat ∧ d.val.toNat < 1114112 := d.valid
    omega
  unfold String.utf8EncodeChar
  dsimp only
  generalize c.val.toNat = n at hlt ⊢
  generalize d.val.toNat = m at hlt hvalid ⊢
  -- A shorter character has the smaller first byte. The bytes of equally long ones are the digits
  -- of their numbers.
  split
  · split
    · exact byte_cons_lt (by omega) hlt
    split
    · exact byte_cons_lt (by omega) (by omega)
    split <;> exact byte_cons_lt (by omega) (by omega)
  split
  · rw [if_neg (by omega)]
    split
    · exact byte_cons_lt_cons (by omega) (by omega) fun _ => byte_cons_lt (by omega) (by omega)
    split <;> exact byte_cons_lt (by omega) (by omega)
  split
  · rw [if_neg (by omega), if_neg (by omega)]
    split
    · exact byte_cons_lt_cons (by omega) (by omega) fun _ =>
        byte_cons_lt_cons (by omega) (by omega) fun _ => byte_cons_lt (by omega) (by omega)
    · exact byte_cons_lt (by omega) (by omega)
  · rw [if_neg (by omega), if_neg (by omega), if_neg (by omega)]
    exact byte_cons_lt_cons (by omega) (by omega) fun _ =>
      byte_cons_lt_cons (by omega) (by omega) fun _ =>
        byte_cons_lt_cons (by omega) (by omega) fun _ => byte_cons_lt (by omega) (by omega)

/-- The bytes of characters are in the order of the characters. -/
theorem flat_map_encode_char_lt {cs ds : List Char} (h : cs < ds) :
    cs.flatMap String.utf8EncodeChar < ds.flatMap String.utf8EncodeChar := by
  induction h with
  | @nil d ds =>
      obtain ⟨b, bytes, hbytes⟩ := List.exists_cons_of_length_pos (length_encode_char_pos d)
      rw [List.flatMap_nil, List.flatMap_cons, hbytes]
      exact List.nil_lt_cons b _
  | rel hlt =>
      rw [List.flatMap_cons, List.flatMap_cons]
      exact encode_char_append_lt hlt _ _
  | cons _ ih =>
      rw [List.flatMap_cons, List.flatMap_cons]
      exact List.append_left_lt ih

/-- The bytes of texts are in the order of the texts. -/
theorem encode_lt_encode {s t : String} (h : s < t) : encode s < encode t :=
  flat_map_encode_char_lt h

end Widgetry.Text.Utf8
