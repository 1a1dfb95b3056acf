import Widgetry.Json.Printer
import Widgetry.Json.Reader
import Widgetry.Proofs.Numerals
import Widgetry.Proofs.Ordered
import Widgetry.Proofs.Utf8

/-!
# Compact texts are read back

The compact text of a value is read as the data of this value, if no number in it is a float, every
integer fits into 64 bits with or without a sign, and no more containers are nested than the reader
opens. Strings are read back character by character (`spells_escape_char`), and integers by the
digits of their numerals. For each way in which the reader goes on there is a lemma of its own, such
as `items?_more`, so that the induction over the value (`value?_chars`) follows the printer.
`scan_text?_compact` and `scan_bytes?_compact` are about whole texts.
-/

namespace Widgetry.Json

/-! ## Values that are read back -/

mutual

/-- How many containers are open around the innermost part of a value. -/
def depth : Json → Nat
  | .array items => itemsDepth items + 1
  | .object members => membersDepth members + 1
  | _ => 0

/-- How many containers are open around the innermost part of some values. -/
def itemsDepth : List Json → Nat
  | [] => 0
  | item :: rest => max (depth item) (itemsDepth rest)

/-- How many containers are open around the innermost part of the members of an object. -/
def membersDepth : List (String × Json) → Nat
  | [] => 0
  | (_, item) :: rest => max (depth item) (membersDepth rest)

end

mutual

/-- All numbers in a value are integers from `-2 ^ 63` to `2 ^ 64 - 1`. -/
def IsIntegral : Json → Prop
  | .integer i => -(Nat.pow 2 63 : Nat) ≤ i ∧ i < (Nat.pow 2 64 : Nat)
  | .float _ => False
  | .array items => AreIntegral items
  | .object members => MembersAreIntegral members
  | _ => True

/-- All numbers in some values are such integers. -/
def AreIntegral : List Json → Prop
  | [] => True
  | item :: rest => IsIntegral item ∧ AreIntegral rest

/-- All numbers in the members of an object are such integers. -/
def MembersAreIntegral : List (String × Json) → Prop
  | [] => True
  | (_, item) :: rest => IsIntegral item ∧ MembersAreIntegral rest

end

/-- The characters of a text as input of the reader. -/
def input (cs : List Char) : Input := cs.map some

@[simp] theorem input_cons (c : Char) (cs : List Char) : input (c :: cs) = some c :: input cs := rfl

@[simp] theorem input_append (cs ds : List Char) : input (cs ++ ds) = input cs ++ input ds :=
  List.map_append

/-- Nothing follows, or the sign after a value in a container does. -/
def EndsValue (rest : Input) : Prop :=
  ∀ x ∈ rest.head?, x = some ',' ∨ x = some ']' ∨ x = some '}'

/-! ## Strings -/

/-- A hexadecimal digit is read back. -/
theorem hex_value?_digit {n : Nat} (hn : n < 16) : hexValue? (Text.hexDigit n) = some n := by
  have hall : ∀ m ∈ List.range 16, decide (hexValue? (Text.hexDigit m) = some m) = true :=
    List.all_eq_true.mp (by decide)
  exact of_decide_eq_true (hall n (List.mem_range.mpr hn))

/-- A text in a string literal is read as one element, which stands for a character. -/
def Spells (text : List Char) (c : Char) : Prop :=
  ∃ piece, (∀ rest, pieces? (input text ++ rest) =
      (pieces? rest).map (Prod.map (piece :: ·) id)) ∧
    ∀ pieces, assemble? (piece :: pieces) = (assemble? pieces).map (c :: ·)

/-- A letter after a backslash spells the character that it stands for. -/
theorem spells_letter {letter c : Char} (hunit : letter ≠ 'u') (hletter : escape? letter = some c) :
    Spells ['\\', letter] c := by
  refine ⟨.char c, fun rest => ?_, fun _ => rfl⟩
  show pieces? (some '\\' :: some letter :: rest) = _
  rw [pieces?, hletter]
  · cases pieces? rest <;> rfl
  · exact fun _ _ _ _ _ _ heq => hunit heq

/-- A character that needs no escape spells itself. -/
theorem spells_plain {c : Char} (hquote : c ≠ '"') (hbackslash : c ≠ '\\')
    (hcontrol : ¬ c.toNat < 0x20) : Spells [c] c := by
  refine ⟨.char c, fun rest => ?_, fun _ => rfl⟩
  show pieces? (some c :: rest) = _
  rw [pieces?, if_neg hcontrol]
  · cases pieces? rest <;> rfl
  · exact hquote
  · exact fun _ _ _ _ _ _ heq => hbackslash heq
  · exact fun _ _ _ heq => hbackslash heq
  · exact hbackslash

/-- A unit that is no half of a surrogate pair stands for a character, whatever follows. -/
theorem assemble?_unit {n : Nat} (hn : n < 0xD800) (pieces : List Piece) :
    assemble? (.unit n :: pieces) = (assemble? pieces).map (Char.ofNat n :: ·) := by
  have hhigh : isHigh n = false := by
    unfold isHigh
    rw [decide_eq_false (by omega), Bool.false_and]
  have hlow : isLow n = false := by
    unfold isLow
    rw [decide_eq_false (by omega), Bool.false_and]
  have halone : (if isHigh n || isLow n then none
      else (assemble? pieces).map (Char.ofNat n :: ·)) =
        (assemble? pieces).map (Char.ofNat n :: ·) := by
    rw [hhigh, hlow]
    rfl
  cases pieces with
  | nil => exact halone
  | cons piece pieces =>
      cases piece with
      | char _ => exact halone
      | stray => exact halone
      | unit m =>
          rw [assemble?, hhigh, hlow]
          rfl

/-- Four hexadecimal digits spell the character of their value, unless it is half a pair. -/
theorem spells_unit {a b c d : Char} {n : Nat} (hunit : hex4? a b c d = some n) (hn : n < 0xD800) :
    Spells ['\\', 'u', a, b, c, d] (Char.ofNat n) := by
  refine ⟨.unit n, fun rest => ?_, assemble?_unit hn⟩
  show pieces? (some '\\' :: some 'u' :: some a :: some b :: some c :: some d :: rest) = _
  rw [pieces?, hunit]
  cases pieces? rest <;> rfl

/-- An escaped character is spelled by its escape. -/
theorem spells_escape_char (c : Char) : Spells (escapeChar c) c := by
  have hcode {n : Nat} (hn : c.toNat = n) : c = Char.ofNat n := hn ▸ (Char.ofNat_toNat c).symm
  have hletter {letter d : Char} (hunit : letter ≠ 'u') (hd : escape? letter = some d)
      (hc : c = d) : Spells ['\\', letter] c := hc ▸ spells_letter hunit hd
  unfold escapeChar
  split
  · exact hletter (by decide) rfl ‹_›
  split
  · exact hletter (by decide) rfl ‹_›
  split
  · exact hletter (by decide) rfl ‹_›
  split
  · exact hletter (by decide) rfl ‹_›
  split
  · exact hletter (by decide) rfl ‹_›
  split
  · exact hletter (by decide) rfl (hcode ‹_›)
  split
  · exact hletter (by decide) rfl (hcode ‹_›)
  split
  · -- Control characters are below 32, and the first two of their four digits are zeros.
    rename_i hcontrol
    have hzero : hexValue? '0' = some 0 := rfl
    have hunit : hex4? '0' '0' (Text.hexDigit (c.toNat / 16)) (Text.hexDigit (c.toNat % 16)) =
        some c.toNat := by
      rw [hex4?, hzero, hex_value?_digit (by omega), hex_value?_digit (by omega)]
      show some (((0 * 16 + 0) * 16 + c.toNat / 16) * 16 + c.toNat % 16) = _
      congr 1
      omega
    have hspells := spells_unit hunit (by omega)
    rwa [Char.ofNat_toNat] at hspells
  · exact spells_plain ‹_› ‹_› ‹_›

/-- A string literal is read as elements that stand for its characters. -/
theorem exists_pieces (cs : List Char) (rest : Input) :
    ∃ pieces, pieces? (input (cs.flatMap escapeChar) ++ some '"' :: rest) = some (pieces, rest) ∧
      assemble? pieces = some cs := by
  induction cs with
  | nil => exact ⟨[], rfl, rfl⟩
  | cons c cs ih =>
      obtain ⟨piece, hread, hstands⟩ := spells_escape_char c
      obtain ⟨pieces, hrest, hassemble⟩ := ih
      refine ⟨piece :: pieces, ?_, ?_⟩
      · rw [List.flatMap_cons, input_append, List.append_assoc, hread, hrest]
        rfl
      · rw [hstands, hassemble, Option.map_some]

/-! ## Integers -/

section Integers

variable {rest : Input}

/-- A numeral begins with a digit. -/
theorem exists_digit (n : Nat) : ∃ c cs, Nat.toDigits 10 n = c :: cs ∧ c.isDigit = true := by
  cases htext : Nat.toDigits 10 n with
  | nil => exact absurd htext Nat.toDigits_ne_nil
  | cons c cs =>
      exact ⟨c, cs, rfl,
        Nat.isDigit_of_mem_toDigits (by decide) (by decide) (htext ▸ List.mem_cons_self)⟩

/-- Digits are taken as far as they go. -/
theorem take_digits_append {digits : List Char} (hdigits : ∀ c ∈ digits, c.isDigit = true)
    (hrest : EndsValue rest) : takeDigits (input digits ++ rest) = (digits, rest) := by
  induction digits with
  | nil =>
      rcases rest with _ | ⟨x, rest⟩
      · rfl
      · rcases hrest x rfl with rfl | rfl | rfl <;> rfl
  | cons c digits ih =>
      rw [input_cons, List.cons_append, takeDigits, if_pos (hdigits c List.mem_cons_self),
        ih fun d hd => hdigits d (List.mem_cons_of_mem c hd)]

/-- After a value there is no fraction and no exponent. -/
theorem no_fraction_no_exponent (hrest : EndsValue rest) :
    fraction? rest = some (none, rest) ∧ exponent? rest = some (none, rest) := by
  rcases rest with _ | ⟨x, rest⟩
  · exact ⟨rfl, rfl⟩
  · rcases hrest x rfl with rfl | rfl | rfl <;> exact ⟨rfl, rfl⟩

/-- The digits of a numeral are read. -/
theorem whole?_to_digits (n : Nat) (hrest : EndsValue rest) :
    whole? (input (Nat.toDigits 10 n) ++ rest) = some (Nat.toDigits 10 n, rest) := by
  have hdigits : ∀ c ∈ Nat.toDigits 10 n, c.isDigit = true := fun c hc =>
    Nat.isDigit_of_mem_toDigits (by decide) (by decide) hc
  rw [whole?, take_digits_append hdigits hrest]
  split
  · rename_i heq
    exact absurd (Prod.mk.inj heq).1 Nat.toDigits_ne_nil
  · -- A leading zero is the only digit.
    rename_i heq
    have hzeros := (Prod.mk.inj heq).1
    rcases Nat.eq_zero_or_pos n with rfl | hn
    · cases hzeros
    · refine absurd ?_ (Text.head_to_digits hn)
      rw [hzeros, List.head?_cons]
  · rename_i heq
    rw [heq]

/-- The value of a number only grows with more digits. -/
theorem le_of_digit_chars (cs : List Char) (value : Nat) :
    value ≤ Nat.ofDigitChars 10 cs value := by
  induction cs generalizing value with
  | nil => exact Nat.le_refl value
  | cons c cs ih =>
      rw [Nat.ofDigitChars_cons]
      have hmore := ih (10 * value + (c.toNat - '0'.toNat))
      omega

/-- All digits of a number below `2 ^ 64` are taken. -/
theorem significand_of_lt (cs : List Char) (value taken : Nat)
    (h : Nat.ofDigitChars 10 cs value < Nat.pow 2 64) :
    significand value taken cs = (Nat.ofDigitChars 10 cs value, taken + cs.length, 0) := by
  induction cs generalizing value taken with
  | nil => rfl
  | cons c cs ih =>
      rw [Nat.ofDigitChars_cons] at h ⊢
      have hless := Nat.lt_of_le_of_lt (le_of_digit_chars cs _) h
      rw [significand, if_pos hless, ih _ _ h, List.length_cons]
      congr 2
      omega

/-- The numeral with a sign and the digits of a number. -/
def numeralOf (negative : Bool) (n : Nat) : Numeral :=
  ⟨negative, Nat.toDigits 10 n, none, none⟩

/-- Digits without a sign are read as a numeral. -/
theorem numeral?_to_digits (n : Nat) (hrest : EndsValue rest) :
    numeral? (input (Nat.toDigits 10 n) ++ rest) = some (numeralOf false n, rest) := by
  obtain ⟨hfraction, hexponent⟩ := no_fraction_no_exponent hrest
  have hwhole := whole?_to_digits n hrest
  obtain ⟨c, cs, htext, hdigit⟩ := exists_digit n
  unfold numeral?
  split
  rename_i negative after hsign
  split at hsign
  · -- A digit is no minus sign.
    rename_i heq
    rw [htext] at heq
    cases heq
    cases hdigit
  · cases hsign
    simp only [hwhole, hfraction, hexponent, Option.bind_eq_bind, Option.bind_some]
    rfl

/-- Digits after a minus sign are read as a numeral. -/
theorem numeral?_minus (n : Nat) (hrest : EndsValue rest) :
    numeral? (some '-' :: (input (Nat.toDigits 10 n) ++ rest)) = some (numeralOf true n, rest) := by
  obtain ⟨hfraction, hexponent⟩ := no_fraction_no_exponent hrest
  simp only [numeral?, whole?_to_digits n hrest, hfraction, hexponent, Option.bind_eq_bind,
    Option.bind_some]
  rfl

/-- The numeral of an integer in range denotes it. -/
theorem datum_numeral_of {i : Int} (hlow : -(Nat.pow 2 63 : Nat) ≤ i)
    (hhigh : i < (Nat.pow 2 64 : Nat)) :
    (numeralOf (decide (i < 0)) i.natAbs).datum = .integer i := by
  have hpow : Nat.pow 2 63 < Nat.pow 2 64 := by decide
  have habs : i.natAbs < Nat.pow 2 64 := by omega
  have hvalue : Nat.ofDigitChars 10 (Nat.toDigits 10 i.natAbs) 0 = i.natAbs :=
    Nat.ofDigitChars_ten_toDigits
  have htaken := significand_of_lt (Nat.toDigits 10 i.natAbs) 0 0 (by rwa [hvalue])
  rw [hvalue] at htaken
  unfold numeralOf Numeral.datum
  simp only [htaken]
  by_cases hsign : i < 0
  · have hrange : 0 < i.natAbs ∧ i.natAbs ≤ Nat.pow 2 63 := by omega
    have hneg : -(i.natAbs : Int) = i := by omega
    simp only [hsign, hrange, hneg, decide_true, Bool.not_true, Bool.and_false, Bool.and_self,
      Bool.false_eq_true, if_true, if_false]
  · have hpos : (i.natAbs : Int) = i := by omega
    simp only [hsign, hpos, decide_true, decide_false, Bool.not_false, Bool.and_self, if_true]

end Integers

/-! ## Steps of the reader -/

section Steps

variable {fuel depth : Nat} {text rest after : Input} {datum : Datum}

/-- The first character of the text of a value. -/
def BeginsValue (c : Char) : Prop :=
  c.isDigit = true ∨ c ∈ ['-', '"', '[', '{', 't', 'f', 'n']

theorem BeginsValue.not_mem {c : Char} (hc : BeginsValue c) :
    c ∉ [' ', '\n', '\t', '\r', ']', '}'] := by
  intro hmem
  have hall : ∀ d ∈ [' ', '\n', '\t', '\r', ']', '}'], (!d.isDigit &&
      !(['-', '"', '[', '{', 't', 'f', 'n'].contains d)) = true := List.all_eq_true.mp (by decide)
  have hd := hall c hmem
  rcases hc with hdigit | hsign
  · rw [hdigit] at hd
    cases hd
  · rw [List.contains_iff_mem.mpr hsign, Bool.and_comm] at hd
    cases hd

/-- There are no blanks before a value. -/
theorem skip_blanks_of_begins {c : Char} (hc : BeginsValue c) (rest : Input) :
    skipBlanks (some c :: rest) = some c :: rest := by
  have hblank := hc.not_mem
  simp only [List.mem_cons, not_or] at hblank
  rw [skipBlanks, if_neg (by simp [hblank])]

/-- What begins with a digit or a minus sign is a number. -/
theorem value?_numeral {c : Char} (hc : c = '-' ∨ c.isDigit = true) {n : Numeral}
    (hnumeral : numeral? (some c :: rest) = some (n, after)) :
    value? (fuel + 1) depth (some c :: rest) = some (n.datum, after) := by
  have hbegins : BeginsValue c := hc.elim (fun h => .inr (h ▸ List.mem_cons_self)) .inl
  have hother {d : Char} {tail : Input} (heq : some c :: rest = some d :: tail) :
      d = '-' ∨ d.isDigit = true := by
    cases heq
    exact hc
  rw [value?, skip_blanks_of_begins hbegins]
  split
  next heq => exact absurd (hother heq) (by decide)
  next heq => exact absurd (hother heq) (by decide)
  next heq => exact absurd (hother heq) (by decide)
  next heq => exact absurd (hother heq) (by decide)
  next heq => exact absurd (hother heq) (by decide)
  next heq => exact absurd (hother heq) (by decide)
  · rw [hnumeral]
    rfl

/-- A quote begins a string. -/
theorem value?_string {pieces : List Piece} {cs : List Char}
    (hpieces : pieces? rest = some (pieces, after)) (hassemble : assemble? pieces = some cs) :
    value? (fuel + 1) depth (some '"' :: rest) = some (.string (String.ofList cs), after) := by
  rw [value?]
  show ((pieces? rest).bind _) = _
  rw [hpieces, Option.bind_some]
  dsimp only
  rw [hassemble]
  rfl

/-- A bracket begins a list, which may be empty. -/
theorem value?_empty_list :
    value? (fuel + 1) (depth + 1) (some '[' :: some ']' :: rest) = some (.list [], rest) := by
  rw [value?]
  rfl

/-- A bracket begins a list. -/
theorem value?_list {c : Char} (hc : BeginsValue c) {items : List Datum}
    (hitems : items? fuel depth (some c :: rest) = some (items, after)) :
    value? (fuel + 1) (depth + 1) (some '[' :: some c :: rest) = some (.list items, after) := by
  have hbracket : skipBlanks (some '[' :: some c :: rest) = some '[' :: some c :: rest := rfl
  simp only [value?, hbracket, skip_blanks_of_begins hc]
  split
  · rename_i heq
    cases heq
    exact absurd (by decide) hc.not_mem
  · rw [Nat.add_sub_cancel, hitems]
    rfl

/-- The last item of a list stands before the closing bracket. -/
theorem items?_last (hitem : value? fuel depth text = some (datum, some ']' :: rest)) :
    items? (fuel + 1) depth text = some ([datum], rest) := by
  rw [items?, hitem]
  rfl

/-- Any other item stands before a comma. -/
theorem items?_more {items : List Datum}
    (hitem : value? fuel depth text = some (datum, some ',' :: rest))
    (hitems : items? fuel depth rest = some (items, after)) :
    items? (fuel + 1) depth text = some (datum :: items, after) := by
  rw [items?, hitem]
  show ((items? fuel depth rest).bind _) = _
  rw [hitems]
  rfl

/-- A brace begins a table, which may be empty. -/
theorem value?_empty_table :
    value? (fuel + 1) (depth + 1) (some '{' :: some '}' :: rest) = some (.table [], rest) := by
  rw [value?]
  rfl

/-- A brace begins a table. -/
theorem value?_table {entries : List (String × Datum)}
    (hentries : entries? fuel depth (some '"' :: rest) = some (some entries, after)) :
    value? (fuel + 1) (depth + 1) (some '{' :: some '"' :: rest) =
      some (.table entries, after) := by
  rw [value?]
  show ((entries? fuel depth (some '"' :: rest)).bind _) = _
  rw [hentries]
  rfl

/-- The last entry of a table stands before the closing brace. -/
theorem entries?_last {pieces : List Piece} {cs : List Char}
    (hpieces : pieces? text = some (pieces, some ':' :: rest))
    (hassemble : assemble? pieces = some cs)
    (hitem : value? fuel depth rest = some (datum, some '}' :: after)) :
    entries? (fuel + 1) depth (some '"' :: text) =
      some (some [(String.ofList cs, datum)], after) := by
  rw [entries?]
  show ((pieces? text).bind _) = _
  rw [hpieces, Option.bind_some]
  show ((value? fuel depth rest).bind _) = _
  rw [hitem, Option.bind_some]
  show some (((assemble? pieces).map String.ofList).bind _, after) = _
  rw [hassemble]
  rfl

/-- Any other entry stands before a comma. -/
theorem entries?_more {pieces : List Piece} {cs : List Char} {entries : List (String × Datum)}
    {beyond : Input} (hpieces : pieces? text = some (pieces, some ':' :: rest))
    (hassemble : assemble? pieces = some cs)
    (hitem : value? fuel depth rest = some (datum, some ',' :: after))
    (hentries : entries? fuel depth after = some (some entries, beyond)) :
    entries? (fuel + 1) depth (some '"' :: text) =
      some (some ((String.ofList cs, datum) :: entries), beyond) := by
  rw [entries?]
  show ((pieces? text).bind _) = _
  rw [hpieces, Option.bind_some]
  show ((value? fuel depth rest).bind _) = _
  rw [hitem, Option.bind_some]
  show ((entries? fuel depth after).bind _) = _
  rw [hentries, Option.bind_some]
  show some (((assemble? pieces).map String.ofList).bind _, beyond) = _
  rw [hassemble]
  rfl

end Steps

/-! ## Whole values -/

/-- The characters of an integer. -/
theorem to_list_decimal_int (i : Int) :
    (Text.decimalInt i).toList =
      if i < 0 then '-' :: Nat.toDigits 10 i.natAbs else Nat.toDigits 10 i.natAbs := by
  unfold Text.decimalInt Text.decimal
  split
  · simp only [String.toList_append, String.toList_ofList]
    rfl
  · exact String.toList_ofList

/-- The text of a value begins as one. -/
theorem begins_chars {v : Json} (h : v.IsIntegral) : ∃ c cs, chars v = c :: cs ∧ BeginsValue c := by
  cases v with
  | null => exact ⟨_, _, rfl, .inr (by decide)⟩
  | bool b => cases b <;> exact ⟨_, _, rfl, .inr (by decide)⟩
  | integer i =>
      rw [chars, to_list_decimal_int]
      split
      · exact ⟨_, _, rfl, .inr (by decide)⟩
      · obtain ⟨c, cs, htext, hdigit⟩ := exists_digit i.natAbs
        exact ⟨c, cs, htext, .inl hdigit⟩
  | float x => cases h
  | string s => exact ⟨_, _, rfl, .inr (by decide)⟩
  | array items => cases items <;> exact ⟨_, _, rfl, .inr (by decide)⟩
  | object members => cases members <;> exact ⟨_, _, rfl, .inr (by decide)⟩

/-- An integer is read back. -/
theorem value?_integer {i : Int} (h : (Json.integer i).IsIntegral) {rest : Input}
    (hrest : EndsValue rest) (fuel depth : Nat) :
    value? (fuel + 1) depth (input (chars (.integer i)) ++ rest) = some (.integer i, rest) := by
  have hdatum := datum_numeral_of h.1 h.2
  rw [chars, to_list_decimal_int]
  split
  · rename_i hsign
    rw [decide_eq_true hsign] at hdatum
    rw [← hdatum]
    exact value?_numeral (.inl rfl) (numeral?_minus i.natAbs hrest)
  · rename_i hsign
    rw [decide_eq_false hsign] at hdatum
    rw [← hdatum]
    have hnumeral := numeral?_to_digits i.natAbs hrest
    obtain ⟨c, cs, htext, hdigit⟩ := exists_digit i.natAbs
    rw [htext] at hnumeral ⊢
    exact value?_numeral (.inr hdigit) hnumeral

/-- A string literal is read back, up to what follows it. -/
theorem exists_quoted (s : String) (rest : Input) :
    ∃ text pieces, input (quote s) ++ rest = some '"' :: text ∧
      pieces? text = some (pieces, rest) ∧ assemble? pieces = some s.toList := by
  obtain ⟨pieces, hpieces, hassemble⟩ := exists_pieces s.toList rest
  refine ⟨_, pieces, ?_, hpieces, hassemble⟩
  simp only [quote, input_cons, input_append, List.cons_append, List.append_assoc]
  rfl

/-- The text of a member, cut after its key and after its value. -/
theorem input_member (key : String) (item : Json) (members : List (String × Json))
    (rest : Input) :
    input (quote key ++ ':' :: chars item ++ charsMembers members) ++ rest =
      input (quote key) ++
        (some ':' :: (input (chars item) ++ (input (charsMembers members) ++ rest))) := by
  simp only [input_append, input_cons, List.append_assoc, List.cons_append]

theorem ends_value_items (items : List Json) (rest : Input) :
    EndsValue (input (charsItems items) ++ rest) := by
  intro x hx
  cases items <;> cases hx
  · exact .inr (.inl rfl)
  · exact .inl rfl

theorem ends_value_members (members : List (String × Json)) (rest : Input) :
    EndsValue (input (charsMembers members) ++ rest) := by
  intro x hx
  cases members <;> cases hx
  · exact .inr (.inr rfl)
  · exact .inl rfl

mutual

/-- The text of a value is read as its data. Two units of fuel for each character are enough: a
container takes one for itself and one for each item, and there is a sign before each item. -/
theorem value?_chars : ∀ (v : Json) {fuel bound : Nat} {rest : Input}, v.IsIntegral →
    v.depth ≤ bound → 2 * (chars v).length ≤ fuel → EndsValue rest →
    value? fuel bound (input (chars v) ++ rest) = some (v.toDatum, rest)
  | .null, _ + 1, _, _, _, _, _, _ => rfl
  | .bool true, _ + 1, _, _, _, _, _, _ => rfl
  | .bool false, _ + 1, _, _, _, _, _, _ => rfl
  | .integer _, 0, _, _, h, _, hfuel, _ => by
      obtain ⟨c, cs, hchars, _⟩ := begins_chars h
      rw [hchars, List.length_cons] at hfuel
      omega
  | .integer _, fuel + 1, bound, _, h, _, _, hrest => value?_integer h hrest fuel bound
  | .float _, _, _, _, h, _, _, _ => h.elim
  | .string s, _ + 1, _, rest, _, _, _, _ => by
      obtain ⟨text, pieces, htext, hpieces, hassemble⟩ := exists_quoted s rest
      rw [chars, htext, value?_string hpieces hassemble, String.ofList_toList]
      rfl
  | .array [], _ + 1, _ + 1, _, _, _, _, _ => value?_empty_list
  | .array (item :: items), fuel + 1, bound + 1, rest, h, hdepth, hfuel, _ => by
      rw [depth, itemsDepth] at hdepth
      rw [chars, List.cons_append, List.length_cons] at hfuel
      have hitems : items? fuel bound (input (chars item ++ charsItems items) ++ rest) = _ :=
        items?_chars item items rest h.1 h.2 (by omega) (by omega) (by omega)
      obtain ⟨c, cs, hchars, hc⟩ := begins_chars h.1
      rw [hchars] at hitems
      rw [chars, List.cons_append, hchars]
      exact value?_list hc hitems
  | .object [], _ + 1, _ + 1, _, _, _, _, _ => value?_empty_table
  | .object ((key, item) :: members), fuel + 1, bound + 1, rest, h, hdepth, hfuel, _ => by
      rw [depth, membersDepth] at hdepth
      rw [chars, List.cons_append, List.cons_append, List.length_cons] at hfuel
      have hentries : entries? fuel bound
          (input (quote key ++ ':' :: chars item ++ charsMembers members) ++ rest) = _ :=
        entries?_chars key item members rest h.1 h.2 (by omega) (by omega) (by omega)
      rw [chars, List.cons_append, List.cons_append]
      exact value?_table hentries
termination_by v => sizeOf v

/-- The text of the items of an array is read as their data. -/
theorem items?_chars : ∀ (item : Json) (items : List Json) {fuel bound : Nat} (rest : Input),
    item.IsIntegral → AreIntegral items → item.depth ≤ bound → itemsDepth items ≤ bound →
    2 * (chars item ++ charsItems items).length ≤ fuel →
    items? fuel bound (input (chars item ++ charsItems items) ++ rest) =
      some (toDatum item :: toItems items, rest)
  | item, [], fuel, bound, rest, h, _, hdepth, _, hfuel => by
      rw [List.length_append, charsItems, List.length_singleton] at hfuel
      obtain ⟨fuel, rfl⟩ := Nat.exists_eq_succ_of_ne_zero (show fuel ≠ 0 by omega)
      have hitem : value? fuel bound _ = _ :=
        value?_chars item h hdepth (by omega) (ends_value_items [] rest)
      rw [input_append, List.append_assoc]
      exact items?_last hitem
  | item, next :: items, fuel, bound, rest, h, hitems, hdepth, hdepths, hfuel => by
      rw [itemsDepth] at hdepths
      rw [charsItems, List.cons_append, List.length_append, List.length_cons] at hfuel
      obtain ⟨fuel, rfl⟩ := Nat.exists_eq_succ_of_ne_zero (show fuel ≠ 0 by omega)
      have hitem : value? fuel bound _ = _ :=
        value?_chars item h hdepth (by omega) (ends_value_items (next :: items) rest)
      have hmore : items? fuel bound (input (chars next ++ charsItems items) ++ rest) = _ :=
        items?_chars next items rest hitems.1 hitems.2 (by omega) (by omega) (by omega)
      rw [input_append, List.append_assoc]
      exact items?_more hitem hmore
termination_by item items => sizeOf item + sizeOf items

/-- The text of the members of an object is read as their data. -/
theorem entries?_chars : ∀ (key : String) (item : Json) (members : List (String × Json))
    {fuel bound : Nat} (rest : Input), item.IsIntegral → MembersAreIntegral members →
    item.depth ≤ bound → membersDepth members ≤ bound →
    2 * (quote key ++ ':' :: chars item ++ charsMembers members).length ≤ fuel →
    entries? fuel bound
        (input (quote key ++ ':' :: chars item ++ charsMembers members) ++ rest) =
      some (some ((key, toDatum item) :: toEntries members), rest)
  | key, item, [], fuel, bound, rest, h, _, hdepth, _, hfuel => by
      rw [charsMembers, List.length_append, List.length_append, List.length_cons,
        List.length_singleton] at hfuel
      obtain ⟨fuel, rfl⟩ := Nat.exists_eq_succ_of_ne_zero (show fuel ≠ 0 by omega)
      have hitem : value? fuel bound _ = _ :=
        value?_chars item h hdepth (by omega) (ends_value_members [] rest)
      obtain ⟨text, pieces, htext, hpieces, hassemble⟩ := exists_quoted key
        (some ':' :: (input (chars item) ++ (input (charsMembers []) ++ rest)))
      rw [input_member, htext, entries?_last hpieces hassemble hitem, String.ofList_toList]
      rfl
  | key, item, (next, value) :: members, fuel, bound, rest, h, hitems, hdepth, hdepths, hfuel => by
      rw [membersDepth] at hdepths
      rw [charsMembers, List.cons_append, List.cons_append, List.length_append, List.length_append,
        List.length_cons, List.length_cons] at hfuel
      obtain ⟨fuel, rfl⟩ := Nat.exists_eq_succ_of_ne_zero (show fuel ≠ 0 by omega)
      have hitem : value? fuel bound _ = _ :=
        value?_chars item h hdepth (by omega) (ends_value_members ((next, value) :: members) rest)
      have hmore : entries? fuel bound
          (input (quote next ++ ':' :: chars value ++ charsMembers members) ++ rest) = _ :=
        entries?_chars next value members rest hitems.1 hitems.2 (by omega) (by omega) (by omega)
      obtain ⟨text, pieces, htext, hpieces, hassemble⟩ := exists_quoted key (some ':' ::
        (input (chars item) ++ (input (charsMembers ((next, value) :: members)) ++ rest)))
      rw [input_member, htext, entries?_more hpieces hassemble hitem hmore, String.ofList_toList]
      rfl
termination_by _ item members => sizeOf item + sizeOf members

end

/-- The compact text of a value is read as its data. -/
theorem scan_text?_compact {v : Json} (hintegral : v.IsIntegral) (hdepth : v.depth ≤ maxDepth) :
    scanText? v.compact = some v.toDatum := by
  have hvalue : value? (2 * (input (chars v)).length + 2) maxDepth (input (chars v) ++ []) = _ :=
    value?_chars v hintegral hdepth (by rw [input, List.length_map]; omega)
      (fun x hx => by cases hx)
  rw [List.append_nil] at hvalue
  rw [scanText?, compact, String.toList_ofList]
  show scan? (input (chars v)) = _
  rw [scan?, hvalue]
  rfl

/-- So are its bytes. -/
theorem scan_bytes?_compact {v : Json} (hintegral : v.IsIntegral) (hdepth : v.depth ≤ maxDepth) :
    scanBytes? (Text.Utf8.encode v.compact) = some v.toDatum := by
  rw [scanBytes?, Text.Utf8.lenient_encode]
  exact scan_text?_compact hintegral hdepth

/-- A value in order is read back from its compact text. -/
theorem read?_compact {v : Json} (hordered : v.IsOrdered) (hintegral : v.IsIntegral)
    (hdepth : v.depth ≤ maxDepth) : read? v.compact = some v := by
  rw [read?, scan_text?_compact hintegral hdepth, Option.bind_some, of_datum_to_datum hordered]

end Widgetry.Json
