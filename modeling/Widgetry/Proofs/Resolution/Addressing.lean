import Widgetry.Document.Basic
import Widgetry.Proofs.Numerals
import Widgetry.Proofs.Table

/-!
# Addresses of records

A record can be addressed in many ways: by an integer, and by numerals with leading zeros or a plus
sign. `Document.canonical` brings all of them to one spelling, on which the search for cycles rests.
The main theorem, `addresses_are_canonical`, says that the canonical spelling addresses the same
record, and that two identifiers address the same entry of a document exactly if their canonical
spellings are equal. Entries of equal content are told apart by their places: `Document.place?`.
-/

namespace Widgetry

namespace Document

/-- The spellings that are canonical in a document: positions, and names that are no numerals, if
its records are listed, and keys otherwise. -/
inductive IsCanonical (document : Document) : Identifier → Prop where
  | position (records position) :
      document.records = .list records → IsCanonical document (.index position)
  | name (records name) :
      document.records = .list records → Text.word? name.toList = none →
      IsCanonical document (.key name)
  | key (records name) :
      document.records = .keyed records → IsCanonical document (.key name)

/-- The records of a document in their order. -/
def recordList (document : Document) : List Record :=
  match document.records with
  | .list records => records
  | .keyed records => records.map Prod.snd

/-- The document with a record in each place that tells the place. -/
def numbered (document : Document) : Document :=
  match document.records with
  | .list records =>
      { document with records := .list (records.mapIdx fun place _ => ⟨place, []⟩) }
  | .keyed records =>
      { document with
        records := .keyed (records.mapIdx fun place entry => (entry.1, ⟨place, []⟩)) }

/-- The place of the record that an identifier addresses. It is looked up among records that tell
their places, so that it does not depend on what the records contain. -/
def place? (document : Document) (id : Identifier) : Option Nat :=
  (document.numbered.record? id).map Record.typeIndex

/-- The identifier that the record in a place bears. -/
def bearer? (document : Document) (place : Nat) : Option Identifier :=
  match document.records with
  | .list _ => some (.index (UInt64.ofNat place))
  | .keyed records => records[place]?.map fun entry => .key entry.1

variable {document : Document} {id other : Identifier} {place : Nat}

/-! ## Canonical spellings -/

/-- The canonical spelling is canonical. -/
theorem is_canonical_canonical (document : Document) (id : Identifier) :
    document.IsCanonical (document.canonical id) := by
  obtain ⟨records, types, root⟩ := document
  cases records with
  | keyed records => cases id <;> exact .key records _ rfl
  | list records =>
      cases id with
      | index position => exact .position records position rfl
      | key name =>
          unfold canonical
          dsimp only
          cases hname : Text.word? name.toList with
          | none => exact .name records name rfl hname
          | some position => exact .position records position rfl

/-- A canonical identifier can be read back from its text. -/
theorem IsCanonical.canonical_key_text (h : document.IsCanonical id) :
    document.canonical (.key id.text) = id := by
  unfold canonical
  cases h with
  | position records position hrecords =>
      rw [hrecords]
      dsimp only [Identifier.text]
      rw [Text.word?_decimal]
  | name records name hrecords hname =>
      rw [hrecords]
      dsimp only [Identifier.text]
      rw [hname]
  | key records name hrecords =>
      rw [hrecords]
      rfl

/-- A canonical identifier is its own canonical spelling. -/
theorem IsCanonical.canonical_eq (h : document.IsCanonical id) : document.canonical id = id := by
  cases h with
  | position records position hrecords =>
      unfold canonical
      rw [hrecords]
  | name records name hrecords hname =>
      exact (IsCanonical.name records name hrecords hname).canonical_key_text
  | key records name hrecords => exact (IsCanonical.key records name hrecords).canonical_key_text

/-- Canonical identifiers of the same text are the same. -/
theorem canonical_text_injective
    (h : (document.canonical id).text = (document.canonical other).text) :
    document.canonical id = document.canonical other := by
  rw [← (document.is_canonical_canonical id).canonical_key_text, h,
    (document.is_canonical_canonical other).canonical_key_text]

/-- The canonical spelling of an identifier addresses the same record. -/
theorem record?_canonical (document : Document) (id : Identifier) :
    document.record? (document.canonical id) = document.record? id := by
  obtain ⟨records, types, root⟩ := document
  cases records with
  | keyed records => cases id <;> rfl
  | list records =>
      cases id with
      | index position => rfl
      | key name =>
          unfold canonical record?
          dsimp only
          cases hname : Text.word? name.toList with
          | none =>
              dsimp only
              rw [hname]
          | some position => rfl

/-! ## Places -/

/-- The place of a position in a list of records. -/
theorem place?_index {records : List Record} (hrecords : document.records = .list records)
    (position : UInt64) :
    document.place? (.index position) =
      records[position.toNat]?.map fun _ => position.toNat := by
  unfold place? numbered record?
  rw [hrecords]
  simp [Function.comp_def]

/-- What is no numeral has no place in a list of records. -/
theorem place?_of_no_numeral {records : List Record} (hrecords : document.records = .list records)
    {name : String} (hname : Text.word? name.toList = none) :
    document.place? (.key name) = none := by
  unfold place? numbered record?
  rw [hrecords]
  simp [hname]

/-- The place of a key is the first one that has it. -/
theorem place?_key {records : List (String × Record)}
    (hrecords : document.records = .keyed records) (name : String) :
    document.place? (.key name) = records.findIdx? fun entry => name = entry.1 := by
  unfold place? numbered record?
  rw [hrecords]
  dsimp only
  rw [Table.get?_map_idx name (fun place => Record.mk place []), Option.map_map]
  exact Option.map_id'

/-- The canonical spelling of an identifier has the same place. -/
theorem place?_canonical (document : Document) (id : Identifier) :
    document.place? (document.canonical id) = document.place? id := by
  -- What is canonical depends on how the records are kept, and not on the records.
  have hcanonical : document.numbered.canonical id = document.canonical id := by
    obtain ⟨records, types, root⟩ := document
    cases records <;> cases id <;> rfl
  unfold place?
  rw [← hcanonical, record?_canonical]

/-- What a canonical identifier addresses is the record in its place. -/
theorem IsCanonical.record?_eq (h : document.IsCanonical id) :
    document.record? id =
      (document.place? id).bind fun place => document.recordList[place]? := by
  cases h with
  | position records position hrecords =>
      rw [place?_index hrecords]
      unfold record? recordList
      rw [hrecords]
      cases hrecord : records[position.toNat]? <;> simp [hrecord]
  | name records name hrecords hname =>
      rw [place?_of_no_numeral hrecords hname]
      unfold record?
      rw [hrecords]
      simp [hname]
  | key records name hrecords =>
      rw [place?_key hrecords]
      unfold record? recordList
      rw [hrecords]
      simp [Table.get?_eq_bind_find_idx?]

/-- What an identifier addresses is the record in its place. -/
theorem record?_eq_bind_place? (document : Document) (id : Identifier) :
    document.record? id =
      (document.place? id).bind fun place => document.recordList[place]? := by
  rw [← record?_canonical, ← place?_canonical]
  exact (document.is_canonical_canonical id).record?_eq

/-- An identifier that has a record has a place. -/
theorem exists_place (h : (document.record? id).isSome) :
    ∃ place, document.place? id = some place := by
  rw [record?_eq_bind_place?] at h
  exact Option.isSome_iff_exists.mp (Option.isSome_of_isSome_bind h)

/-- A canonical identifier that has a place is the one that the record there bears. -/
theorem IsCanonical.bearer? (h : document.IsCanonical id)
    (hplace : document.place? id = some place) :
    place < document.size ∧ document.bearer? place = some id := by
  unfold size Document.bearer?
  cases h with
  | position records position hrecords =>
      rw [place?_index hrecords] at hplace
      obtain ⟨record, hrecord, rfl⟩ := Option.map_eq_some_iff.mp hplace
      rw [hrecords]
      exact ⟨(List.getElem?_eq_some_iff.mp hrecord).1, by simp⟩
  | name records name hrecords hname =>
      rw [place?_of_no_numeral hrecords hname] at hplace
      cases hplace
  | key records name hrecords =>
      rw [place?_key hrecords] at hplace
      obtain ⟨hlength, hname, _⟩ := List.findIdx?_eq_some_iff_getElem.mp hplace
      rw [hrecords]
      refine ⟨hlength, ?_⟩
      simp only [decide_eq_true_eq] at hname
      simp [hlength, ← hname]

/-- An identifier that has a place is a spelling of the one that the record there bears. -/
theorem bearer?_of_place? (hplace : document.place? id = some place) :
    place < document.size ∧ document.bearer? place = some (document.canonical id) := by
  rw [← place?_canonical] at hplace
  exact (document.is_canonical_canonical id).bearer? hplace

/-- Identifiers of one place have the same canonical spelling. -/
theorem canonical_eq_of_place? (hid : document.place? id = some place)
    (hother : document.place? other = some place) :
    document.canonical id = document.canonical other := by
  have hbearer := (bearer?_of_place? hother).2
  rw [(bearer?_of_place? hid).2, Option.some.injEq] at hbearer
  exact hbearer

end Document

/-! ## Two decoders of identifiers -/

namespace Identifier

/-- Strings and words are decoded as identifiers, and nothing else is. -/
theorem decode_eq_ok_iff {datum : Datum} {id : Identifier} :
    decode datum = .ok id ↔ (∃ name, datum = .string name ∧ id = .key name) ∨
      ∃ i position, datum = .integer i ∧ (Json.integer i).word? = some position ∧
        id = .index position := by
  cases datum with
  | string name => simp [decode, eq_comm]
  | integer i => cases hword : (Json.integer i).word? <;> simp [decode, hword, eq_comm]
  | _ =>
      simp only [decode, reduceCtorEq, false_and, exists_false, or_false, iff_false]
      split <;> simp

/-- Strings and words are read as references, and nothing else is. -/
theorem of_json?_eq_some_iff {value : Json} {id : Identifier} :
    ofJson? value = some id ↔ (∃ name, value = .string name ∧ id = .key name) ∨
      ∃ i position, value = .integer i ∧ (Json.integer i).word? = some position ∧
        id = .index position := by
  cases value with
  | string name => simp [ofJson?, eq_comm]
  | integer i => cases hword : (Json.integer i).word? <;> simp [ofJson?, hword, eq_comm]
  | _ => simp [ofJson?, Json.word?]

/-- A JSON value is decoded as the identifier that it is as a reference. -/
theorem decode_to_datum (value : Json) (id : Identifier) :
    decode value.toDatum = .ok id ↔ ofJson? value = some id := by
  rw [decode_eq_ok_iff, of_json?_eq_some_iff]
  cases value <;> simp [Json.toDatum]

/-- Data read from a text are decoded as the identifier that their value is as a reference. -/
theorem decode_of_datum {datum : Datum} {value : Json} (h : Json.ofDatum? datum = some value)
    (id : Identifier) : decode datum = .ok id ↔ ofJson? value = some id := by
  rw [decode_eq_ok_iff, of_json?_eq_some_iff]
  cases datum with
  | list items =>
      obtain ⟨values, _, rfl⟩ := Option.map_eq_some_iff.mp h
      simp
  | table entries =>
      obtain ⟨members, _, rfl⟩ := Option.map_eq_some_iff.mp h
      simp
  | malformed => cases h
  | _ =>
      cases h
      simp

end Identifier

namespace Document

/-- **Addresses are canonical.** The canonical spelling of an identifier is its own canonical
spelling and addresses the same record. Two identifiers that have records address the same entry
exactly if their canonical spellings are equal, and different canonical spellings have different
texts. Whether a JSON value is decoded as an identifier, from a value or from a text, or read as a
reference makes no difference. -/
theorem addresses_are_canonical (document : Document) (id other : Identifier) :
    document.canonical (document.canonical id) = document.canonical id ∧
    document.record? (document.canonical id) = document.record? id ∧
    (document.record? id = (document.place? id).bind fun place => document.recordList[place]?) ∧
    ((document.record? id).isSome → (document.record? other).isSome →
      (document.place? id = document.place? other ↔
        document.canonical id = document.canonical other)) ∧
    (document.canonical id ≠ document.canonical other →
      (document.canonical id).text ≠ (document.canonical other).text) ∧
    (∀ value found, Identifier.decode value.toDatum = .ok found ↔
      Identifier.ofJson? value = some found) ∧
    ∀ datum value found, Json.ofDatum? datum = some value →
      (Identifier.decode datum = .ok found ↔ Identifier.ofJson? value = some found) := by
  refine ⟨(document.is_canonical_canonical id).canonical_eq, document.record?_canonical id,
    document.record?_eq_bind_place? id, fun hid _ => ⟨?_, ?_⟩, ?_, Identifier.decode_to_datum,
    fun datum value found hvalue => Identifier.decode_of_datum hvalue found⟩
  · intro hplaces
    obtain ⟨place, hplace⟩ := exists_place hid
    exact canonical_eq_of_place? hplace (hplaces ▸ hplace)
  · intro hcanonical
    rw [← place?_canonical, hcanonical, place?_canonical]
  · intro hne htext
    exact hne (canonical_text_injective htext)

/-- Two records of the same content. -/
def twinDocument : Document where
  records := .list [⟨0, []⟩, ⟨0, []⟩]
  types := ["void"]
  root := .index 0

/-- In `twinDocument` a position and a numeral with a sign and a zero address the same entry, and
another numeral addresses the other one, although its record is equal. A numeral that is too large
for a position addresses nothing. -/
theorem addresses_are_canonical_twin :
    ((twinDocument.record? (.index 1)).isSome ∧ (twinDocument.record? (.key "+01")).isSome ∧
      twinDocument.place? (.index 1) = twinDocument.place? (.key "+01")) ∧
    ((twinDocument.record? (.key "0")).isSome ∧
      twinDocument.place? (.index 1) ≠ twinDocument.place? (.key "0")) ∧
    twinDocument.record? (.key "18446744073709551617") = none := by
  have hsame := addresses_are_canonical twinDocument (.index 1) (.key "+01")
  have hother := addresses_are_canonical twinDocument (.index 1) (.key "0")
  refine ⟨⟨rfl, rfl, (hsame.2.2.2.1 rfl rfl).mpr rfl⟩, ⟨rfl, fun hplaces => ?_⟩, rfl⟩
  have hcanonical := (hother.2.2.2.1 rfl rfl).mp hplaces
  cases hcanonical

end Document

end Widgetry
