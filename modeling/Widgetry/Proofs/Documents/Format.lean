import Widgetry.Document.Decode
import Widgetry.Proofs.Documents.Fields
import Widgetry.Proofs.Resolution.Addressing
import Widgetry.Proofs.Utf8

/-!
# The format of documents

Which values are documents is said here without any decoder: `Record.Written` for a record,
`Document.Parts` for the three parts, `Document.IsDocument` for the whole. Decoding accepts exactly
these values, finds in them what they hold, and names the first malformed record if only records are
malformed: `decoding_accepts_exactly_documents`.
-/

namespace Widgetry

/-! ## Records -/

/-- `Written item record` says that `item` is the list of a type position and fields, which may be
left out or be null. -/
inductive Record.Written : Json → Record → Prop where
  | bare (type : Nat) : type < UInt64.size → Written (.array [.integer type]) ⟨type, []⟩
  | null (type : Nat) : type < UInt64.size → Written (.array [.integer type, .null]) ⟨type, []⟩
  | fields (type : Nat) (fields : Fields) : type < UInt64.size →
      Written (.array [.integer type, .object fields]) ⟨type, fields⟩

/-- The value is a record. -/
def Json.IsRecord (item : Json) : Prop :=
  ∃ record, Record.Written item record

/-- A value is a word if it is a number below `2 ^ 64`. -/
theorem Json.word?_eq_some_iff {value : Json} {word : UInt64} :
    value.word? = some word ↔ value = .integer word.toNat := by
  cases value with
  | integer i =>
      have hsize : word.toNat < UInt64.size := word.toNat_lt_size
      rw [word?]
      constructor
      · intro h
        split at h
        · split at h
          · rename_i hsmall hnonneg
            cases h
            rw [UInt64.toNat_ofNatLT, Int.toNat_of_nonneg hnonneg]
          · cases h
        · cases h
      · intro h
        cases h
        rw [dif_pos (by simpa using hsize), if_pos (Int.natCast_nonneg _)]
        simp
  | null | bool | float | string | array | object => simp [word?]

namespace Record

variable {item type : Json} {record : Record}

/-- The fields of a record are an object, or there are none. -/
theorem decode_fields_eq_ok {found : Option Json} {fields : Fields} :
    decodeFields found = .ok fields ↔
      (found = none ∧ fields = []) ∨ (found = some .null ∧ fields = []) ∨
        found = some (.object fields) := by
  cases found with
  | none => simp [decodeFields, eq_comm]
  | some value => cases value <;> simp [decodeFields, eq_comm]

/-- The type of a record is a word, and its fields are as they should be. -/
theorem decode_typed_eq_ok {found : Option Json} :
    decode.decodeTyped type found = .ok record ↔
      record.typeIndex < UInt64.size ∧ type = .integer record.typeIndex ∧
        decodeFields found = .ok record.fields := by
  obtain ⟨typeIndex, fields⟩ := record
  unfold decode.decodeTyped
  rw [bind_eq_ok]
  constructor
  · rintro ⟨found, hfields, h⟩
    split at h
    · rename_i word hword
      cases h
      exact ⟨word.toNat_lt_size, Json.word?_eq_some_iff.mp hword, hfields⟩
    · cases h
  · rintro ⟨hsize, htype, hfields⟩
    have hword : type.word? = some (UInt64.ofNatLT typeIndex hsize) := by
      rw [Json.word?_eq_some_iff, UInt64.toNat_ofNatLT]
      exact htype
    refine ⟨fields, hfields, ?_⟩
    rw [hword]
    exact congrArg (fun n => Except.ok (Record.mk n fields)) UInt64.toNat_ofNatLT

/-- Decoding a record accepts exactly what is written as one. -/
theorem decode_eq_ok_iff : decode item = .ok record ↔ Written item record := by
  obtain ⟨typeIndex, fields⟩ := record
  constructor
  · intro h
    unfold decode at h
    split at h
    · obtain ⟨hsize, rfl, hfields⟩ := decode_typed_eq_ok.mp h
      rcases decode_fields_eq_ok.mp hfields with ⟨_, hnone⟩ | ⟨hnull, _⟩ | hobject
      · cases hnone
        exact .bare typeIndex hsize
      · cases hnull
      · cases hobject
    · obtain ⟨hsize, rfl, hfields⟩ := decode_typed_eq_ok.mp h
      rcases decode_fields_eq_ok.mp hfields with ⟨hnone, _⟩ | ⟨hnull, hempty⟩ | hobject
      · cases hnone
      · cases hnull
        cases hempty
        exact .null typeIndex hsize
      · cases hobject
        exact .fields typeIndex fields hsize
    · cases h
    · cases h
  · intro h
    cases h with
    | bare _ hsize => exact decode_typed_eq_ok.mpr ⟨hsize, rfl, rfl⟩
    | null _ hsize => exact decode_typed_eq_ok.mpr ⟨hsize, rfl, rfl⟩
    | fields _ _ hsize => exact decode_typed_eq_ok.mpr ⟨hsize, rfl, rfl⟩

end Record

/-! ## The parts of a document -/

namespace Json

/-- The value is a list of texts. -/
def IsTexts (value : Json) : Prop :=
  ∃ names : List String, value = .array (names.map .string)

/-- The value is an identifier: a string or a number below `2 ^ 64`. -/
def IsIdentifier (value : Json) : Prop :=
  (∃ name, value = .string name) ∨
    ∃ position : Nat, position < UInt64.size ∧ value = .integer position

/-- The value is a list or an object. -/
def IsCollection (value : Json) : Prop :=
  (∃ items, value = .array items) ∨ ∃ members, value = .object members

/-- The elements of a list or of an object. -/
def elements : Json → List Json
  | .array items => items
  | .object members => members.map Prod.snd
  | _ => []

/-- A text is decoded from a string. -/
theorem decode_text_to_datum {value : Json} {name : String} :
    value.toDatum.decodeText = .ok name ↔ value = .string name := by
  cases value <;> simp [toDatum, Datum.decodeText]

/-- Texts are decoded from a list of strings. -/
theorem decode_texts_to_datum {value : Json} {names : List String} :
    value.toDatum.decodeTexts = .ok names ↔ value = .array (names.map .string) := by
  cases value with
  | array items =>
      rw [toDatum, Datum.decodeTexts, to_items_eq_map, map_m_eq_ok, List.forall₂_map_left_iff]
      simp only [decode_text_to_datum]
      rw [← List.forall₂_map_right_iff (R := Eq), List.forall₂_eq_eq_eq, Json.array.injEq]
  | null | bool | integer | float | string | object => simp [toDatum, Datum.decodeTexts]

theorem is_identifier_iff {value : Json} :
    value.IsIdentifier ↔ ∃ id : Identifier, value = id.toJson := by
  constructor
  · rintro (⟨name, rfl⟩ | ⟨position, hsize, rfl⟩)
    · exact ⟨.key name, rfl⟩
    · refine ⟨.index (UInt64.ofNatLT position hsize), ?_⟩
      rw [Identifier.toJson, UInt64.toNat_ofNatLT]
  · rintro ⟨position | name, rfl⟩
    · exact .inr ⟨position.toNat, position.toNat_lt_size, rfl⟩
    · exact .inl ⟨name, rfl⟩

/-- An identifier is decoded from the value that writes it. -/
theorem decode_identifier_to_datum {value : Json} {id : Identifier} :
    Identifier.decode value.toDatum = .ok id ↔ value = id.toJson := by
  rw [Identifier.decode_to_datum, Identifier.of_json?_eq_some_iff]
  constructor
  · rintro (⟨name, rfl, rfl⟩ | ⟨i, position, rfl, hword, rfl⟩)
    · rfl
    · exact word?_eq_some_iff.mp hword
  · rintro rfl
    cases id with
    | index position => exact .inr ⟨_, position, rfl, word?_eq_some_iff.mpr rfl, rfl⟩
    | key name => exact .inl ⟨name, rfl, rfl⟩

/-- Widgets in order are decoded as they are. -/
theorem decode_widgets_to_datum {value widgets : Json} (h : value.IsOrdered) :
    Document.decodeWidgets value.toDatum = .ok widgets ↔ value.IsCollection ∧ widgets = value := by
  unfold Document.decodeWidgets IsCollection
  rw [of_datum_to_datum h]
  cases value <;> simp [eq_comm]

end Json

namespace Document

/-- `Parts value widgets types main` says that `value` is made of these three parts: an object that
has them as members, or the list of them. -/
inductive Parts : (value widgets types main : Json) → Prop where
  | named (members : List (String × Json)) (widgets types main : Json) :
      Table.get? "widgets" members = some widgets → Table.get? "types" members = some types →
      Table.get? "main" members = some main → Parts (.object members) widgets types main
  | listed (widgets types main : Json) : Parts (.array [widgets, types, main]) widgets types main

/-- The value is a document. -/
def IsDocument (value : Json) : Prop :=
  ∃ widgets types main, Parts value widgets types main ∧ types.IsTexts ∧ main.IsIdentifier ∧
    widgets.IsCollection ∧ ∀ item ∈ widgets.elements, item.IsRecord

variable {value widgets types main : Json} {outline : Outline}

/-- A value has the three parts once at most. -/
theorem Parts.unique {widgets' types' main' : Json} (h : Parts value widgets types main)
    (h' : Parts value widgets' types' main') :
    widgets = widgets' ∧ types = types' ∧ main = main' := by
  cases h with
  | named members _ _ _ hwidgets htypes hmain =>
      cases h' with
      | named _ _ _ _ hwidgets' htypes' hmain' =>
          exact ⟨Option.some.inj (hwidgets.symm.trans hwidgets'),
            Option.some.inj (htypes.symm.trans htypes'), Option.some.inj (hmain.symm.trans hmain')⟩
  | listed =>
      cases h'
      exact ⟨rfl, rfl, rfl⟩

/-- The parts of a value in order are in order. -/
theorem Parts.is_ordered (h : Parts value widgets types main) (hordered : value.IsOrdered) :
    widgets.IsOrdered := by
  cases h with
  | named members _ _ _ hwidgets _ _ =>
      exact Json.members_are_ordered_iff.mp hordered.2 _ (Table.mem_of_get? hwidgets)
  | listed => exact hordered.1

/-! Each part goes to its own component. -/

theorem stores_widgets : Field.Stores outlineFields "widgets" Outline.widgets decodeWidgets := by
  constructor <;> simp [outlineFields, bind_eq_ok]

theorem stores_types : Field.Stores outlineFields "types" Outline.types Datum.decodeTexts := by
  constructor <;> simp [outlineFields, bind_eq_ok]

theorem stores_main : Field.Stores outlineFields "main" Outline.main Identifier.decode := by
  constructor <;> simp [outlineFields, bind_eq_ok]

/-- No part may be left out. -/
theorem required_of_mem : ∀ field ∈ outlineFields, field.required = true := by
  simp [outlineFields]

/-- The outline of a table in order is decoded from the entries of its three fields. -/
theorem decode_outline_table_eq_ok {dialect : Dialect} {entries : List (String × Datum)}
    (hordered : Table.IsOrdered entries) :
    decodeOutline dialect (.table entries) = .ok outline ↔
      ∃ widgets types main, Table.get? "widgets" entries = some widgets ∧
        Table.get? "types" entries = some types ∧ Table.get? "main" entries = some main ∧
        decodeWidgets widgets = .ok outline.widgets ∧ types.decodeTexts = .ok outline.types ∧
        Identifier.decode main = .ok outline.main := by
  unfold decodeOutline
  rw [Field.decode_table_eq_ok]
  constructor
  · rintro ⟨⟨met, h⟩, hall⟩
    have hcontains : ∀ name ∈ outlineFields.map Field.name,
        ∃ datum, Table.get? name entries = some datum := by
      intro name hname
      obtain ⟨field, hfield, rfl⟩ := List.mem_map.mp hname
      exact Option.isSome_iff_exists.mp (hall field hfield (required_of_mem field hfield))
    obtain ⟨widgets, hwidgets⟩ := hcontains "widgets" (by decide)
    obtain ⟨types, htypes⟩ := hcontains "types" (by decide)
    obtain ⟨main, hmain⟩ := hcontains "main" (by decide)
    exact ⟨widgets, types, main, hwidgets, htypes, hmain,
      Field.get_of_store_entries stores_widgets h hwidgets,
      Field.get_of_store_entries stores_types h htypes,
      Field.get_of_store_entries stores_main h hmain⟩
  · rintro ⟨widgets, types, main, hwidgets, htypes, hmain, hwidgets', htypes', hmain'⟩
    -- Every key occurs once, so that a field is only given the datum found under its name.
    have hstore : ∀ field ∈ outlineFields, ∀ datum, (field.name, datum) ∈ entries →
        ∀ start, ∃ record, field.store datum start = .ok record := by
      unfold outlineFields
      simp only [List.forall_mem_cons]
      refine ⟨fun datum hmem start => ?_, fun datum hmem start => ?_, fun datum hmem start => ?_,
        List.forall_mem_nil _⟩
      · cases hwidgets.symm.trans (Table.get?_of_mem hordered hmem)
        exact ⟨_, bind_eq_ok.mpr ⟨_, hwidgets', rfl⟩⟩
      · cases htypes.symm.trans (Table.get?_of_mem hordered hmem)
        exact ⟨_, bind_eq_ok.mpr ⟨_, htypes', rfl⟩⟩
      · cases hmain.symm.trans (Table.get?_of_mem hordered hmem)
        exact ⟨_, bind_eq_ok.mpr ⟨_, hmain', rfl⟩⟩
    obtain ⟨met, found, h⟩ := Field.store_entries_succeeds hordered hstore
      (fun _ _ => List.not_mem_nil) ⟨.array [], [], .index 0⟩
    have hfound : found = outline := by
      obtain ⟨foundWidgets, foundTypes, foundMain⟩ := found
      cases hwidgets'.symm.trans (Field.get_of_store_entries stores_widgets h hwidgets)
      cases htypes'.symm.trans (Field.get_of_store_entries stores_types h htypes)
      cases hmain'.symm.trans (Field.get_of_store_entries stores_main h hmain)
      rfl
    refine ⟨⟨met, hfound ▸ h⟩, ?_⟩
    unfold outlineFields
    simp only [List.forall_mem_cons]
    exact ⟨fun _ => Option.isSome_of_eq_some hwidgets, fun _ => Option.isSome_of_eq_some htypes,
      fun _ => Option.isSome_of_eq_some hmain, List.forall_mem_nil _⟩

/-- The outline of a list is decoded from its three items. -/
theorem decode_outline_list_eq_ok {items : List Datum} :
    decodeOutline .jsonValue (.list items) = .ok outline ↔
      ∃ widgets types main, items = [widgets, types, main] ∧
        decodeWidgets widgets = .ok outline.widgets ∧ types.decodeTexts = .ok outline.types ∧
        Identifier.decode main = .ok outline.main := by
  obtain ⟨foundWidgets, foundTypes, foundMain⟩ := outline
  unfold decodeOutline outlineFields
  rcases items with _ | ⟨widgets, _ | ⟨types, _ | ⟨main, _ | ⟨item, rest⟩⟩⟩⟩ <;>
    simp [Field.decode, Field.storeItems, bind_eq_ok, Dialect.jsonValue]

/-- Three values are decoded as the parts of an outline if they are these parts. -/
theorem decode_parts_to_datum {widgets types main : Json} (hordered : widgets.IsOrdered) :
    (decodeWidgets widgets.toDatum = .ok outline.widgets ∧
        types.toDatum.decodeTexts = .ok outline.types ∧
        Identifier.decode main.toDatum = .ok outline.main) ↔
      (widgets.IsCollection ∧ outline.widgets = widgets) ∧
        types = .array (outline.types.map .string) ∧ main = outline.main.toJson := by
  rw [Json.decode_widgets_to_datum hordered, Json.decode_texts_to_datum,
    Json.decode_identifier_to_datum]

/-- The outline of an array in order is made of its three items. -/
theorem decode_outline_array {items : List Json} (hordered : (Json.array items).IsOrdered) :
    decodeOutline .jsonValue (Json.array items).toDatum = .ok outline ↔
      Parts (.array items) outline.widgets (.array (outline.types.map .string))
          outline.main.toJson ∧ outline.widgets.IsCollection := by
  rw [Json.toDatum, decode_outline_list_eq_ok, Json.to_items_eq_map]
  constructor
  · rintro ⟨_, _, _, hitems, hdecode⟩
    obtain ⟨widgets, _, rfl, rfl, hrest⟩ := List.map_eq_cons_iff.mp hitems
    obtain ⟨types, _, rfl, rfl, hlast⟩ := List.map_eq_cons_iff.mp hrest
    obtain ⟨main, _, rfl, rfl, hnone⟩ := List.map_eq_cons_iff.mp hlast
    cases List.map_eq_nil_iff.mp hnone
    obtain ⟨⟨hcollection, rfl⟩, rfl, rfl⟩ := (decode_parts_to_datum hordered.1).mp hdecode
    exact ⟨.listed _ _ _, hcollection⟩
  · rintro ⟨hparts, hcollection⟩
    cases hparts
    exact ⟨_, _, _, rfl, (decode_parts_to_datum hordered.1).mpr ⟨⟨hcollection, rfl⟩, rfl, rfl⟩⟩

/-- The outline of an object in order is made of its three members. -/
theorem decode_outline_object {members : List (String × Json)}
    (hordered : (Json.object members).IsOrdered) :
    decodeOutline .jsonValue (Json.object members).toDatum = .ok outline ↔
      Parts (.object members) outline.widgets (.array (outline.types.map .string))
          outline.main.toJson ∧ outline.widgets.IsCollection := by
  have hentries : Table.IsOrdered (Json.toEntries members) := by
    rw [Json.to_entries_eq_map]
    exact List.pairwise_map.mpr hordered.1
  have hget : ∀ key, Table.get? key (Json.toEntries members) =
      (Table.get? key members).map Json.toDatum := by
    intro key
    rw [Json.to_entries_eq_map]
    exact Table.get?_map (fun _ => Json.toDatum) key members
  rw [Json.toDatum, decode_outline_table_eq_ok hentries]
  simp only [hget, Option.map_eq_some_iff]
  constructor
  · rintro ⟨_, _, _, ⟨widgets, hwidgets, rfl⟩, ⟨types, htypes, rfl⟩, ⟨main, hmain, rfl⟩, hdecode⟩
    have hparts := Parts.named members _ _ _ hwidgets htypes hmain
    obtain ⟨⟨hcollection, rfl⟩, rfl, rfl⟩ :=
      (decode_parts_to_datum (hparts.is_ordered hordered)).mp hdecode
    exact ⟨hparts, hcollection⟩
  · rintro ⟨hparts, hcollection⟩
    have hdecode := (decode_parts_to_datum (hparts.is_ordered hordered)).mpr
      ⟨⟨hcollection, rfl⟩, rfl, rfl⟩
    cases hparts with
    | named _ _ _ _ hwidgets htypes hmain =>
        exact ⟨_, _, _, ⟨_, hwidgets, rfl⟩, ⟨_, htypes, rfl⟩, ⟨_, hmain, rfl⟩, hdecode⟩

/-- The outline of a value in order is made of its three parts. -/
theorem decode_outline_to_datum (hordered : value.IsOrdered) :
    decodeOutline .jsonValue value.toDatum = .ok outline ↔
      Parts value outline.widgets (.array (outline.types.map .string)) outline.main.toJson ∧
        outline.widgets.IsCollection := by
  cases value with
  | array items => exact decode_outline_array hordered
  | object members => exact decode_outline_object hordered
  | null | bool | integer | float | string =>
      constructor
      · intro h
        cases h
      · rintro ⟨hparts, _⟩
        cases hparts

/-! ## The records of a document -/

/-- Keyed records are decoded one by one. -/
theorem decode_keyed_eq_map_m (members : List (String × Json)) :
    decodeKeyed members = members.mapM fun member =>
      ((Record.decode member.2).mapError (.record member.1)).map fun record =>
        (member.1, record) := by
  induction members with
  | nil => rfl
  | cons member rest ih =>
      obtain ⟨key, item⟩ := member
      rw [decodeKeyed, ih, List.mapM_cons]
      cases Record.decode item <;> rfl

/-- Listed records are decoded one by one. -/
theorem decode_list_eq_map_m (position : Nat) (items : List Json) :
    decodeList position items = (items.zipIdx position).mapM fun item =>
      (Record.decode item.1).mapError (.record (Text.decimal item.2)) := by
  induction items generalizing position with
  | nil => rfl
  | cons item rest ih =>
      rw [decodeList, ih, List.zipIdx_cons, List.mapM_cons]
      rfl

/-- Listed records are decoded from a list of values that are records. -/
theorem decode_list_eq_ok {position : Nat} {items : List Json} {records : List Record} :
    decodeList position items = .ok records ↔ List.Forall₂ Record.Written items records := by
  rw [decode_list_eq_map_m, map_m_eq_ok]
  simp only [map_error_eq_ok, Record.decode_eq_ok_iff]
  rw [← List.forall₂_map_left_iff (f := Prod.fst), List.zipIdx_map_fst]

/-- Keyed records are decoded from members whose values are records, and keep their keys. -/
theorem decode_keyed_eq_ok {members : List (String × Json)} {records : List (String × Record)} :
    decodeKeyed members = .ok records ↔ List.Forall₂
      (fun member record => Record.Written member.2 record.2 ∧ member.1 = record.1)
      members records := by
  have hone : ∀ (member : String × Json) (record : String × Record),
      (((Record.decode member.2).mapError (Fault.record member.1)).map fun record =>
        (member.1, record)) = .ok record ↔
      Record.Written member.2 record.2 ∧ member.1 = record.1 := by
    intro member record
    rw [map_eq_ok]
    simp only [map_error_eq_ok, Record.decode_eq_ok_iff]
    constructor
    · rintro ⟨found, hfound, rfl⟩
      exact ⟨hfound, rfl⟩
    · rintro ⟨hwritten, hkey⟩
      exact ⟨record.2, hwritten, Prod.ext hkey rfl⟩
  rw [decode_keyed_eq_map_m, map_m_eq_ok]
  simp only [hone]

/-- `Holds document widgets` says that the document has the records of `widgets` and no others, each
under its position or key. -/
inductive Holds (document : Document) : Json → Prop where
  | list (items : List Json) :
      document.isKeyed = false → document.size = items.length →
      (∀ position : UInt64, Option.Rel Record.Written items[position.toNat]?
        (document.record? (.index position))) →
      Holds document (.array items)
  | keyed (members : List (String × Json)) :
      document.isKeyed = true → document.size = members.length →
      (∀ key, Option.Rel Record.Written (Table.get? key members)
        (document.record? (.key key))) →
      Holds document (.object members)

/-- `FirstMalformed widgets name item` says that `item`, which `name` names, is the first element of
`widgets` that is no record: by its position in a list, and by the bytes of its key in an object. -/
inductive FirstMalformed : (widgets : Json) → (name : String) → (item : Json) → Prop where
  | list (items : List Json) (position : Nat) (item : Json) :
      items[position]? = some item → ¬ item.IsRecord →
      (∀ earlier < position, ∀ other, items[earlier]? = some other → other.IsRecord) →
      FirstMalformed (.array items) (Text.decimal position) item
  | keyed (members : List (String × Json)) (key : String) (item : Json) :
      Table.get? key members = some item → ¬ item.IsRecord →
      (∀ other value, Table.get? other members = some value → ¬ value.IsRecord →
        other = key ∨ Text.Utf8.encode key < Text.Utf8.encode other) →
      FirstMalformed (.object members) key item

/-- The first malformed element is an element and malformed. -/
theorem FirstMalformed.not_all_records {name : String} {item : Json}
    (h : FirstMalformed widgets name item) : ¬ ∀ item ∈ widgets.elements, item.IsRecord := by
  intro hall
  cases h with
  | list items position _ hitem hmalformed _ =>
      exact hmalformed (hall item (List.mem_of_getElem? hitem))
  | keyed members _ _ hitem hmalformed _ =>
      exact hmalformed (hall item (List.mem_map_of_mem (Table.mem_of_get? hitem)))

/-- Related lists have related items in each position. -/
theorem rel_get_elem?_of_forall₂ {α β : Type} {r : α → β → Prop} {xs : List α} {ys : List β}
    (h : List.Forall₂ r xs ys) (i : Nat) : Option.Rel r xs[i]? ys[i]? := by
  induction h generalizing i with
  | nil => exact .none
  | cons hhead _ ih =>
      cases i with
      | zero => exact .some hhead
      | succ i =>
          rw [List.getElem?_cons_succ, List.getElem?_cons_succ]
          exact ih i

/-- Tables with the same keys and related values have related values under each key. -/
theorem rel_get?_of_forall₂ {α β : Type} {r : α → β → Prop} {table : List (String × α)}
    {other : List (String × β)}
    (h : List.Forall₂ (fun entry entry' => r entry.2 entry'.2 ∧ entry.1 = entry'.1) table other)
    (key : String) : Option.Rel r (Table.get? key table) (Table.get? key other) := by
  induction h with
  | nil => exact .none
  | @cons entry entry' _ _ hhead _ ih =>
      obtain ⟨k, v⟩ := entry
      obtain ⟨k', v'⟩ := entry'
      obtain ⟨hvalue, rfl⟩ := hhead
      rw [Table.get?, Table.get?]
      split
      · exact .some hvalue
      · exact ih

/-- A member of the first list has a related one in the second. -/
theorem exists_of_mem_of_forall₂ {α β : Type} {r : α → β → Prop} {xs : List α} {ys : List β}
    (h : List.Forall₂ r xs ys) : ∀ x ∈ xs, ∃ y, r x y := by
  induction h with
  | nil => exact List.forall_mem_nil _
  | cons hhead _ ih => exact List.forall_mem_cons.mpr ⟨⟨_, hhead⟩, ih⟩

theorem of_outline_array (items : List Json) (types : List String) (main : Identifier) :
    ofOutline ⟨.array items, types, main⟩ =
      (decodeList 0 items).map fun records => ⟨.list records, types, main⟩ := by
  unfold ofOutline
  dsimp only
  cases decodeList 0 items <;> rfl

theorem of_outline_object (members : List (String × Json)) (types : List String)
    (main : Identifier) :
    ofOutline ⟨.object members, types, main⟩ =
      (decodeKeyed members).map fun records => ⟨.keyed records, types, main⟩ := by
  unfold ofOutline
  dsimp only
  cases decodeKeyed members <;> rfl

/-- The records of a document are those of its widgets, if these are records. -/
theorem holds_of_of_outline {document : Document} (hcollection : outline.widgets.IsCollection)
    (h : ofOutline outline = .ok document) :
    document.types = outline.types ∧ document.root = outline.main ∧
      document.Holds outline.widgets ∧ ∀ item ∈ outline.widgets.elements, item.IsRecord := by
  obtain ⟨widgets, types, main⟩ := outline
  rcases hcollection with ⟨items, rfl⟩ | ⟨members, rfl⟩
  · rw [of_outline_array] at h
    obtain ⟨records, hlist, rfl⟩ := map_eq_ok.mp h
    have hwritten := decode_list_eq_ok.mp hlist
    refine ⟨rfl, rfl, .list items rfl hwritten.length_eq.symm fun position => ?_, ?_⟩
    · exact rel_get_elem?_of_forall₂ hwritten position.toNat
    · exact exists_of_mem_of_forall₂ hwritten
  · rw [of_outline_object] at h
    obtain ⟨records, hkeyed, rfl⟩ := map_eq_ok.mp h
    have hwritten := decode_keyed_eq_ok.mp hkeyed
    refine ⟨rfl, rfl, .keyed members rfl hwritten.length_eq.symm fun key => ?_, ?_⟩
    · exact rel_get?_of_forall₂ hwritten key
    · intro item hitem
      obtain ⟨member, hmember, rfl⟩ := List.mem_map.mp hitem
      obtain ⟨record, hrecord, _⟩ := exists_of_mem_of_forall₂ hwritten member hmember
      exact ⟨record.2, hrecord⟩

/-- A list fails to decode at its first malformed element. -/
theorem first_malformed_of_decode_list {items : List Json} {e : Fault}
    (h : decodeList 0 items = .error e) :
    ∃ name item fault, FirstMalformed (.array items) name item ∧
      Record.decode item = .error fault ∧ e = .record name fault := by
  rw [decode_list_eq_map_m] at h
  obtain ⟨before, ⟨item, position⟩, after, hsplit, hbefore, hitem⟩ := map_m_eq_error h
  obtain ⟨fault, hfault, rfl⟩ := map_error_eq_error.mp hitem
  have hindex : ∀ i : Nat, items.zipIdx[i]? = items[i]?.map fun item => (item, i) := by
    intro i
    rw [List.getElem?_zipIdx, Nat.zero_add]
  have hplace : items[before.length]?.map (fun item => (item, before.length)) =
      some (item, position) := by
    rw [← hindex, hsplit, List.getElem?_append_right (Nat.le_refl _), Nat.sub_self]
    rfl
  obtain ⟨found, hfound, heq⟩ := Option.map_eq_some_iff.mp hplace
  cases heq
  refine ⟨_, item, fault, .list items before.length item hfound ?_ ?_, hfault, rfl⟩
  · rintro ⟨record, hrecord⟩
    rw [Record.decode_eq_ok_iff.mpr hrecord] at hfault
    cases hfault
  · intro earlier hearlier other hother
    have hmem : (other, earlier) ∈ before := by
      refine List.mem_of_getElem? (i := earlier) ?_
      rw [← List.getElem?_append_left hearlier, ← hsplit, hindex, hother]
      rfl
    obtain ⟨record, hrecord⟩ := hbefore _ hmem
    exact ⟨record, Record.decode_eq_ok_iff.mp (map_error_eq_ok.mp hrecord)⟩

/-- An object in order fails to decode at its first malformed element. -/
theorem first_malformed_of_decode_keyed {members : List (String × Json)} {e : Fault}
    (hordered : Table.IsOrdered members) (h : decodeKeyed members = .error e) :
    ∃ name item fault, FirstMalformed (.object members) name item ∧
      Record.decode item = .error fault ∧ e = .record name fault := by
  rw [decode_keyed_eq_map_m] at h
  obtain ⟨before, ⟨key, item⟩, after, rfl, hbefore, hitem⟩ := map_m_eq_error h
  obtain ⟨fault, hfault, rfl⟩ := map_error_eq_error.mp (map_eq_error.mp hitem)
  refine ⟨key, item, fault, .keyed _ key item ?_ ?_ ?_, hfault, rfl⟩
  · exact Table.get?_of_mem hordered (List.mem_append_right _ List.mem_cons_self)
  · rintro ⟨record, hrecord⟩
    rw [Record.decode_eq_ok_iff.mpr hrecord] at hfault
    cases hfault
  · intro other value hother hmalformed
    rcases List.mem_append.mp (Table.mem_of_get? hother) with hmem | hmem
    · obtain ⟨record, hrecord⟩ := hbefore _ hmem
      obtain ⟨found, hfound, _⟩ := map_eq_ok.mp hrecord
      exact absurd ⟨found, Record.decode_eq_ok_iff.mp (map_error_eq_ok.mp hfound)⟩ hmalformed
    · rcases List.mem_cons.mp hmem with heq | hmem
      · cases heq
        exact .inl rfl
      · have hlater := (List.pairwise_cons.mp (List.pairwise_append.mp hordered).2.1).1 _ hmem
        exact .inr (Text.Utf8.encode_lt_encode hlater)

/-- A document whose parts are all right fails to decode at its first malformed record. -/
theorem first_malformed_of_of_outline {e : Fault} (hordered : outline.widgets.IsOrdered)
    (hcollection : outline.widgets.IsCollection) (h : ofOutline outline = .error e) :
    ∃ name item fault, FirstMalformed outline.widgets name item ∧
      Record.decode item = .error fault ∧ e = .record name fault := by
  obtain ⟨widgets, types, main⟩ := outline
  rcases hcollection with ⟨items, rfl⟩ | ⟨members, rfl⟩
  · rw [of_outline_array] at h
    exact first_malformed_of_decode_list (map_eq_error.mp h)
  · rw [of_outline_object] at h
    exact first_malformed_of_decode_keyed hordered.1 (map_eq_error.mp h)

/-- A value with parts that are all right decodes as its records do. -/
theorem of_json_of_parts (hordered : value.IsOrdered) (outline : Outline)
    (hcollection : outline.widgets.IsCollection)
    (hparts : Parts value outline.widgets (.array (outline.types.map .string))
      outline.main.toJson) : ofJson value = ofOutline outline := by
  unfold ofJson decode
  rw [(decode_outline_to_datum hordered).mpr ⟨hparts, hcollection⟩]
  rfl

/-- A value that decodes has parts that are all right, and the document holds them. -/
theorem parts_of_of_json (hordered : value.IsOrdered) {document : Document}
    (h : ofJson value = .ok document) : ∃ widgets,
      Parts value widgets (.array (document.types.map .string)) document.root.toJson ∧
      widgets.IsCollection ∧ document.Holds widgets ∧
      ∀ item ∈ widgets.elements, item.IsRecord := by
  obtain ⟨outline, houtline, h⟩ := bind_eq_ok.mp h
  obtain ⟨hparts, hcollection⟩ :=
    (decode_outline_to_datum hordered).mp (map_error_eq_ok.mp houtline)
  obtain ⟨htypes, hroot, hholds, hrecords⟩ := holds_of_of_outline hcollection h
  rw [htypes, hroot]
  exact ⟨outline.widgets, hparts, hcollection, hholds, hrecords⟩

/-- **Decoding accepts exactly documents.** A value decodes if it has the form of a document. Then
its types, its root and its records are those of the document. A value whose parts have the right
form, except for some records, is refused for the first of these, by position or by the bytes of the
keys. -/
theorem decoding_accepts_exactly_documents (value : Json) (hordered : value.IsOrdered) :
    ((∃ document, ofJson value = .ok document) ↔ IsDocument value) ∧
    (∀ document, ofJson value = .ok document →
      ∀ widgets types main, Parts value widgets types main →
        types = .array (document.types.map .string) ∧ main = document.root.toJson ∧
          document.Holds widgets) ∧
    (∀ widgets types main, Parts value widgets types main → types.IsTexts → main.IsIdentifier →
      widgets.IsCollection → (¬ ∀ item ∈ widgets.elements, item.IsRecord) →
        ∃ name item fault, FirstMalformed widgets name item ∧
          Record.decode item = .error fault ∧ ofJson value = .error (.record name fault)) := by
  refine ⟨⟨?_, ?_⟩, ?_, ?_⟩
  · rintro ⟨document, h⟩
    obtain ⟨widgets, hparts, hcollection, _, hrecords⟩ := parts_of_of_json hordered h
    exact ⟨widgets, _, _, hparts, ⟨document.types, rfl⟩,
      Json.is_identifier_iff.mpr ⟨document.root, rfl⟩, hcollection, hrecords⟩
  · rintro ⟨widgets, _, _, hparts, ⟨names, rfl⟩, hmain, hcollection, hrecords⟩
    obtain ⟨id, rfl⟩ := Json.is_identifier_iff.mp hmain
    have heq := of_json_of_parts hordered ⟨widgets, names, id⟩ hcollection hparts
    cases houtline : ofOutline ⟨widgets, names, id⟩ with
    | ok document => exact ⟨document, heq.trans houtline⟩
    | error e =>
        obtain ⟨_, _, _, hfirst, _, _⟩ :=
          first_malformed_of_of_outline (hparts.is_ordered hordered) hcollection houtline
        exact absurd hrecords hfirst.not_all_records
  · intro document h widgets types main hparts
    obtain ⟨found, hfound, _, hholds, _⟩ := parts_of_of_json hordered h
    obtain ⟨rfl, htypes, hmain⟩ := hparts.unique hfound
    exact ⟨htypes, hmain, hholds⟩
  · rintro widgets _ _ hparts ⟨names, rfl⟩ hmain hcollection hmalformed
    obtain ⟨id, rfl⟩ := Json.is_identifier_iff.mp hmain
    have heq := of_json_of_parts hordered ⟨widgets, names, id⟩ hcollection hparts
    cases houtline : ofOutline ⟨widgets, names, id⟩ with
    | ok document => exact absurd (holds_of_of_outline hcollection houtline).2.2.2 hmalformed
    | error e =>
        obtain ⟨name, item, fault, hfirst, hfault, rfl⟩ :=
          first_malformed_of_of_outline (hparts.is_ordered hordered) hcollection houtline
        exact ⟨name, item, fault, hfirst, hfault, heq.trans houtline⟩

/-- Keyed widgets, two of which are no records. -/
def malformedWidgets : Json :=
  .object [("a", .array [.integer 0]), ("z", .array [.integer (-1)]), ("é", .null)]

theorem decoding_accepts_exactly_documents_malformed :
    (Json.array [malformedWidgets, .array [.string "text"], .string "a"]).IsOrdered ∧
    ∃ name item fault, FirstMalformed malformedWidgets name item ∧
      Record.decode item = .error fault ∧
      ofJson (.array [malformedWidgets, .array [.string "text"], .string "a"]) =
        .error (.record name fault) := by
  have hvalue : Json.ofDatum? (.list [.table [("é", .null), ("z", .list [.integer (-1)]),
      ("a", .list [.integer 0])], .list [.string "text"], .string "a"]) =
      some (.array [malformedWidgets, .array [.string "text"], .string "a"]) := rfl
  have hordered := Json.is_ordered_of_datum hvalue
  refine ⟨hordered, (decoding_accepts_exactly_documents _ hordered).2.2 _ _ _ (.listed _ _ _)
    ⟨["text"], rfl⟩ (.inl ⟨"a", rfl⟩) (.inr ⟨_, rfl⟩) fun hall => ?_⟩
  obtain ⟨record, hrecord⟩ := hall .null (by simp [malformedWidgets, Json.elements])
  cases hrecord

end Document

end Widgetry
