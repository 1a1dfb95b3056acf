import Widgetry.Document.Decode
import Widgetry.Proofs.Json.RoundTrip
import Widgetry.Proofs.Results

/-!
# Documents from texts and from values

A document is decoded from the bytes of a JSON text or from a JSON value. The two ways differ only
in what they report of a list with too many values (`decode_outline_dialects`). The main theorem,
`texts_decode_as_values`, says that the compact text of a value decodes exactly if the value does,
and as the same document.
-/

namespace Widgetry

/-- Formats that refuse lists with too many values accept the same data for the same record. -/
theorem Field.decode_eq_ok_iff {ρ : Type} {dialect dialect' : Dialect}
    (hexcess : ∀ n, (dialect.excess n).isSome = true)
    (hexcess' : ∀ n, (dialect'.excess n).isSome = true) {name : String} {fields : List (Field ρ)}
    {start record : ρ} {datum : Datum} :
    decode dialect name fields start datum = .ok record ↔
      decode dialect' name fields start datum = .ok record := by
  cases datum with
  | list items =>
      rw [decode, decode, bind_eq_ok, bind_eq_ok]
      refine exists_congr fun stored => and_congr_right fun _ => ?_
      obtain ⟨rest, found⟩ := stored
      cases rest with
      | nil => exact Iff.rfl
      | cons item rest =>
          obtain ⟨fault, hfault⟩ := Option.isSome_iff_exists.mp (hexcess items.length)
          obtain ⟨fault', hfault'⟩ := Option.isSome_iff_exists.mp (hexcess' items.length)
          have hrefuse : (if (item :: rest).isEmpty then none
              else dialect.excess items.length) = some fault := hfault
          have hrefuse' : (if (item :: rest).isEmpty then none
              else dialect'.excess items.length) = some fault' := hfault'
          dsimp only
          rw [hrefuse, hrefuse']
          exact iff_of_false (fun h => by cases h) (fun h => by cases h)
  | _ => exact Iff.rfl

namespace Document

variable {value : Json} {datum : Datum} {outline : Outline}

/-- The parts of a document are the same in a text and in a value. -/
theorem decode_outline_dialects :
    decodeOutline .jsonText datum = .ok outline ↔ decodeOutline .jsonValue datum = .ok outline :=
  Field.decode_eq_ok_iff (fun _ => rfl) (fun _ => rfl)

/-- Data decodes if its parts do, and then its records. -/
theorem decode_eq_ok_iff {dialect : Dialect} {document : Document} :
    decode dialect datum = .ok document ↔
      ∃ outline, decodeOutline dialect datum = .ok outline ∧ ofOutline outline = .ok document := by
  rw [decode, bind_eq_ok]
  simp only [map_error_eq_ok]

/-- Records are at fault if the parts of the document are decoded. -/
theorem decode_eq_record_fault_iff {dialect : Dialect} {name : String} {fault : Record.Fault} :
    decode dialect datum = .error (.record name fault) ↔
      ∃ outline, decodeOutline dialect datum = .ok outline ∧
        ofOutline outline = .error (.record name fault) := by
  rw [decode, bind_eq_error]
  simp only [map_error_eq_ok, map_error_eq_error]
  constructor
  · intro h
    rcases h with ⟨_, _, heq⟩ | h
    · cases heq
    · exact h
  · exact .inr

/-- The bytes of the compact text of a value decode as its data, in the format of a text. -/
theorem of_bytes_compact (hordered : value.IsOrdered) (hintegral : value.IsIntegral)
    (hdepth : value.depth ≤ Json.maxDepth) :
    ofBytes (Text.Utf8.encode value.compact) = decode .jsonText value.toDatum := by
  rw [ofBytes, Json.scan_bytes?_compact hintegral hdepth, Json.decodeScanned]
  cases hdecode : decode .jsonText value.toDatum with
  | ok document => rfl
  | error fault =>
      dsimp only
      rw [Json.of_datum_to_datum hordered]
      rfl

/-- **Texts decode as values.** A value without floats, with integers of 64 bits and at most 127
containers nested, is read back from its compact text. The bytes of this text decode exactly if the
value does, and as the same document. If a record is at fault, then it is the same one for the same
reason. -/
theorem texts_decode_as_values (value : Json) (hordered : value.IsOrdered)
    (hintegral : value.IsIntegral) (hdepth : value.depth ≤ 127) :
    Json.read? value.compact = some value ∧
    (ofBytes (Text.Utf8.encode value.compact)).toOption = (ofJson value).toOption ∧
    ∀ name fault, ofBytes (Text.Utf8.encode value.compact) = .error (.record name fault) ↔
      ofJson value = .error (.record name fault) := by
  rw [of_bytes_compact hordered hintegral hdepth]
  refine ⟨Json.read?_compact hordered hintegral hdepth, ?_, ?_⟩
  · refine Option.ext fun document => ?_
    rw [to_option_eq_some, to_option_eq_some, ofJson, decode_eq_ok_iff, decode_eq_ok_iff]
    simp only [decode_outline_dialects]
  · intro name fault
    rw [ofJson, decode_eq_record_fault_iff, decode_eq_record_fault_iff]
    simp only [decode_outline_dialects]

/-- A document with a key that is written with escapes, and with the least and greatest integers. -/
def escapedDocument : Json :=
  .object [("main", .string "\n\x01\"é"), ("types", .array [.string ""]),
    ("widgets", .object [("\n\x01\"é", .array [.integer 0, .object [("range",
      .array [.integer (-9223372036854775808), .integer 18446744073709551615])]])])]

theorem texts_decode_as_values_escaped :
    escapedDocument.IsOrdered ∧ escapedDocument.IsIntegral ∧ escapedDocument.depth ≤ 127 ∧
    escapedDocument.compact =
      "\x7b\"main\":\"\\n\\u0001\\\"é\",\"types\":[\"\"],\"widgets\":\x7b\"\\n\\u0001\\\"é\":" ++
        "[0,\x7b\"range\":[-9223372036854775808,18446744073709551615]\x7d]\x7d\x7d" ∧
    (ofJson escapedDocument).toOption.isSome = true ∧
    (ofBytes (Text.Utf8.encode escapedDocument.compact)).toOption =
      (ofJson escapedDocument).toOption := by
  have hvalue : Json.ofDatum? escapedDocument.toDatum = some escapedDocument := rfl
  have hordered := Json.is_ordered_of_datum hvalue
  have hintegral : escapedDocument.IsIntegral :=
    ⟨trivial, ⟨trivial, trivial⟩, ⟨⟨⟨by decide, by decide⟩, ⟨⟨⟨by decide, by decide⟩,
      ⟨by decide, by decide⟩, trivial⟩, trivial⟩, trivial⟩, trivial⟩, trivial⟩
  have hdepth : escapedDocument.depth ≤ 127 := by decide
  exact ⟨hordered, hintegral, hdepth, by decide, by decide,
    (texts_decode_as_values escapedDocument hordered hintegral hdepth).2.1⟩

end Document

end Widgetry
