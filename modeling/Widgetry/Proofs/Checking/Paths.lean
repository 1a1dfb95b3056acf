import Widgetry.Proofs.Numerals
import Widgetry.Proofs.Results
import Widgetry.Proofs.Text
import Widgetry.Widget.Configuration

/-!
# Paths of fields

The path of a field leads from the fields of a record to a value below them. As text its names are
joined by dots, and positions in arrays stand in brackets, as in `items[2].name`. `read?` reads a
path from its text. Paths whose names have no dot and no bracket are read back from their texts:
`read?_text`.
-/

namespace Widgetry

/-- A name on a path, and the positions after it. -/
structure PathSegment where
  name : String
  positions : List Nat

/-- A path through fields and arrays. -/
abbrev FieldPath := List PathSegment

/-- The item of an array. -/
def Json.item? (position : Nat) : Json → Option Json
  | .array items => items[position]?
  | _ => none

namespace PathSegment

/-- Where a name and the positions after it lead. -/
def follow? (segment : PathSegment) (value : Json) : Option Json :=
  segment.positions.foldl (fun found position => found.bind (Json.item? position))
    (value.field? segment.name)

/-- The text of positions. -/
def positionsText : List Nat → String
  | [] => ""
  | position :: rest => "[" ++ Text.decimal position ++ "]" ++ positionsText rest

/-- The text of a name and the positions after it. -/
def text (segment : PathSegment) : String :=
  segment.name ++ positionsText segment.positions

/-- Read what stands after an opening bracket: digits and a closing bracket. -/
def readPosition? (cs : List Char) : Option Nat :=
  if cs.getLast? = some ']' then Text.natural? cs.dropLast else none

/-- Read a name and the positions after it. -/
def read? (cs : List Char) : Option PathSegment :=
  match Text.pieces (· == '[') cs with
  | [] => none
  | name :: positions =>
      (positions.mapM readPosition?).map fun positions => ⟨String.ofList name, positions⟩

/-- The name has no dot and no bracket. -/
def isPlainName (name : String) : Bool :=
  name.toList.all fun c => !(c == '.') && !(c == '[')

/-- The name of the segment is plain. -/
def IsPlain (segment : PathSegment) : Prop :=
  isPlainName segment.name = true

end PathSegment

namespace FieldPath

/-- The value to which a path leads. -/
def follow? (path : FieldPath) (value : Json) : Option Json :=
  path.foldl (fun found segment => found.bind segment.follow?) (some value)

/-- The text of a path. -/
def text : FieldPath → String
  | [] => ""
  | [segment] => segment.text
  | segment :: next :: rest => segment.text ++ "." ++ text (next :: rest)

/-- Read a path from its text. -/
def read? (text : String) : Option FieldPath :=
  (Text.pieces (· == '.') text.toList).mapM PathSegment.read?

end FieldPath

/-! ## Reading back -/

namespace PathSegment

variable {segment : PathSegment}

/-- A plain name separates nothing. -/
theorem IsPlain.of_mem (h : segment.IsPlain) {c : Char} (hc : c ∈ segment.name.toList) :
    (c == '.') = false ∧ (c == '[') = false := by
  simpa using List.all_eq_true.mp h c hc

/-- The characters of positions are digits and brackets. -/
theorem ne_dot_of_mem_positions_text {positions : List Nat} {c : Char}
    (hc : c ∈ (positionsText positions).toList) : (c == '.') = false := by
  induction positions with
  | nil =>
      rw [positionsText, String.toList_empty] at hc
      cases hc
  | cons position rest ih =>
      simp only [positionsText, String.toList_append, List.mem_append] at hc
      rcases hc with ((hc | hc) | hc) | hc
      · rw [List.mem_singleton.mp hc]
        rfl
      · rw [beq_eq_false_iff_ne]
        rintro rfl
        cases Text.is_digit_of_mem_decimal hc
      · rw [List.mem_singleton.mp hc]
        rfl
      · exact ih hc

/-- The text of a plain segment has no dot. -/
theorem IsPlain.ne_dot (h : segment.IsPlain) :
    ∀ c ∈ segment.text.toList, (c == '.') = false := by
  intro c hc
  rw [text, String.toList_append] at hc
  rcases List.mem_append.mp hc with hc | hc
  · exact (h.of_mem hc).1
  · exact ne_dot_of_mem_positions_text hc

/-- What follows an opening bracket is read as the position. -/
theorem read_position?_decimal (position : Nat) :
    readPosition? ((Text.decimal position).toList ++ [']']) = some position := by
  unfold readPosition?
  rw [List.getLast?_concat, if_pos rfl, List.dropLast_concat]
  exact Text.natural?_decimal position

theorem read_positions (positions : List Nat) :
    (positions.map fun position => (Text.decimal position).toList ++ [']']).mapM readPosition? =
      some positions := by
  induction positions with
  | nil => rfl
  | cons position rest ih =>
      exact map_m_cons_eq_some.mpr ⟨position, rest, read_position?_decimal position, ih, rfl⟩

/-- The text of positions is cut at the opening brackets. -/
theorem pieces_positions_text {front : List Char} (hfront : ∀ c ∈ front, (c == '[') = false)
    (positions : List Nat) :
    Text.pieces (· == '[') (front ++ (positionsText positions).toList) =
      front :: positions.map fun position => (Text.decimal position).toList ++ [']'] := by
  induction positions generalizing front with
  | nil =>
      rw [positionsText, String.toList_empty, List.append_nil]
      exact Text.pieces_eq_singleton hfront
  | cons position rest ih =>
      have hposition : ∀ c ∈ (Text.decimal position).toList ++ [']'], (c == '[') = false := by
        intro c hc
        rw [beq_eq_false_iff_ne]
        rintro rfl
        rcases List.mem_append.mp hc with hc | hc
        · cases Text.is_digit_of_mem_decimal hc
        · cases List.mem_singleton.mp hc
      have htext : (positionsText (position :: rest)).toList = '[' ::
          ((Text.decimal position).toList ++ [']'] ++ (positionsText rest).toList) := by
        simp only [positionsText, String.toList_append]
        rfl
      rw [htext, Text.pieces_append_cons hfront rfl, ih hposition]
      rfl

/-- A plain segment is read back from its text. -/
theorem IsPlain.read?_text (h : segment.IsPlain) : read? segment.text.toList = some segment := by
  have hname : ∀ c ∈ segment.name.toList, (c == '[') = false := fun c hc => (h.of_mem hc).2
  unfold read? text
  rw [String.toList_append, pieces_positions_text hname]
  dsimp only
  rw [read_positions, String.ofList_toList]
  rfl

end PathSegment

namespace FieldPath

/-- A path of plain segments is read back from its text. -/
theorem read?_text {path : FieldPath} (hne : path ≠ []) (h : ∀ segment ∈ path, segment.IsPlain) :
    read? path.text = some path := by
  unfold read?
  induction path with
  | nil => exact absurd rfl hne
  | cons segment rest ih =>
      obtain ⟨hsegment, hrest⟩ := List.forall_mem_cons.mp h
      cases rest with
      | nil =>
          rw [text, Text.pieces_eq_singleton hsegment.ne_dot]
          exact map_m_cons_eq_some.mpr ⟨segment, [], hsegment.read?_text, rfl, rfl⟩
      | cons next rest =>
          have htext : (text (segment :: next :: rest)).toList =
              segment.text.toList ++ '.' :: (text (next :: rest)).toList := by
            rw [text, String.toList_append, String.toList_append, List.append_assoc]
            rfl
          rw [htext, Text.pieces_append_cons hsegment.ne_dot rfl]
          exact map_m_cons_eq_some.mpr
            ⟨segment, next :: rest, hsegment.read?_text, ih (List.cons_ne_nil _ _) hrest, rfl⟩

end FieldPath

end Widgetry
