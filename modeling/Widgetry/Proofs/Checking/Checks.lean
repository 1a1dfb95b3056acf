import Widgetry.Proofs.Checking.Paths
import Widgetry.Proofs.Resolution.Reading

/-!
# What widgets check

`Factory.checks` lists what a widget of the core types checks, in the order in which it does: rules
for the values at certain paths of its fields, the room of a layout, and the widgets that it refers
to, each where its turn comes. The list is made from the fields alone, and goes on after a fault.
`fault_of_level` shows that configuring a widget fails with the first fault on the list.
-/

namespace Widgetry

/-! ## Rules -/

/-- What the value of a field has to be. -/
inductive Rule where
  | label
  | text
  | reference
  | source
  | color
  | optional (accepts : Json → Bool) (expected : String)
  | array
  | filled
  | positive
  | object
  | fresh (names : List String)

namespace Rule

/-- What is wrong with an absent value. -/
def absentFault? : Rule → Option Reason
  | .color | .optional _ _ | .fresh _ => none
  | _ => some .required

/-- What is wrong with null. It counts as an absent value, but it is a reference to no widget, and
it is an item of an array like others. -/
def nullFault? : Rule → Option Reason
  | .reference => none
  | .positive => some .notPositive
  | .object => some .notObject
  | rule => rule.absentFault?

/-- What is wrong with a value that is not null. -/
def valueFault? : Rule → Json → Option Reason
  | .label, value => if (Configuration.labelText? value).isSome then none else some .notLabel
  | .text, value => if (Configuration.plainText? value).isSome then none else some .notText
  | .reference, value => if (Identifier.ofJson? value).isSome then none else some .notReference
  | .source, .string url => if Text.isBlankText url then some .empty else none
  | .source, _ => some .notString
  | .color, .string written =>
      if Color.isValid written then none else some (.invalidColor written)
  | .color, _ => some .notString
  | .optional accepts expected, value => if accepts value then none else some (.expected expected)
  | .array, .array _ => none
  | .array, _ => some .notArray
  | .filled, .array [] => some .empty
  | .filled, .array _ => none
  | .filled, _ => some .notArray
  | .positive, value =>
      if (value.binary64?.filter Binary64.isPositive).isSome then none else some .notPositive
  | .object, .object _ => none
  | .object, _ => some .notObject
  | .fresh names, value =>
      (Configuration.labelText? value).bind fun name =>
        if name ∈ names then some (.duplicateTab name) else none

/-- What is wrong with the value of a field. -/
def fault? (rule : Rule) : Option Json → Option Reason
  | none => rule.absentFault?
  | some value => if value.isNull then rule.nullFault? else rule.valueFault? value

/-- Nothing but an absent value is ever at fault for being absent. -/
theorem value_fault?_ne_required (rule : Rule) (value : Json) :
    rule.valueFault? value ≠ some .required := by
  fun_cases valueFault? rule value <;> simp
  -- The rule for new names is left, which finds fault with labels only.
  intro h
  obtain ⟨name, _, h⟩ := Option.bind_eq_some_iff.mp h
  split at h <;> cases h

/-- A value that is required is absent or null. -/
theorem absent_of_required {rule : Rule} {value : Option Json} {reason : Reason}
    (h : rule.fault? value = some reason) (hreason : reason = .required) :
    value = none ∨ value = some .null := by
  subst hreason
  cases value with
  | none => exact .inl rfl
  | some value =>
      cases hnull : value.isNull with
      | true =>
          cases value with
          | null => exact .inr rfl
          | _ => cases hnull
      | false =>
          rw [fault?, hnull, if_neg Bool.false_ne_true] at h
          exact absurd h (value_fault?_ne_required rule value)

/-- A value that breaks any other rule is there. -/
theorem exists_of_not_required {rule : Rule} {value : Option Json} {reason : Reason}
    (h : rule.fault? value = some reason) (hreason : reason ≠ .required) :
    ∃ found, value = some found := by
  cases value with
  | some found => exact ⟨found, rfl⟩
  | none =>
      rw [fault?] at h
      unfold absentFault? at h
      split at h <;> cases h
      exact absurd rfl hreason

end Rule

/-! ## Checks -/

/-- A step of configuring a widget: a rule for a value, the room for items, or a widget referred
to. -/
inductive Check where
  | field (path : FieldPath) (rule : Rule)
  | capacity (slots items : Nat)
  | reference (id : Identifier)

/-- What a check finds wrong in the fields of a widget; `below` tells it of the widgets that it
refers to. -/
def Check.fault? (widget : String) (fields : Fields) (below : Identifier → Option Error) :
    Check → Option Error
  | .field path rule =>
      (rule.fault? (path.follow? (.object fields))).map fun reason =>
        .config ⟨widget, path.text, reason⟩
  | .capacity slots items => if slots < items then some (.capacity slots items) else none
  | .reference id => below id

namespace Factory

/-- The items of an array field. -/
def itemsAt (field : String) (fields : Fields) : List Json :=
  match Table.get? field fields with
  | some (.array items) => items
  | _ => []

/-- The checks of the items of an array of numbers, the first of them at `position`. -/
def positiveChecks (field : String) : (position : Nat) → List Json → List Check
  | _, [] => []
  | position, _ :: rest =>
      .field [⟨field, [position]⟩] .positive :: positiveChecks field (position + 1) rest

/-- The checks of an array of numbers. -/
def trackChecks (field : String) (fields : Fields) : List Check :=
  .field [⟨field, []⟩] .filled :: positiveChecks field 0 (itemsAt field fields)

/-- The checks of an item of a layout. -/
def layoutItemChecks (position : Nat) : List Check :=
  [.field [⟨"items", [position]⟩] .object,
    .field [⟨"items", [position]⟩, ⟨"object", []⟩] .reference]

/-- The checks of the items of a layout, the first of them at `position`. -/
def layoutChecks : (position : Nat) → List Json → List Check
  | _, [] => []
  | position, item :: rest =>
      layoutItemChecks position ++ (itemReferences item).map .reference ++
        layoutChecks (position + 1) rest

/-- The checks of an item of a tabs widget after items of the names `seen`. -/
def tabItemChecks (seen : List String) (position : Nat) : List Check :=
  [.field [⟨"items", [position]⟩] .object,
    .field [⟨"items", [position]⟩, ⟨"name", []⟩] .label,
    .field [⟨"items", [position]⟩, ⟨"name", []⟩] (.fresh seen),
    .field [⟨"items", [position]⟩, ⟨"object", []⟩] .reference]

/-- The name of an item of a tabs widget. -/
def tabLabel? : Json → Option String
  | .object fields => labelOf? "name" fields
  | _ => none

/-- The checks of the items of a tabs widget after items of the names `seen`. -/
def tabChecks : (seen : List String) → (position : Nat) → List Json → List Check
  | _, _, [] => []
  | seen, position, item :: rest =>
      tabItemChecks seen position ++ (itemReferences item).map .reference ++
        tabChecks (seen ++ (tabLabel? item).toList) (position + 1) rest

/-- The checks of a textual widget. -/
def textualChecks : List Check :=
  [.field [⟨"text", []⟩] .text,
    .field [⟨"align", []⟩]
      (.optional (fun value => (Alignment.ofJson? value).isSome) Alignment.expected),
    .field [⟨"color", []⟩] .color]

/-- The checks of a visual medium. -/
def visualChecks : List Check :=
  [.field [⟨"source", []⟩] .source,
    .field [⟨"contain", []⟩]
      (.optional (fun value => (value.choice? Contain.ofName?).isSome) "either fit or fill")]

/-- The checks of a widget in their order. What custom types check is their own affair. -/
def checks (factory : Factory) (fields : Fields) : List Check :=
  match factory with
  | .void => []
  | .text | .banner => textualChecks
  | .image | .video => visualChecks
  | .audio => [.field [⟨"source", []⟩] .source]
  | .container =>
      [.field [⟨"title", []⟩] .label, .field [⟨"object", []⟩] .reference] ++
        (objectReferences fields).map .reference
  | .layout =>
      trackChecks "columns" fields ++ (trackChecks "rows" fields ++
        [.field [⟨"items", []⟩] .array,
          .capacity ((itemsAt "columns" fields).length * (itemsAt "rows" fields).length)
            (itemsAt "items" fields).length]) ++
        layoutChecks 0 (itemsAt "items" fields)
  | .tabs =>
      [.field [⟨"position", []⟩] (.optional (fun value => (value.choice? Side.ofName?).isSome)
          "one of top, right, bottom, left"),
        .field [⟨"items", []⟩] .filled] ++
        tabChecks [] 0 (itemsAt "items" fields)
  | .custom _ => []

end Factory

/-! ## The fault of a computation -/

section Faults

variable {ε ε' α β : Type}

/-- The error of a computation that fails. -/
def faultOf : Except ε α → Option ε
  | .error e => some e
  | .ok _ => none

theorem fault_of_eq_some {x : Except ε α} {e : ε} : faultOf x = some e ↔ x = .error e := by
  cases x <;> simp [faultOf]

/-- The fault of two computations in sequence is that of the first, or else that of the second, and
it may be reworded. -/
theorem map_fault_of_bind {x : Except ε α} {f : α → Except ε β} {g : ε → ε'}
    {first second : Option ε'} (hx : (faultOf x).map g = first)
    (hf : ∀ a, x = .ok a → (faultOf (f a)).map g = second) :
    (faultOf (x >>= f)).map g = first.or second := by
  subst hx
  cases x with
  | error e => rfl
  | ok a => exact hf a rfl

theorem fault_of_bind {x : Except ε α} {f : α → Except ε β} {first second : Option ε}
    (hx : faultOf x = first) (hf : ∀ a, x = .ok a → faultOf (f a) = second) :
    faultOf (x >>= f) = first.or second := by
  subst hx
  cases x with
  | error e => rfl
  | ok a => exact hf a rfl

theorem fault_of_map (x : Except ε α) (f : α → β) : faultOf (x.map f) = faultOf x := by
  cases x <;> rfl

theorem fault_of_map_error (x : Except ε α) (f : ε → ε') :
    faultOf (x.mapError f) = (faultOf x).map f := by
  cases x <;> rfl

end Faults

/-! ## Fields -/

namespace Configuration

variable {α : Type} (c : Configuration) (field : String)

/-- The computation fails exactly if a field breaks a rule, with an error at that field. -/
def Judges (x : Except ConfigError α) (rule : Rule) : Prop :=
  faultOf x = (rule.fault? (Table.get? field c.fields)).map (c.error field)

/-- The value of a field is absent or null, or it is there to be judged. -/
theorem get?_cases :
    (c.get? field = none ∧ ∀ rule : Rule, rule.nullFault? = rule.absentFault? →
      rule.fault? (Table.get? field c.fields) = rule.absentFault?) ∨
    ∃ value, c.get? field = some value ∧ ∀ rule : Rule,
      rule.fault? (Table.get? field c.fields) = rule.valueFault? value := by
  unfold Configuration.get?
  cases Table.get? field c.fields with
  | none => exact .inl ⟨rfl, fun rule _ => rfl⟩
  | some value =>
      rw [Option.filter_some]
      simp only [Rule.fault?]
      cases value.isNull with
      | true => exact .inl ⟨rfl, fun rule hnull => hnull⟩
      | false => exact .inr ⟨value, rfl, fun rule => rfl⟩

/-- A field that must be present is judged by what is then made of its value. -/
theorem judges_require {f : Json → Except ConfigError α} {rule : Rule}
    (habsent : rule.absentFault? = some .required) (hnull : rule.nullFault? = some .required)
    (hvalue : ∀ value, faultOf (f value) = (rule.valueFault? value).map (c.error field)) :
    c.Judges field (c.require field >>= f) rule := by
  unfold Judges Configuration.require
  rcases c.get?_cases field with ⟨hget, hrule⟩ | ⟨value, hget, hrule⟩
  · rw [hget, hrule rule (hnull.trans habsent.symm), habsent]
    rfl
  · rw [hget, hrule, ← hvalue]
    rfl

theorem judges_label : c.Judges field (c.label field) .label := by
  refine judges_require c field rfl rfl fun value => ?_
  rw [Rule.valueFault?]
  cases labelText? value <;> rfl

theorem judges_text : c.Judges field (c.text field) .text := by
  refine judges_require c field rfl rfl fun value => ?_
  rw [Rule.valueFault?]
  cases plainText? value <;> rfl

theorem judges_array : c.Judges field (c.array field) .filled := by
  refine judges_require c field rfl rfl fun value => ?_
  cases value with
  | array items => cases items <;> rfl
  | _ => rfl

theorem judges_source : c.Judges "source" (Factory.source c) .source := by
  refine judges_require c "source" rfl rfl fun value => ?_
  cases value with
  | string url =>
      rw [Rule.valueFault?]
      dsimp only
      split <;> rfl
  | _ => rfl

theorem judges_reference : c.Judges field (c.reference field) .reference := by
  unfold Judges Configuration.reference
  cases Table.get? field c.fields with
  | none => rfl
  | some value =>
      rw [Rule.fault?]
      dsimp only
      cases value.isNull with
      | true => rfl
      | false =>
          rw [if_neg Bool.false_ne_true, if_neg Bool.false_ne_true, Rule.valueFault?]
          cases Identifier.ofJson? value <;> rfl

theorem judges_optional (read? : Json → Option α) (expected : String) :
    c.Judges field (c.optional field read? expected)
      (.optional (fun value => (read? value).isSome) expected) := by
  unfold Judges Configuration.optional
  rcases c.get?_cases field with ⟨hget, hrule⟩ | ⟨value, hget, hrule⟩
  · rw [hget, hrule _ rfl]
    rfl
  · rw [hget, hrule, Rule.valueFault?]
    dsimp only
    cases read? value <;> rfl

theorem judges_color : c.Judges "color" (Textual.readColor c) .color := by
  unfold Judges Textual.readColor
  rcases c.get?_cases "color" with ⟨hget, hrule⟩ | ⟨value, hget, hrule⟩
  · rw [hget, hrule _ rfl]
    rfl
  · rw [hget, hrule]
    cases value with
    | string written =>
        rw [Rule.valueFault?]
        dsimp only
        split <;> rfl
    | _ => rfl

end Configuration

/-! ## Checks one after the other -/

namespace Check

variable {widget : String} {fields : Fields} {below : Identifier → Option Error}

/-- The first fault that checks find. -/
def firstFault (widget : String) (fields : Fields) (below : Identifier → Option Error)
    (checks : List Check) : Option Error :=
  checks.findSome? (Check.fault? widget fields below)

/-- The first value of a list is that of its head, or else that of its tail. -/
theorem find_some_cons {α β : Type} (f : α → Option β) (a : α) (as : List α) :
    (a :: as).findSome? f = (f a).or (as.findSome? f) := by
  rw [List.findSome?_cons]
  cases f a <;> rfl

theorem first_fault_cons (check : Check) (checks : List Check) :
    firstFault widget fields below (check :: checks) =
      (check.fault? widget fields below).or (firstFault widget fields below checks) :=
  find_some_cons _ check checks

theorem first_fault_singleton (check : Check) :
    firstFault widget fields below [check] = check.fault? widget fields below := by
  rw [first_fault_cons]
  exact Option.or_none

theorem first_fault_append (checks more : List Check) :
    firstFault widget fields below (checks ++ more) =
      (firstFault widget fields below checks).or (firstFault widget fields below more) :=
  List.findSome?_append

/-- A field of the record itself is checked by the computation that judges it. -/
theorem fault?_field {α : Type} {field : String} {x : Except ConfigError α} {rule : Rule}
    (h : (Configuration.ofFields widget fields).Judges field x rule) :
    (Check.field [⟨field, []⟩] rule).fault? widget fields below = (faultOf x).map .config := by
  have htext : FieldPath.text [⟨field, []⟩] = field := String.append_empty
  rw [h, Option.map_map, Check.fault?, htext]
  rfl

/-- An item of an array is checked at its path. -/
theorem fault?_item {field : String} {position : Nat} {item : Json}
    (hitem : FieldPath.follow? [⟨field, [position]⟩] (.object fields) = some item) (rule : Rule) :
    (Check.field [⟨field, [position]⟩] rule).fault? widget fields below =
      (rule.fault? (some item)).map fun reason => .config
        ((Configuration.ofFields widget fields).error (itemPath field position) reason) := by
  have htext : FieldPath.text [⟨field, [position]⟩] = itemPath field position := by
    simp only [FieldPath.text, PathSegment.text, PathSegment.positionsText, itemPath,
      String.append_assoc, String.append_empty]
  rw [Check.fault?, hitem, htext]
  rfl

/-- A field of an item that is an object is checked by the computation that judges it. -/
theorem fault?_member {α : Type} {position : Nat} {members : Fields} {field : String}
    {x : Except ConfigError α} {rule : Rule}
    (hitem : FieldPath.follow? [⟨"items", [position]⟩] (.object fields) = some (.object members))
    (h : Configuration.Judges ⟨widget, some (itemPath "items" position), members⟩ field x rule) :
    (Check.field [⟨"items", [position]⟩, ⟨field, []⟩] rule).fault? widget fields below =
      (faultOf x).map .config := by
  have htext : FieldPath.text [⟨"items", [position]⟩, ⟨field, []⟩] =
      itemPath "items" position ++ "." ++ field := by
    simp only [FieldPath.text, PathSegment.text, PathSegment.positionsText, itemPath,
      String.append_assoc, String.append_empty]
  have hfollow : FieldPath.follow? [⟨"items", [position]⟩, ⟨field, []⟩] (.object fields) =
      Table.get? field members := by
    have hsplit : FieldPath.follow? [⟨"items", [position]⟩, ⟨field, []⟩] (.object fields) =
        (FieldPath.follow? [⟨"items", [position]⟩] (.object fields)).bind
          (PathSegment.follow? ⟨field, []⟩) := rfl
    rw [hsplit, hitem]
    rfl
  rw [h, Option.map_map, Check.fault?, hfollow, htext]
  rfl

end Check

namespace Factory

variable {widget : String} {fields : Fields} {below : Identifier → Option Error}

/-! ## Arrays of numbers -/

/-- The items of an array field from `position` on. -/
def ItemsFrom (fields : Fields) (field : String) (position : Nat) (items : List Json) : Prop :=
  ∀ i item, items[i]? = some item →
    FieldPath.follow? [⟨field, [position + i]⟩] (.object fields) = some item

theorem items_from_zero {field : String} {items : List Json}
    (h : Table.get? field fields = some (.array items)) : ItemsFrom fields field 0 items := by
  intro i item hitem
  have hfollow : FieldPath.follow? [⟨field, [0 + i]⟩] (.object fields) =
      (Table.get? field fields).bind (Json.item? (0 + i)) := rfl
  rw [hfollow, h, Nat.zero_add]
  exact hitem

theorem ItemsFrom.head {field : String} {position : Nat} {item : Json} {rest : List Json}
    (h : ItemsFrom fields field position (item :: rest)) :
    FieldPath.follow? [⟨field, [position]⟩] (.object fields) = some item :=
  h 0 item rfl

theorem ItemsFrom.tail {field : String} {position : Nat} {item : Json} {rest : List Json}
    (h : ItemsFrom fields field position (item :: rest)) :
    ItemsFrom fields field (position + 1) rest := by
  intro i other hother
  have hi := h (i + 1) other hother
  rwa [← Nat.add_assoc, Nat.add_right_comm] at hi

/-- A field that is read as an array is one. -/
theorem get?_of_array {c : Configuration} {field : String} {items : List Json}
    (h : c.array field = .ok items) : Table.get? field c.fields = some (.array items) := by
  obtain ⟨value, hvalue, h⟩ := bind_eq_ok.mp h
  obtain ⟨hget, _⟩ := require_eq_ok.mp hvalue
  rw [hget]
  cases value with
  | array list =>
      cases list with
      | nil => cases h
      | cons item list =>
          cases h
          rfl
  | _ => cases h

theorem items_at_eq {field : String} {items : List Json}
    (h : Table.get? field fields = some (.array items)) : itemsAt field fields = items := by
  unfold itemsAt
  rw [h]

/-- An item passes as a number greater than zero, or it is at fault. Null is no number. -/
theorem fault?_positive (item : Json) :
    Rule.positive.fault? (some item) =
      if (item.binary64?.filter Binary64.isPositive).isSome then none else some .notPositive := by
  cases item <;> rfl

/-- Numbers are checked item by item. -/
theorem fault_of_positive_items {field : String} {position : Nat} {items : List Json}
    (h : ItemsFrom fields field position items) :
    (faultOf ((Configuration.ofFields widget fields).positiveItems field position items)).map
        Error.config =
      Check.firstFault widget fields below (positiveChecks field position items) := by
  induction items generalizing position with
  | nil => rfl
  | cons item rest ih =>
      rw [positiveChecks, Check.first_fault_cons, Check.fault?_item h.head, fault?_positive,
        Configuration.positiveItems]
      cases item.binary64?.filter Binary64.isPositive with
      | none => rfl
      | some x =>
          rw [← ih h.tail]
          dsimp only
          cases (Configuration.ofFields widget fields).positiveItems field (position + 1) rest <;>
            rfl

/-- There are as many numbers as items. -/
theorem length_of_positive_items {c : Configuration} {field : String} {position : Nat}
    {items : List Json} {xs : List Binary64} (h : c.positiveItems field position items = .ok xs) :
    xs.length = items.length := by
  induction items generalizing position xs with
  | nil =>
      cases h
      rfl
  | cons item rest ih =>
      rw [Configuration.positiveItems] at h
      split at h
      · obtain ⟨more, hmore, h⟩ := bind_eq_ok.mp h
        cases h
        rw [List.length_cons, List.length_cons, ih hmore]
      · cases h

/-- An array of numbers is checked as a whole and then item by item. -/
theorem fault_of_positive_numbers (field : String) :
    (faultOf ((Configuration.ofFields widget fields).positiveNumbers field)).map Error.config =
      Check.firstFault widget fields below (trackChecks field fields) := by
  rw [trackChecks, Check.first_fault_cons,
    Check.fault?_field (Configuration.judges_array (.ofFields widget fields) field)]
  refine map_fault_of_bind rfl fun items hitems => ?_
  have hget : Table.get? field fields = some (.array items) := get?_of_array hitems
  rw [items_at_eq hget]
  exact fault_of_positive_items (items_from_zero hget)

theorem length_of_positive_numbers {field : String} {xs : List Binary64}
    (h : (Configuration.ofFields widget fields).positiveNumbers field = .ok xs) :
    xs.length = (itemsAt field fields).length := by
  obtain ⟨items, hitems, h⟩ := bind_eq_ok.mp h
  have hget : Table.get? field fields = some (.array items) := get?_of_array hitems
  rw [items_at_eq hget]
  exact length_of_positive_items h

/-! ## Slots -/

/-- What is wrong with a slot: its own fault, or that of the widget that it refers to. -/
def slotFault (below : Identifier → Option Error) : Slot → Option Error
  | .error e => some (.config e)
  | .ok none => none
  | .ok (some id) => below id

/-- Slots fail to be filled at the first one that has a fault. -/
theorem fault_of_fill (resolve : Identifier → Except Error Widget) (slots : List Slot) :
    faultOf (Registry.fill resolve slots) =
      slots.findSome? (slotFault fun id => faultOf (resolve id)) := by
  induction slots with
  | nil => rfl
  | cons slot slots ih =>
      rw [List.findSome?_cons, ← ih]
      rcases slot with e | _ | id
      · rfl
      · rw [Registry.fill, slotFault]
        cases Registry.fill resolve slots <;> rfl
      · rw [Registry.fill, slotFault]
        cases resolve id with
        | error e => rfl
        | ok widget => cases Registry.fill resolve slots <;> rfl

/-- A slot is checked by what checks its reference, and then by the widget that it refers to. -/
theorem slot_fault_eq {slot : Slot} {first : Option Error} {references : List Identifier}
    (hfirst : (faultOf slot).map Error.config = first)
    (hreferences : ∀ object, slot = .ok object → references = object.toList) :
    slotFault below slot = first.or
      (Check.firstFault widget fields below (references.map .reference)) := by
  subst hfirst
  cases slot with
  | error e => rfl
  | ok object =>
      rw [hreferences object rfl]
      cases object with
      | none => rfl
      | some id =>
          rw [Option.toList_some, List.map_singleton, Check.first_fault_cons]
          show below id = (below id).or none
          rw [Option.or_none]

/-! ## Items -/

/-- An item that is nested is an object. -/
theorem nested_eq_ok {c nested : Configuration} {path : String} {item : Json}
    (h : c.nested path item = .ok nested) :
    ∃ members, item = .object members ∧ nested = ⟨c.widget, some (c.fieldPath path), members⟩ := by
  cases item with
  | object members =>
      cases h
      exact ⟨members, rfl, rfl⟩
  | _ => cases h

/-- Items have to be objects. -/
theorem fault?_nested {position : Nat} {item : Json}
    (hitem : FieldPath.follow? [⟨"items", [position]⟩] (.object fields) = some item) :
    (Check.field [⟨"items", [position]⟩] .object).fault? widget fields below =
      (faultOf ((Configuration.ofFields widget fields).nested (itemPath "items" position)
        item)).map .config := by
  rw [Check.fault?_item hitem]
  cases item <;> rfl

/-- A faultless slot of an item refers to what the item names. -/
theorem item_references_eq {item : Json} {object : Option Identifier}
    (h : layoutItem? item = some object) : itemReferences item = object.toList := by
  cases item with
  | object members => exact object_references_eq h
  | _ => cases h

/-- The slot of an item of a layout is checked by the item, by the reference in it, and by the
widget that it refers to. -/
theorem slot_fault_layout {position : Nat} {item : Json}
    (hitem : FieldPath.follow? [⟨"items", [position]⟩] (.object fields) = some item) :
    slotFault below (layoutSlot (.ofFields widget fields) position item) =
      Check.firstFault widget fields below
        (layoutItemChecks position ++ (itemReferences item).map .reference) := by
  rw [Check.first_fault_append]
  refine slot_fault_eq ?_ fun object hobject => item_references_eq (layout_slot_eq_ok.mp hobject)
  rw [layoutItemChecks, Check.first_fault_cons, Check.first_fault_singleton]
  refine map_fault_of_bind (fault?_nested hitem).symm fun nested hnested => ?_
  obtain ⟨members, rfl, rfl⟩ := nested_eq_ok hnested
  exact (Check.fault?_member hitem (Configuration.judges_reference _ "object")).symm

/-- The items of a layout are checked one after the other. -/
theorem find_layout_slots {position : Nat} {items : List Json}
    (h : ItemsFrom fields "items" position items) :
    (layoutSlots (.ofFields widget fields) position items).findSome? (slotFault below) =
      Check.firstFault widget fields below (layoutChecks position items) := by
  induction items generalizing position with
  | nil => rfl
  | cons item rest ih =>
      rw [layoutSlots, Check.find_some_cons, slot_fault_layout h.head, ih h.tail,
        layoutChecks, ← Check.first_fault_append]

/-- The name of a tab must be new. -/
theorem judges_fresh {c : Configuration} {name : String} (hname : c.label "name" = .ok name)
    (seen : List String) :
    c.Judges "name" (if seen.contains name then .error (c.error "name" (.duplicateTab name))
      else .ok ()) (.fresh seen) := by
  obtain ⟨value, hvalue, hlabel⟩ := Option.bind_eq_some_iff.mp (label_eq_ok.mp hname)
  have hnull : value.isNull = false := by
    cases value with
    | null => cases hlabel
    | _ => rfl
  unfold Configuration.Judges
  rw [hvalue, Rule.fault?, hnull, if_neg Bool.false_ne_true, Rule.valueFault?, hlabel,
    Option.bind_some]
  by_cases hseen : name ∈ seen
  · rw [if_pos (List.contains_iff_mem.mpr hseen), if_pos hseen]
    rfl
  · rw [if_neg (fun h => hseen (List.contains_iff_mem.mp h)), if_neg hseen]
    rfl

/-- An item of a tabs widget is checked by its name and by the reference in it. -/
theorem fault_of_tab {seen : List String} {position : Nat} {item : Json}
    (hitem : FieldPath.follow? [⟨"items", [position]⟩] (.object fields) = some item) :
    (faultOf (tab (.ofFields widget fields) seen position item)).map Error.config =
      Check.firstFault widget fields below (tabItemChecks seen position) := by
  simp only [tabItemChecks, Check.first_fault_cons]
  refine map_fault_of_bind (fault?_nested hitem).symm fun nested hnested => ?_
  obtain ⟨members, rfl, rfl⟩ := nested_eq_ok hnested
  refine map_fault_of_bind
    (Check.fault?_member hitem (Configuration.judges_label _ "name")).symm fun name hname => ?_
  have hsplit : ∀ {e : ConfigError} {rest : Except ConfigError (String × Option Identifier)},
      (if seen.contains name then .error e else rest) =
        (if seen.contains name then .error e else .ok ()) >>= fun _ => rest := by
    intro e rest
    split <;> rfl
  rw [hsplit]
  refine map_fault_of_bind
    (Check.fault?_member hitem (judges_fresh hname seen)).symm fun _ _ => ?_
  exact map_fault_of_bind
    (Check.fault?_member hitem (Configuration.judges_reference _ "object")).symm fun _ _ => rfl

/-- The slot of an item of a tabs widget is checked by the item and by the widget that it refers
to. -/
theorem slot_fault_tab {seen : List String} {position : Nat} {item : Json}
    (hitem : FieldPath.follow? [⟨"items", [position]⟩] (.object fields) = some item) :
    slotFault below ((tab (.ofFields widget fields) seen position item).map Prod.snd) =
      Check.firstFault widget fields below
        (tabItemChecks seen position ++ (itemReferences item).map .reference) := by
  rw [Check.first_fault_append]
  refine slot_fault_eq ?_ fun object hobject => ?_
  · rw [fault_of_map]
    exact fault_of_tab hitem
  · obtain ⟨⟨name, _⟩, htab, rfl⟩ := map_eq_ok.mp hobject
    exact item_references_eq (layout_item_of_tab (tab_eq_ok.mp htab).1)

/-- The name of a faultless item of a tabs widget. -/
theorem tab_label_eq {item : Json} {tab : String × Option Identifier}
    (h : tabItem? item = some tab) : tabLabel? item = some tab.1 := by
  cases item with
  | object members =>
      simp only [tabItem?, Option.bind_eq_bind, Option.bind_eq_some_iff, Option.some.injEq] at h
      obtain ⟨name, hname, _, _, rfl⟩ := h
      exact hname
  | _ => cases h

/-- The items of a tabs widget are checked one after the other. -/
theorem find_tab_slots {seen : List String} {position : Nat} {items : List Json}
    (h : ItemsFrom fields "items" position items) :
    ((tabItems (.ofFields widget fields) seen position items).map (Except.map Prod.snd)).findSome?
        (slotFault below) =
      Check.firstFault widget fields below (tabChecks seen position items) := by
  induction items generalizing seen position with
  | nil => rfl
  | cons item rest ih =>
      rw [tabChecks, Check.first_fault_append, ← slot_fault_tab h.head, tabItems]
      cases htab : tab (.ofFields widget fields) seen position item with
      | error e => rfl
      | ok found =>
          obtain ⟨name, object⟩ := found
          rw [tab_label_eq (tab_eq_ok.mp htab).1, Option.toList_some, ← ih h.tail]
          exact Check.find_some_cons _ _ _

/-! ## Widgets -/

/-- A widget fails to be configured at the first fault of its outline or else of its slots. -/
theorem fault_of_completion {outline : Except Error Outline}
    {resolve : Identifier → Except Error Widget} {first second : Option Error}
    (hfirst : faultOf outline = first)
    (hsecond : ∀ found, outline = .ok found →
      found.slots.findSome? (slotFault fun id => faultOf (resolve id)) = second) :
    faultOf (outline >>= fun found => Registry.fill resolve found.slots >>= fun children =>
      .ok (Widget.node found.frame children)) = first.or second := by
  refine fault_of_bind hfirst fun found hfound => ?_
  rw [← hsecond found hfound, ← fault_of_fill]
  cases Registry.fill resolve found.slots <;> rfl

/-- A widget without slots fails to be configured at the first fault of its fields. -/
theorem fault_of_leaf {content : Except ConfigError Frame}
    {resolve : Identifier → Except Error Widget} :
    faultOf (leaf content >>= fun found => Registry.fill resolve found.slots >>= fun children =>
      .ok (Widget.node found.frame children)) = (faultOf content).map .config := by
  cases content <;> rfl

/-- The fields of a textual widget are checked in order. -/
theorem fault_of_textual (default : Horizontal) :
    (faultOf (Textual.configure (.ofFields widget fields) default)).map Error.config =
      Check.firstFault widget fields below textualChecks := by
  simp only [textualChecks, Check.first_fault_cons]
  refine map_fault_of_bind (Check.fault?_field (Configuration.judges_text _ "text")).symm
    fun _ _ => ?_
  refine map_fault_of_bind
    (Check.fault?_field (Configuration.judges_optional _ "align" _ _)).symm fun _ _ => ?_
  exact map_fault_of_bind (Check.fault?_field (Configuration.judges_color _)).symm fun _ _ => rfl

/-- The fields of a visual medium are checked in order. -/
theorem fault_of_visual (frame : String → Option Contain → Frame) :
    (faultOf (source (.ofFields widget fields) >>= fun url =>
        contain (.ofFields widget fields) >>= fun fit => .ok (frame url fit))).map Error.config =
      Check.firstFault widget fields below visualChecks := by
  simp only [visualChecks, Check.first_fault_cons]
  refine map_fault_of_bind (Check.fault?_field (Configuration.judges_source _)).symm
    fun _ _ => ?_
  exact map_fault_of_bind
    (Check.fault?_field (Configuration.judges_optional _ "contain" _ _)).symm fun _ _ => rfl

/-- The fields of a container are checked in order. -/
theorem fault_of_container :
    (faultOf (containerOutline (.ofFields widget fields))).map Error.config =
      Check.firstFault widget fields below
        [.field [⟨"title", []⟩] .label, .field [⟨"object", []⟩] .reference] := by
  simp only [Check.first_fault_cons]
  refine map_fault_of_bind (Check.fault?_field (Configuration.judges_label _ "title")).symm
    fun _ _ => ?_
  exact map_fault_of_bind
    (Check.fault?_field (Configuration.judges_reference _ "object")).symm fun _ _ => rfl

/-- The fields of a tabs widget are checked in order. -/
theorem fault_of_tabs :
    (faultOf (tabsOutline (.ofFields widget fields))).map Error.config =
      Check.firstFault widget fields below
        [.field [⟨"position", []⟩] (.optional (fun value => (value.choice? Side.ofName?).isSome)
            "one of top, right, bottom, left"),
          .field [⟨"items", []⟩] .filled] := by
  simp only [Check.first_fault_cons]
  refine map_fault_of_bind
    (Check.fault?_field (Configuration.judges_optional _ "position" _ _)).symm fun _ _ => ?_
  exact map_fault_of_bind
    (Check.fault?_field (Configuration.judges_array _ "items")).symm fun _ _ => rfl

/-- The items of a layout, of which there may be none. -/
def layoutItems (c : Configuration) : Except ConfigError (List Json) := do
  match ← c.require "items" with
  | .array items => .ok items
  | _ => .error (c.error "items" .notArray)

theorem judges_layout_items (c : Configuration) : c.Judges "items" (layoutItems c) .array := by
  refine Configuration.judges_require c "items" rfl rfl fun value => ?_
  cases value <;> rfl

/-- A layout is read from its numbers and its items. -/
theorem layout_outline_eq (c : Configuration) :
    layoutOutline c = (c.positiveNumbers "columns").mapError .config >>= fun columns =>
      (c.positiveNumbers "rows").mapError .config >>= fun rows =>
      (layoutItems c).mapError .config >>= fun items =>
      if columns.length * rows.length < items.length then
        .error (.capacity (columns.length * rows.length) items.length)
      else .ok ⟨.layout columns rows, layoutSlots c 0 items ++
        List.replicate (columns.length * rows.length - items.length) (.ok none)⟩ := by
  unfold layoutOutline layoutItems
  congr 1
  funext columns
  congr 1
  funext rows
  cases c.require "items" with
  | error e => rfl
  | ok value => cases value <;> rfl

/-- The items of a layout are those of its field. -/
theorem get?_of_layout_items {c : Configuration} {items : List Json}
    (h : layoutItems c = .ok items) : Table.get? "items" c.fields = some (.array items) := by
  obtain ⟨value, hvalue, h⟩ := bind_eq_ok.mp h
  obtain ⟨hget, _⟩ := require_eq_ok.mp hvalue
  rw [hget]
  cases value with
  | array list =>
      cases h
      rfl
  | _ => cases h

/-- The fields of a layout are checked in order, and then its room. -/
theorem fault_of_layout :
    faultOf (layoutOutline (.ofFields widget fields)) =
      Check.firstFault widget fields below
        (trackChecks "columns" fields ++ (trackChecks "rows" fields ++
          [.field [⟨"items", []⟩] .array,
            .capacity ((itemsAt "columns" fields).length * (itemsAt "rows" fields).length)
              (itemsAt "items" fields).length])) := by
  rw [Check.first_fault_append, Check.first_fault_append, Check.first_fault_cons,
    Check.first_fault_singleton, layout_outline_eq]
  refine fault_of_bind ?_ fun columns hcolumns => fault_of_bind ?_ fun rows hrows =>
    fault_of_bind ?_ fun items hitems => ?_
  · rw [fault_of_map_error]
    exact fault_of_positive_numbers "columns"
  · rw [fault_of_map_error]
    exact fault_of_positive_numbers "rows"
  · rw [fault_of_map_error]
    exact (Check.fault?_field (judges_layout_items _)).symm
  · have hget : Table.get? "items" fields = some (.array items) :=
      get?_of_layout_items (map_error_eq_ok.mp hitems)
    rw [Check.fault?, items_at_eq hget, ← length_of_positive_numbers (map_error_eq_ok.mp hcolumns),
      ← length_of_positive_numbers (map_error_eq_ok.mp hrows)]
    split <;> rfl

/-- The slots of a layout are those of its items, and then empty ones. -/
theorem find_slots_of_layout {found : Outline}
    (h : layoutOutline (.ofFields widget fields) = .ok found) :
    found.slots.findSome? (slotFault below) =
      Check.firstFault widget fields below (layoutChecks 0 (itemsAt "items" fields)) := by
  simp only [layout_outline_eq, bind_eq_ok, map_error_eq_ok] at h
  obtain ⟨columns, _, rows, _, items, hitems, h⟩ := h
  have hget : Table.get? "items" fields = some (.array items) := get?_of_layout_items hitems
  split at h
  · cases h
  · cases h
    have hempty : (List.replicate (columns.length * rows.length - items.length)
        (.ok none : Slot)).findSome? (slotFault below) = none := by
      rw [List.findSome?_eq_none_iff]
      intro slot hslot
      rw [List.eq_of_mem_replicate hslot]
      rfl
    rw [List.findSome?_append, hempty, Option.or_none, items_at_eq hget]
    exact find_layout_slots (items_from_zero hget)

/-- The slots of a tabs widget are those of its items. -/
theorem find_slots_of_tabs {found : Outline}
    (h : tabsOutline (.ofFields widget fields) = .ok found) :
    found.slots.findSome? (slotFault below) =
      Check.firstFault widget fields below (tabChecks [] 0 (itemsAt "items" fields)) := by
  simp only [tabsOutline, bind_eq_ok] at h
  obtain ⟨side, _, items, hitems, h⟩ := h
  have hget : Table.get? "items" fields = some (.array items) := get?_of_array hitems
  cases h
  rw [items_at_eq hget]
  exact find_tab_slots (items_from_zero hget)

/-- The slot of a container is checked by the widget that it refers to. -/
theorem find_slots_of_container {found : Outline}
    (h : containerOutline (.ofFields widget fields) = .ok found) :
    found.slots.findSome? (slotFault below) =
      Check.firstFault widget fields below ((objectReferences fields).map .reference) := by
  simp only [containerOutline, bind_eq_ok] at h
  obtain ⟨title, _, object, hobject, h⟩ := h
  have hreferences : objectReferences fields = object.toList :=
    object_references_eq (reference_eq_ok.mp hobject)
  cases h
  rw [hreferences]
  cases object with
  | none => rfl
  | some id => rfl

/-- **Configuring a widget** of a core type fails with the first fault that its checks find. -/
theorem fault_of_level {factory : Factory} (hcore : ∀ type, factory ≠ .custom type)
    (fields : Fields) (chain : List Identifier) (resolve : Identifier → Except Error Widget) :
    faultOf (factory.outline fields chain >>= fun found =>
        Registry.fill resolve found.slots >>= fun children =>
          .ok (Widget.node found.frame children)) =
      Check.firstFault factory.typeName fields (fun id => faultOf (resolve id))
        (factory.checks fields) := by
  cases factory with
  | void => rfl
  | text | banner =>
      refine fault_of_leaf.trans ?_
      exact (congrArg (Option.map _) (fault_of_map _ _)).trans (fault_of_textual _)
  | image | video => exact fault_of_leaf.trans (fault_of_visual _)
  | audio =>
      refine fault_of_leaf.trans ?_
      refine (congrArg (Option.map _) (fault_of_map _ _)).trans ?_
      rw [checks, Check.first_fault_singleton]
      exact (Check.fault?_field (Configuration.judges_source _)).symm
  | container =>
      rw [checks, Check.first_fault_append]
      refine fault_of_completion ?_ fun found hfound => ?_
      · exact (fault_of_map_error _ _).trans fault_of_container
      · exact find_slots_of_container (map_error_eq_ok.mp hfound)
  | layout =>
      rw [checks, Check.first_fault_append]
      exact fault_of_completion fault_of_layout fun found hfound => find_slots_of_layout hfound
  | tabs =>
      rw [checks, Check.first_fault_append]
      refine fault_of_completion ?_ fun found hfound => ?_
      · exact (fault_of_map_error _ _).trans fault_of_tabs
      · exact find_slots_of_tabs (map_error_eq_ok.mp hfound)
  | custom type => exact absurd rfl (hcore type)

end Factory

end Widgetry
