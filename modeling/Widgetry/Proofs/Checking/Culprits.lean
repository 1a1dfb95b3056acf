import Widgetry.Proofs.Checking.Checks
import Widgetry.Proofs.Resolution.Unfolding

/-!
# The culprit of a configuration error

`Registry.agenda` lists all that resolving an identifier asks of a document, in the order in which
it is asked: records and their fields in the checking order of their widgets, depth first along the
references. Resolution fails with the fault of the first demand that is not met:
`fault_of_resolve_below`. So a configuration error names the type of a record within reach and the
path to a value in it that breaks a rule, and everything before it on the agenda is valid:
`config_errors_name_the_culprit`.
-/

namespace Widgetry

/-- What is asked of a document: an identifier must not be its own ancestor, a level must be left,
there must be a record of a declared type, a value in it must follow a rule, and items must have
room. -/
inductive Demand where
  | newcomer (ancestry : List Identifier) (id : Identifier)
  | level (id : Identifier)
  | declared (id : Identifier)
  | field (id : Identifier) (path : FieldPath) (rule : Rule)
  | capacity (slots items : Nat)

namespace Document

/-- The name of the type of a record. -/
def typeName? (document : Document) (id : Identifier) : Option String :=
  (document.record? id).bind fun record => document.types[record.typeIndex]?

/-- The value to which a path leads in a record. -/
def value? (document : Document) (id : Identifier) (path : FieldPath) : Option Json :=
  (document.record? id).bind fun record => path.follow? (.object record.fields)

end Document

/-- What is wrong if a demand is not met. No demand for a level is made while one is left. -/
def Demand.fault? (registry : Registry) (document : Document) : Demand → Option Error
  | .newcomer ancestry id =>
      if id ∈ ancestry then some (.recursive id.text ((ancestry ++ [id]).map Identifier.text))
      else none
  | .level id => some (.recursive id.text [])
  | .declared id => (faultOf (registry.lookup document id)).map .structure
  | .field id path rule =>
      (rule.fault? (document.value? id path)).map fun reason =>
        .config ⟨(document.typeName? id).getD "", path.text, reason⟩
  | .capacity slots items => if slots < items then some (.capacity slots items) else none

/-- The demands of a check in the record of `id`; `below` lists those of the widgets that it refers
to. -/
def Check.demands (id : Identifier) (below : Identifier → List Demand) : Check → List Demand
  | .field path rule => [.field id path rule]
  | .capacity slots items => [.capacity slots items]
  | .reference child => below child

namespace Registry

/-- The checks of the widget that an identifier addresses. -/
def checks (registry : Registry) (document : Document) (id : Identifier) : List Check :=
  match registry.lookup document id with
  | .ok (factory, fields) => factory.checks fields
  | .error _ => []

/-- What resolving an identifier below its ancestors asks of a document, in order. -/
def agenda (registry : Registry) (document : Document) :
    (budget : Nat) → (ancestry : List Identifier) → Identifier → List Demand
  | 0, ancestry, id =>
      [.newcomer ancestry (document.canonical id), .level (document.canonical id)]
  | budget + 1, ancestry, id =>
      .newcomer ancestry (document.canonical id) :: .declared (document.canonical id) ::
        (registry.checks document (document.canonical id)).flatMap
          (Check.demands (document.canonical id)
            (agenda registry document budget (ancestry ++ [document.canonical id])))

/-! ## Core registries -/

/-- The declared widgets of a core registry. -/
theorem core_declarations (maxDepth : Nat) :
    (core maxDepth).declarations = [("audio", .audio), ("banner", .banner),
      ("container", .container), ("image", .image), ("layout", .layout), ("null", .void),
      ("tabs", .tabs), ("text", .text), ("video", .video), ("void", .void)] := rfl

/-- The widgets of a core registry are declared under the names of their types, but the void widget
has another name, too. -/
theorem of_core_factory? {maxDepth : Nat} {name : String} {factory : Factory}
    (h : (core maxDepth).factory? name = some factory) :
    (∀ type, factory ≠ .custom type) ∧ (factory = .void ∨ name = factory.typeName) := by
  have hmem := Table.mem_of_get? h
  rw [core_declarations] at hmem
  simp only [List.mem_cons, List.not_mem_nil, or_false] at hmem
  rcases hmem with h | h | h | h | h | h | h | h | h | h <;> cases h <;> simp [Factory.typeName]

variable {registry : Registry} {document : Document}

/-! ## The first fault of the agenda -/

/-- The first value along lists that are joined is found list by list. -/
theorem find_some_flat_map {α β γ : Type} (f : β → Option γ) (g : α → List β) (as : List α) :
    (as.flatMap g).findSome? f = as.findSome? fun a => (g a).findSome? f := by
  induction as with
  | nil => rfl
  | cons a as ih => rw [List.flatMap_cons, List.findSome?_append, ih, Check.find_some_cons]

/-- The first value depends on the members of a list only. -/
theorem find_some_congr {α β : Type} {f g : α → Option β} {as : List α}
    (h : ∀ a ∈ as, f a = g a) : as.findSome? f = as.findSome? g := by
  induction as with
  | nil => rfl
  | cons a as ih =>
      obtain ⟨ha, has⟩ := List.forall_mem_cons.mp h
      rw [Check.find_some_cons, Check.find_some_cons, ha, ih has]

/-- What a check finds in a record is the fault of the first of its demands that is not met. -/
theorem fault?_eq_find_demands {maxDepth : Nat} {id : Identifier} {factory : Factory}
    {fields : Fields} (hlookup : (core maxDepth).lookup document id = .ok (factory, fields))
    {below : Identifier → Option Error} {demands : Identifier → List Demand}
    (hbelow : ∀ child, below child =
      (demands child).findSome? (Demand.fault? (core maxDepth) document))
    {check : Check} (hcheck : check ∈ factory.checks fields) :
    check.fault? factory.typeName fields below =
      (check.demands id demands).findSome? (Demand.fault? (core maxDepth) document) := by
  obtain ⟨record, name, hrecord, hname, hfactory, rfl⟩ := lookup_eq_ok hlookup
  cases check with
  | field path rule =>
      have htype : document.typeName? id = some factory.typeName := by
        rcases (of_core_factory? hfactory).2 with rfl | rfl
        · cases hcheck
        · unfold Document.typeName?
          rw [hrecord]
          exact hname
      have hvalue : document.value? id path = path.follow? (.object record.fields) := by
        unfold Document.value?
        rw [hrecord]
        rfl
      rw [Check.demands, Check.find_some_cons, Demand.fault?, htype, hvalue]
      exact Option.or_none.symm
  | capacity slots items =>
      rw [Check.demands, Check.find_some_cons]
      exact Option.or_none.symm
  | reference child => exact hbelow child

/-- Resolution in a core registry fails with the fault of the first demand that is not met. -/
theorem fault_of_resolve_below {maxDepth budget : Nat} {ancestry : List Identifier}
    {id : Identifier} :
    faultOf ((core maxDepth).resolveBelow document budget ancestry id) =
      ((core maxDepth).agenda document budget ancestry id).findSome?
        (Demand.fault? (core maxDepth) document) := by
  induction budget generalizing ancestry id with
  | zero =>
      rw [resolve_below_zero, agenda, Check.find_some_cons, Demand.fault?]
      split <;> rfl
  | succ budget ih =>
      rw [resolve_below_succ, agenda, Check.find_some_cons, Check.find_some_cons, Demand.fault?,
        Demand.fault?]
      split
      · rfl
      · unfold outline checks
        cases hlookup : (core maxDepth).lookup document (document.canonical id) with
        | error e => rfl
        | ok found =>
            obtain ⟨factory, fields⟩ := found
            obtain ⟨_, name, _, _, hfactory, _⟩ := lookup_eq_ok hlookup
            refine (Factory.fault_of_level (of_core_factory? hfactory).1 fields _ _).trans ?_
            refine Eq.trans ?_ (find_some_flat_map _ _ _).symm
            exact find_some_congr fun check hcheck =>
              fault?_eq_find_demands hlookup (fun child => ih) hcheck

end Registry

/-! ## Where the demands come from -/

/-- A check is in order if the path of its field can be read back from its text, and if the widget
it refers to is among `references`. -/
def Check.IsProper (references : List Identifier) : Check → Prop
  | .field path _ => path ≠ [] ∧ ∀ segment ∈ path, segment.IsPlain
  | .capacity _ _ => True
  | .reference child => child ∈ references

namespace Factory

variable {references : List Identifier}

/-- The check of a single field or item is proper if its name is plain. -/
theorem is_proper_field {name : String} {positions : List Nat} {rule : Rule}
    (h : PathSegment.isPlainName name = true) :
    (Check.field [⟨name, positions⟩] rule).IsProper references :=
  ⟨List.cons_ne_nil _ _, List.forall_mem_singleton.mpr h⟩

/-- The check of a field of an item is proper if its name is plain. -/
theorem is_proper_member {position : Nat} {field : String} {rule : Rule}
    (h : PathSegment.isPlainName field = true) :
    (Check.field [⟨"items", [position]⟩, ⟨field, []⟩] rule).IsProper references :=
  have hitems : PathSegment.isPlainName "items" = true := rfl
  ⟨List.cons_ne_nil _ _, List.forall_mem_cons.mpr ⟨hitems, List.forall_mem_singleton.mpr h⟩⟩

/-- The checks of widgets referred to are proper. -/
theorem are_proper_references {ids : List Identifier} (h : ∀ id ∈ ids, id ∈ references) :
    ∀ check ∈ ids.map Check.reference, check.IsProper references :=
  List.forall_mem_map.mpr h

theorem are_proper_positive {field : String} (hfield : PathSegment.isPlainName field = true)
    (position : Nat) (items : List Json) :
    ∀ check ∈ positiveChecks field position items, check.IsProper references := by
  induction items generalizing position with
  | nil => exact List.forall_mem_nil _
  | cons item rest ih =>
      exact List.forall_mem_cons.mpr ⟨is_proper_field hfield, ih (position + 1)⟩

theorem are_proper_track {field : String} (hfield : PathSegment.isPlainName field = true)
    (fields : Fields) :
    ∀ check ∈ trackChecks field fields, check.IsProper references :=
  List.forall_mem_cons.mpr ⟨is_proper_field hfield, are_proper_positive hfield 0 _⟩

theorem are_proper_layout {position : Nat} {items : List Json}
    (h : ∀ id ∈ items.flatMap itemReferences, id ∈ references) :
    ∀ check ∈ layoutChecks position items, check.IsProper references := by
  induction items generalizing position with
  | nil => exact List.forall_mem_nil _
  | cons item rest ih =>
      rw [List.flatMap_cons, List.forall_mem_append] at h
      rw [layoutChecks, List.forall_mem_append, List.forall_mem_append]
      refine ⟨⟨?_, are_proper_references h.1⟩, ih h.2⟩
      exact List.forall_mem_cons.mpr ⟨is_proper_field rfl,
        List.forall_mem_singleton.mpr (is_proper_member rfl)⟩

theorem are_proper_tabs {seen : List String} {position : Nat} {items : List Json}
    (h : ∀ id ∈ items.flatMap itemReferences, id ∈ references) :
    ∀ check ∈ tabChecks seen position items, check.IsProper references := by
  induction items generalizing seen position with
  | nil => exact List.forall_mem_nil _
  | cons item rest ih =>
      rw [List.flatMap_cons, List.forall_mem_append] at h
      rw [tabChecks, List.forall_mem_append, List.forall_mem_append]
      refine ⟨⟨?_, are_proper_references h.1⟩, ih h.2⟩
      simp only [tabItemChecks, List.forall_mem_cons]
      exact ⟨is_proper_field rfl, is_proper_member rfl, is_proper_member rfl, is_proper_member rfl,
        List.forall_mem_nil _⟩

theorem items_at_items (fields : Fields) :
    itemsAt "items" fields = (itemsOf? fields).getD [] := by
  unfold itemsAt itemsOf?
  cases Table.get? "items" fields with
  | none => rfl
  | some value => cases value <;> rfl

/-- The checks of a widget are proper. -/
theorem are_proper_checks (factory : Factory) (fields : Fields) :
    ∀ check ∈ factory.checks fields, check.IsProper (factory.references fields) := by
  cases factory with
  | void | custom => exact List.forall_mem_nil _
  | text | banner =>
      simp only [checks, textualChecks, List.forall_mem_cons]
      exact ⟨is_proper_field rfl, is_proper_field rfl, is_proper_field rfl, List.forall_mem_nil _⟩
  | image | video =>
      simp only [checks, visualChecks, List.forall_mem_cons]
      exact ⟨is_proper_field rfl, is_proper_field rfl, List.forall_mem_nil _⟩
  | audio => exact List.forall_mem_singleton.mpr (is_proper_field rfl)
  | container =>
      simp only [checks, List.forall_mem_append, List.forall_mem_cons]
      exact ⟨⟨is_proper_field rfl, is_proper_field rfl, List.forall_mem_nil _⟩,
        are_proper_references fun _ hid => hid⟩
  | layout =>
      simp only [checks, List.forall_mem_append, List.forall_mem_cons]
      refine ⟨⟨are_proper_track rfl fields, are_proper_track rfl fields,
        is_proper_field rfl, trivial, List.forall_mem_nil _⟩, are_proper_layout fun id hid => ?_⟩
      rwa [items_at_items] at hid
  | tabs =>
      simp only [checks, List.forall_mem_append, List.forall_mem_cons]
      refine ⟨⟨is_proper_field rfl, is_proper_field rfl, List.forall_mem_nil _⟩,
        are_proper_tabs fun id hid => ?_⟩
      rwa [items_at_items] at hid

end Factory

namespace Registry

variable {registry : Registry} {document : Document}

/-- The checks of a record are proper for the widgets that it names. -/
theorem is_proper_of_mem_checks {id : Identifier} {check : Check}
    (h : check ∈ registry.checks document id) :
    check.IsProper (registry.references document id) := by
  unfold checks at h
  split at h
  · rename_i factory fields hlookup
    obtain ⟨record, name, hrecord, hname, hfactory, rfl⟩ := lookup_eq_ok hlookup
    have hreferences : registry.references document id = factory.references record.fields := by
      simp only [references, hrecord, hname, Option.bind_some, hfactory]
    rw [hreferences]
    exact Factory.are_proper_checks factory record.fields check h
  · cases h

/-- The demands on values are made by the checks of records within reach. -/
theorem reaches_of_mem_agenda {budget : Nat} {ancestry : List Identifier}
    {id culprit : Identifier} {path : FieldPath} {rule : Rule}
    (h : .field culprit path rule ∈ registry.agenda document budget ancestry id) :
    registry.Reaches document id culprit ∧
      .field path rule ∈ registry.checks document culprit := by
  induction budget generalizing ancestry id with
  | zero => simp [agenda] at h
  | succ budget ih =>
      simp only [agenda, List.mem_cons, reduceCtorEq, false_or, List.mem_flatMap] at h
      obtain ⟨check, hcheck, h⟩ := h
      cases check with
      | field path' rule' =>
          cases List.mem_singleton.mp h
          exact ⟨.refl, hcheck⟩
      | capacity slots items => cases List.mem_singleton.mp h
      | reference child =>
          obtain ⟨hreaches, hmem⟩ := ih h
          exact ⟨.head ⟨child, is_proper_of_mem_checks hcheck, rfl⟩ hreaches, hmem⟩

/-- The record with a check, and the name of its type. -/
theorem exists_record_of_mem_checks {id : Identifier} {check : Check}
    (h : check ∈ registry.checks document id) :
    ∃ record name, document.record? id = some record ∧
      document.types[record.typeIndex]? = some name := by
  unfold checks at h
  split at h
  · rename_i factory fields hlookup
    obtain ⟨record, name, hrecord, hname, _, _⟩ := lookup_eq_ok hlookup
    exact ⟨record, name, hrecord, hname⟩
  · cases h

/-- Only a value that breaks a rule makes for a configuration error. -/
theorem exists_field_of_fault?_eq_config {demand : Demand} {e : ConfigError}
    (h : demand.fault? registry document = some (.config e)) :
    ∃ culprit path rule, demand = .field culprit path rule ∧
      rule.fault? (document.value? culprit path) = some e.reason ∧
      e.widget = (document.typeName? culprit).getD "" ∧ e.field = path.text := by
  cases demand with
  | newcomer ancestry id =>
      rw [Demand.fault?] at h
      split at h <;> cases h
  | level id => cases h
  | declared id =>
      obtain ⟨_, _, h⟩ := Option.map_eq_some_iff.mp h
      cases h
  | field culprit path rule =>
      obtain ⟨reason, hreason, h⟩ := Option.map_eq_some_iff.mp h
      cases h
      exact ⟨culprit, path, rule, rfl, hreason, rfl, rfl⟩
  | capacity slots items =>
      rw [Demand.fault?] at h
      split at h <;> cases h

/-- The core widgets resolve to the fault of the first demand that is not met, if there is one. -/
theorem resolve_eq_error_iff {maxDepth : Nat} {document : Document} {id : Identifier}
    (error : Error) :
    (core maxDepth).resolve document id = .error error ↔
      ((core maxDepth).agenda document (core maxDepth).maxDepth [] id).findSome?
        (Demand.fault? (core maxDepth) document) = some error := by
  rw [← fault_of_resolve_below, fault_of_eq_some]
  rfl

/-- **Configuration errors name the culprit.** Resolution in a core registry fails exactly if some
demand on the agenda is not met, and with the fault of the first one. If that is a configuration
error, a record within reach has the type that it names, and its field is the path to the value in
this record that breaks a rule: a required value is absent or null, and any other one is there.
Everything before it on the agenda is valid. -/
theorem config_errors_name_the_culprit (maxDepth : Nat) (document : Document) (id : Identifier) :
    (∀ error, (core maxDepth).resolve document id = .error error ↔
      ((core maxDepth).agenda document (core maxDepth).maxDepth [] id).findSome?
        (Demand.fault? (core maxDepth) document) = some error) ∧
    ∀ e, (core maxDepth).resolve document id = .error (.config e) →
      ∃ before culprit path rule after record,
        (core maxDepth).agenda document (core maxDepth).maxDepth [] id =
          before ++ .field culprit path rule :: after ∧
        (∀ demand ∈ before, demand.fault? (core maxDepth) document = none) ∧
        (core maxDepth).Reaches document id culprit ∧
        document.record? culprit = some record ∧
        document.types[record.typeIndex]? = some e.widget ∧
        FieldPath.read? e.field = some path ∧
        rule.fault? (path.follow? (.object record.fields)) = some e.reason ∧
        (e.reason = .required → path.follow? (.object record.fields) = none ∨
          path.follow? (.object record.fields) = some .null) ∧
        (e.reason ≠ .required → ∃ value, path.follow? (.object record.fields) = some value) := by
  refine ⟨resolve_eq_error_iff, fun e h => ?_⟩
  obtain ⟨before, demand, after, hagenda, hdemand, hbefore⟩ :=
    List.findSome?_eq_some_iff.mp ((resolve_eq_error_iff _).mp h)
  obtain ⟨culprit, path, rule, rfl, hrule, hwidget, hfield⟩ :=
    exists_field_of_fault?_eq_config hdemand
  obtain ⟨hreaches, hcheck⟩ :=
    reaches_of_mem_agenda (hagenda ▸ List.mem_append_right before List.mem_cons_self)
  obtain ⟨record, name, hrecord, hname⟩ := exists_record_of_mem_checks hcheck
  obtain ⟨hne, hplain⟩ := is_proper_of_mem_checks hcheck
  have hvalue : document.value? culprit path = path.follow? (.object record.fields) := by
    unfold Document.value?
    rw [hrecord]
    rfl
  have htype : document.types[record.typeIndex]? = some e.widget := by
    rw [hwidget, hname]
    unfold Document.typeName?
    rw [hrecord, Option.bind_some, hname]
    rfl
  rw [hvalue] at hrule
  refine ⟨before, culprit, path, rule, after, record, hagenda, hbefore, hreaches, hrecord, htype,
    ?_, hrule, Rule.absent_of_required hrule, Rule.exists_of_not_required hrule⟩
  rw [hfield]
  exact FieldPath.read?_text hne hplain

/-- A layout of a text and of tabs, two of which have the same name. -/
def ambiguousDocument : Document where
  records := .list [
    ⟨0, [("columns", .array [.integer 1]),
      ("items", .array [.object [("object", .integer 1)], .object [("object", .string "02")]]),
      ("rows", .array [.integer 1, .integer 2])]⟩,
    ⟨1, [("text", .string "first")]⟩,
    ⟨2, [("items", .array [.object [("name", .integer 7), ("object", .null)],
      .object [("name", .string "7"), ("object", .integer 9)]])]⟩]
  types := ["layout", "text", "tabs"]
  root := .index 0

/-- The second tab of `ambiguousDocument` is at fault for its name, before its reference to nowhere
is followed. -/
theorem config_errors_name_the_culprit_ambiguous :
    (core 4).resolve ambiguousDocument (.index 0) =
      .error (.config ⟨"tabs", "items[1].name", .duplicateTab "7"⟩) ∧
    ∃ culprit record path value, (core 4).Reaches ambiguousDocument (.index 0) culprit ∧
      ambiguousDocument.record? culprit = some record ∧
      ambiguousDocument.types[record.typeIndex]? = some "tabs" ∧
      FieldPath.read? "items[1].name" = some path ∧
      path.follow? (.object record.fields) = some value := by
  have hresolve : (core 4).resolve ambiguousDocument (.index 0) =
      .error (.config ⟨"tabs", "items[1].name", .duplicateTab "7"⟩) := rfl
  obtain ⟨_, culprit, path, _, _, record, _, _, hreaches, hrecord, htype, hpath, _, _, hvalue⟩ :=
    (config_errors_name_the_culprit 4 ambiguousDocument (.index 0)).2 _ hresolve
  obtain ⟨value, hvalue⟩ := hvalue (by simp)
  exact ⟨hresolve, culprit, record, path, value, hreaches, hrecord, htype, hpath, hvalue⟩

end Registry

end Widgetry
