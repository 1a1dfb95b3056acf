import Widgetry.Json.Basic
import Widgetry.Proofs.Table

/-!
# Tables and values in order

A table is in order if its keys increase, and a JSON value is if all objects in it are. Data become
values in order, each key once: `is_ordered_of_datum`. A value in order is the value of its own
data: `of_datum_to_datum`.
-/

namespace Widgetry

namespace Table

variable {α : Type} {key : String} {value : α} {table entries : List (String × α)}

/-- The keys of the table increase, so that each occurs once. -/
def IsOrdered (table : List (String × α)) : Prop :=
  table.Pairwise fun entry later => entry.1 < later.1

/-- Setting a value keeps the order. -/
theorem is_ordered_insert (h : IsOrdered table) (key : String) (value : α) :
    IsOrdered (insert key value table) := by
  induction table with
  | nil => exact List.pairwise_singleton _ _
  | cons entry rest ih =>
      obtain ⟨k, v⟩ := entry
      obtain ⟨hk, hrest⟩ := List.pairwise_cons.mp h
      rw [insert]
      split
      · rename_i hlt
        refine List.pairwise_cons.mpr ⟨?_, h⟩
        exact List.forall_mem_cons.mpr
          ⟨hlt, fun later hlater => String.lt_trans hlt (hk later hlater)⟩
      split
      · rename_i heq
        subst heq
        exact List.pairwise_cons.mpr ⟨hk, hrest⟩
      · rename_i hle hne
        refine List.pairwise_cons.mpr ⟨fun later hlater => ?_, ih hrest⟩
        rcases mem_of_mem_insert hlater with rfl | hlater
        · exact Std.lt_of_le_of_ne (String.not_lt.mp hle) (Ne.symm hne)
        · exact hk later hlater

/-- The table of any entries is in order. -/
theorem is_ordered_of_list (entries : List (String × α)) : IsOrdered (ofList entries) :=
  List.foldlRecOn entries _ List.Pairwise.nil
    fun _ htable entry _ => is_ordered_insert htable entry.1 entry.2

/-- The table of some entries has no others. -/
theorem mem_of_mem_of_list (entries : List (String × α)) :
    ∀ entry ∈ ofList entries, entry ∈ entries := by
  refine List.foldlRecOn (motive := fun table => ∀ entry ∈ table, entry ∈ entries) entries _
    (List.forall_mem_nil _) ?_
  intro table htable new hnew entry hentry
  rcases mem_of_mem_insert hentry with rfl | hentry
  · exact hnew
  · exact htable entry hentry

/-- A key above all others comes last. -/
theorem insert_of_forall_lt (h : ∀ entry ∈ table, entry.1 < key) :
    insert key value table = table ++ [(key, value)] := by
  induction table with
  | nil => rfl
  | cons entry rest ih =>
      obtain ⟨k, v⟩ := entry
      obtain ⟨hk, hrest⟩ := List.forall_mem_cons.mp h
      have hne : key ≠ k := fun heq => String.lt_irrefl k (heq ▸ hk)
      rw [insert, if_neg (String.lt_asymm hk), if_neg hne, ih hrest]
      rfl

/-- Entries in order are set one after the other. -/
theorem foldl_insert_of_is_ordered (h : IsOrdered (table ++ entries)) :
    entries.foldl (fun table entry => insert entry.1 entry.2 table) table = table ++ entries := by
  induction entries generalizing table with
  | nil => exact (List.append_nil table).symm
  | cons entry rest ih =>
      have hlast : ∀ other ∈ table, other.1 < entry.1 := fun other hother =>
        (List.pairwise_append.mp h).2.2 other hother entry List.mem_cons_self
      rw [List.append_cons] at h
      rw [List.foldl_cons, insert_of_forall_lt hlast, ih h, List.append_assoc]
      rfl

/-- A table in order is the table of its entries. -/
theorem of_list_eq_self (h : IsOrdered entries) : ofList entries = entries :=
  foldl_insert_of_is_ordered h

/-- The value of an entry of a table in order is found under its key. -/
theorem get?_of_mem (h : IsOrdered table) (hmem : (key, value) ∈ table) :
    get? key table = some value := by
  induction table with
  | nil => cases hmem
  | cons entry rest ih =>
      obtain ⟨k, v⟩ := entry
      obtain ⟨hk, hrest⟩ := List.pairwise_cons.mp h
      rw [get?]
      rcases List.mem_cons.mp hmem with heq | hmem
      · cases heq
        rw [if_pos rfl]
      · have hne : key ≠ k := fun heq => String.lt_irrefl k (heq ▸ hk _ hmem)
        rw [if_neg hne, ih hrest hmem]

end Table

namespace Json

mutual

/-- All objects in a value are in order. -/
def IsOrdered : Json → Prop
  | .array items => AreOrdered items
  | .object members => Table.IsOrdered members ∧ MembersAreOrdered members
  | _ => True

/-- All objects in some values are in order. -/
def AreOrdered : List Json → Prop
  | [] => True
  | item :: rest => IsOrdered item ∧ AreOrdered rest

/-- All objects below the members of an object are in order. -/
def MembersAreOrdered : List (String × Json) → Prop
  | [] => True
  | (_, item) :: rest => IsOrdered item ∧ MembersAreOrdered rest

end

/-- The data of an object have its keys. -/
theorem to_entries_eq_map (members : List (String × Json)) :
    toEntries members = members.map fun member => (member.1, member.2.toDatum) := by
  induction members with
  | nil => rfl
  | cons member rest ih =>
      obtain ⟨key, item⟩ := member
      rw [toEntries, ih]
      rfl

/-- The data of an array, item by item. -/
theorem to_items_eq_map (items : List Json) : toItems items = items.map toDatum := by
  induction items with
  | nil => rfl
  | cons item rest ih =>
      rw [toItems, ih]
      rfl

theorem members_are_ordered_iff {members : List (String × Json)} :
    MembersAreOrdered members ↔ ∀ member ∈ members, member.2.IsOrdered := by
  induction members with
  | nil => simp [MembersAreOrdered]
  | cons member rest ih =>
      obtain ⟨key, item⟩ := member
      rw [MembersAreOrdered, ih, List.forall_mem_cons]

mutual

/-- A value in order is the value of its own data. -/
theorem of_datum_to_datum : ∀ {value : Json}, value.IsOrdered →
    ofDatum? value.toDatum = some value
  | .null, _ | .bool _, _ | .integer _, _ | .float _, _ | .string _, _ => rfl
  | .array items, h => by
      rw [toDatum, ofDatum?, of_items_to_items h]
      rfl
  | .object members, h => by
      rw [toDatum, ofDatum?, of_entries_to_entries h.2]
      exact congrArg (fun table => some (Json.object table)) (Table.of_list_eq_self h.1)

theorem of_items_to_items : ∀ {items : List Json}, AreOrdered items →
    ofItems? (toItems items) = some items
  | [], _ => rfl
  | item :: rest, h => by
      rw [toItems, ofItems?, of_datum_to_datum h.1, of_items_to_items h.2]
      rfl

theorem of_entries_to_entries : ∀ {members : List (String × Json)}, MembersAreOrdered members →
    ofEntries? (toEntries members) = some members
  | [], _ => rfl
  | (key, item) :: rest, h => by
      rw [toEntries, ofEntries?, of_datum_to_datum h.1, of_entries_to_entries h.2]
      rfl

end

mutual

/-- The value of any data is in order. -/
theorem is_ordered_of_datum : ∀ {datum : Datum} {value : Json}, ofDatum? datum = some value →
    value.IsOrdered
  | .null, _, h | .bool _, _, h | .integer _, _, h | .float _, _, h | .string _, _, h => by
      cases h
      trivial
  | .list items, _, h => by
      rw [ofDatum?] at h
      obtain ⟨values, hvalues, rfl⟩ := Option.map_eq_some_iff.mp h
      exact are_ordered_of_items hvalues
  | .table entries, _, h => by
      rw [ofDatum?] at h
      obtain ⟨members, hmembers, rfl⟩ := Option.map_eq_some_iff.mp h
      have hbelow := members_are_ordered_iff.mp (members_are_ordered_of_entries hmembers)
      refine ⟨Table.is_ordered_of_list members, members_are_ordered_iff.mpr ?_⟩
      exact fun member hmember => hbelow member (Table.mem_of_mem_of_list members member hmember)
  | .malformed, _, h => by cases h

theorem are_ordered_of_items : ∀ {items : List Datum} {values : List Json},
    ofItems? items = some values → AreOrdered values
  | [], _, h => by
      cases h
      trivial
  | item :: rest, _, h => by
      simp only [ofItems?, Option.bind_eq_bind, Option.bind_eq_some_iff, Option.some.injEq] at h
      obtain ⟨value, hvalue, values, hvalues, rfl⟩ := h
      exact ⟨is_ordered_of_datum hvalue, are_ordered_of_items hvalues⟩

theorem members_are_ordered_of_entries : ∀ {entries : List (String × Datum)}
    {members : List (String × Json)}, ofEntries? entries = some members →
    MembersAreOrdered members
  | [], _, h => by
      cases h
      trivial
  | (key, item) :: rest, _, h => by
      simp only [ofEntries?, Option.bind_eq_bind, Option.bind_eq_some_iff, Option.some.injEq] at h
      obtain ⟨value, hvalue, members, hmembers, rfl⟩ := h
      exact ⟨is_ordered_of_datum hvalue, members_are_ordered_of_entries hmembers⟩

end

end Json

end Widgetry
