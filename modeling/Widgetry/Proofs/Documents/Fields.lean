import Widgetry.Datum
import Widgetry.Proofs.Ordered
import Widgetry.Proofs.Results

/-!
# Fields of a decoded record

A record of any type is decoded from a table field by field. Each component is what its own field
stores, whatever the order of the entries: `get_of_store_entries`. Decoding succeeds if all values
can be stored and no required field is absent: `store_entries_succeeds`, `decode_table_eq_ok`.
-/

namespace Widgetry.Field

variable {ρ α : Type} {fields : List (Field ρ)} {entries : List (String × Datum)}
  {seen met : List String} {start record : ρ} {key name : String} {datum : Datum}

/-- One entry: it is passed over, or it is the first of its name and its value is stored. -/
theorem store_entries_cons_eq_ok :
    storeEntries fields ((key, datum) :: entries) seen start = .ok (met, record) ↔
      (fields.find? (fun field => field.name = key) = none ∧
        storeEntries fields entries seen start = .ok (met, record)) ∨
      ∃ field next, fields.find? (fun field => field.name = key) = some field ∧ key ∉ seen ∧
        field.store datum start = .ok next ∧
        storeEntries fields entries (key :: seen) next = .ok (met, record) := by
  rw [storeEntries]
  cases hfind : fields.find? (fun field => field.name = key) with
  | none => simp
  | some field =>
      by_cases hseen : key ∈ seen
      · simp [hseen]
      · simp [hseen, bind_eq_ok]

/-- A field found by its name is a field of that name. -/
theorem of_find?_eq_some {field : Field ρ}
    (h : fields.find? (fun field => field.name = key) = some field) :
    field ∈ fields ∧ field.name = key :=
  ⟨List.mem_of_find?_eq_some h, by simpa using List.find?_some h⟩

/-- The names met are those of fields that have entries. -/
theorem mem_met_iff (h : storeEntries fields entries seen start = .ok (met, record)) :
    name ∈ met ↔ name ∈ seen ∨
      (∃ field ∈ fields, field.name = name) ∧ Table.contains name entries = true := by
  induction entries generalizing seen start with
  | nil =>
      cases h
      simp [Table.contains, Table.get?]
  | cons entry rest ih =>
      obtain ⟨key, datum⟩ := entry
      have hcontains : Table.contains name ((key, datum) :: rest) = true ↔
          name = key ∨ Table.contains name rest = true := by
        unfold Table.contains
        rw [Table.get?]
        split <;> simp_all
      rw [hcontains]
      rcases store_entries_cons_eq_ok.mp h with ⟨hnone, h⟩ | ⟨field, next, hfind, _, _, h⟩
      · -- An entry that no field has the name of is passed over.
        have hunknown : (∃ field ∈ fields, field.name = name) → name ≠ key := by
          rintro ⟨field, hfield, rfl⟩ heq
          exact List.find?_eq_none.mp hnone field hfield (decide_eq_true heq)
        rw [ih h]
        constructor
        · exact Or.imp_right (And.imp_right .inr)
        · rintro (hseen | ⟨hknown, heq | hrest⟩)
          · exact .inl hseen
          · exact absurd heq (hunknown hknown)
          · exact .inr ⟨hknown, hrest⟩
      · obtain ⟨hfield, hname⟩ := of_find?_eq_some hfind
        rw [ih h, List.mem_cons]
        constructor
        · rintro ((rfl | hseen) | ⟨hknown, hrest⟩)
          · exact .inr ⟨⟨field, hfield, hname⟩, .inl rfl⟩
          · exact .inl hseen
          · exact .inr ⟨hknown, .inr hrest⟩
        · rintro (hseen | ⟨hknown, heq | hrest⟩)
          · exact .inl (.inr hseen)
          · exact .inl (.inl heq)
          · exact .inr ⟨hknown, hrest⟩

/-- The component `get` of a record is what `read` makes of the values of the field `name`. Other
fields leave it as it is. -/
structure Stores (fields : List (Field ρ)) (name : String) (get : ρ → α)
    (read : Datum → Except Mismatch α) : Prop where
  known : ∃ field ∈ fields, field.name = name
  own : ∀ field ∈ fields, field.name = name → ∀ datum start record,
    field.store datum start = .ok record → read datum = .ok (get record)
  others : ∀ field ∈ fields, field.name ≠ name → ∀ datum start record,
    field.store datum start = .ok record → get record = get start

variable {get : ρ → α} {read : Datum → Except Mismatch α}

/-- A component stays as it is once its field was met, and if it has no entry. -/
theorem get_of_met (hstores : Stores fields name get read)
    (h : storeEntries fields entries seen start = .ok (met, record))
    (hmet : name ∈ seen ∨ Table.get? name entries = none) : get record = get start := by
  induction entries generalizing seen start with
  | nil =>
      cases h
      rfl
  | cons entry rest ih =>
      obtain ⟨key, datum⟩ := entry
      have hrest : Table.get? name ((key, datum) :: rest) = none →
          name ≠ key ∧ Table.get? name rest = none := by
        rw [Table.get?]
        split <;> simp_all
      rcases store_entries_cons_eq_ok.mp h with ⟨_, h⟩ | ⟨field, next, hfind, hnew, hstore, h⟩
      · exact ih h (hmet.imp_right fun hnone => (hrest hnone).2)
      · obtain ⟨hfield, hname⟩ := of_find?_eq_some hfind
        have hne : field.name ≠ name := by
          rintro rfl
          rcases hmet with hseen | hnone
          · exact hnew (hname ▸ hseen)
          · exact (hrest hnone).1 hname
        rw [ih h (hmet.imp (List.mem_cons_of_mem key) fun hnone => (hrest hnone).2),
          hstores.others field hfield hne datum start next hstore]

/-- A component is what its field's value stands for. -/
theorem get_of_store_entries (hstores : Stores fields name get read)
    (h : storeEntries fields entries seen start = .ok (met, record))
    (hentry : Table.get? name entries = some datum) : read datum = .ok (get record) := by
  induction entries generalizing seen start with
  | nil => cases hentry
  | cons entry rest ih =>
      obtain ⟨key, value⟩ := entry
      rw [Table.get?] at hentry
      split at hentry
      · rename_i heq
        subst heq
        cases hentry
        rcases store_entries_cons_eq_ok.mp h with ⟨hnone, _⟩ | ⟨field, next, hfind, _, hstore, h⟩
        · obtain ⟨field, hfield, hname⟩ := hstores.known
          exact absurd (decide_eq_true hname) (List.find?_eq_none.mp hnone field hfield)
        · obtain ⟨hfield, hname⟩ := of_find?_eq_some hfind
          rw [get_of_met hstores h (.inl List.mem_cons_self)]
          exact hstores.own field hfield hname datum start next hstore
      · rcases store_entries_cons_eq_ok.mp h with ⟨_, h⟩ | ⟨field, next, _, _, _, h⟩
        · exact ih h hentry
        · exact ih h hentry

/-- Entries of distinct names are stored if each value can be. -/
theorem store_entries_succeeds (hordered : Table.IsOrdered entries)
    (hstore : ∀ field ∈ fields, ∀ datum, (field.name, datum) ∈ entries →
      ∀ start, ∃ record, field.store datum start = .ok record)
    (hseen : ∀ entry ∈ entries, entry.1 ∉ seen) (start : ρ) :
    ∃ met record, storeEntries fields entries seen start = .ok (met, record) := by
  induction entries generalizing seen start with
  | nil => exact ⟨seen, start, rfl⟩
  | cons entry rest ih =>
      obtain ⟨key, datum⟩ := entry
      obtain ⟨hkey, hrest⟩ := List.pairwise_cons.mp hordered
      obtain ⟨hnew, hunseen⟩ := List.forall_mem_cons.mp hseen
      have ih : ∀ seen : List String, (∀ entry ∈ rest, entry.1 ∉ seen) → ∀ start,
          ∃ met record, storeEntries fields rest seen start = .ok (met, record) := fun _ =>
        ih hrest fun field hfield datum hmem =>
          hstore field hfield datum (List.mem_cons_of_mem _ hmem)
      cases hfind : fields.find? (fun field => field.name = key) with
      | none =>
          obtain ⟨met, record, h⟩ := ih seen hunseen start
          exact ⟨met, record, store_entries_cons_eq_ok.mpr (.inl ⟨hfind, h⟩)⟩
      | some field =>
          obtain ⟨hfield, rfl⟩ := of_find?_eq_some hfind
          obtain ⟨next, hnext⟩ := hstore field hfield datum List.mem_cons_self start
          -- The keys increase, so that no later entry has the name that was just stored.
          have hlater : ∀ entry ∈ rest, entry.1 ∉ field.name :: seen := fun entry hentry =>
            List.not_mem_cons_of_ne_of_not_mem
              (fun heq => String.lt_irrefl _ (heq ▸ hkey entry hentry)) (hunseen entry hentry)
          obtain ⟨met, record, h⟩ := ih (field.name :: seen) hlater next
          exact ⟨met, record,
            store_entries_cons_eq_ok.mpr (.inr ⟨field, next, hfind, hnew, hnext, h⟩)⟩

/-- A table decodes to what its entries store, if it has all required fields. -/
theorem decode_table_eq_ok {dialect : Dialect} {title : String} :
    decode dialect title fields start (.table entries) = .ok record ↔
      (∃ met, storeEntries fields entries [] start = .ok (met, record)) ∧
      ∀ field ∈ fields, field.required = true → Table.contains field.name entries = true := by
  rw [decode, bind_eq_ok]
  have hmissing : ∀ {met found}, storeEntries fields entries [] start = .ok (met, found) →
      (fields.find? (fun field => field.required && !met.contains field.name) = none ↔
        ∀ field ∈ fields, field.required = true → Table.contains field.name entries = true) := by
    intro met found h
    rw [List.find?_eq_none]
    refine forall_congr' fun field => forall_congr' fun hfield => ?_
    have hknown : ∃ known ∈ fields, known.name = field.name := ⟨field, hfield, rfl⟩
    have hmet : field.name ∈ met ↔ Table.contains field.name entries = true := by
      rw [mem_met_iff h, and_iff_right hknown, or_iff_right List.not_mem_nil]
    simp [hmet]
  constructor
  · rintro ⟨⟨met, found⟩, h, hfound⟩
    dsimp only at hfound
    split at hfound
    · cases hfound
    · rename_i hnone
      cases hfound
      exact ⟨⟨met, h⟩, (hmissing h).mp hnone⟩
  · rintro ⟨⟨met, h⟩, hall⟩
    refine ⟨(met, record), h, ?_⟩
    dsimp only
    rw [(hmissing h).mpr hall]

end Widgetry.Field
