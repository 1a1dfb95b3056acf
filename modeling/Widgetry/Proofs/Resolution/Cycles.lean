import Mathlib.Data.List.Perm.Subperm
import Widgetry.Proofs.Resolution.Addressing
import Widgetry.Proofs.Resolution.Unfolding

/-!
# Errors of recursion report paths of references

Resolution gives up at an identifier that is already on its chain, and at a chain that has used up
the longest one allowed. Both errors name the identifier, and the first one tells the whole chain.
`Registry.Reports` says what stands behind such an error: a path of references from the root, free
of repetitions up to its end. The main theorem, `recursion_errors_report_paths`, reads this off the
texts of the error. No two identifiers of a chain have the same text, although a chain mixes
positions and keys, because canonical identifiers can be read back from their texts.

A path without repetitions passes each record of the document once at most, so that no chain is too
long if more identifiers are allowed than there are records. Then an error of recursion tells a
cycle: `cycles_are_detected_exactly`.
-/

namespace Widgetry

/-! ## Slots are references -/

namespace Factory

/-- An item that refers to a widget names it. -/
theorem mem_item_references {item : Json} {id : Identifier}
    (h : layoutItem? item = some (some id)) : id ∈ itemReferences item := by
  cases item with
  | object fields =>
      rw [itemReferences, object_references_eq h]
      exact List.mem_singleton_self id
  | _ => cases h

/-- A faultless slot of a layout comes from an item that can be read. -/
theorem exists_item_of_layout_slot {c : Configuration} {position : Nat} {items : List Json}
    {object : Option Identifier} (h : .ok object ∈ layoutSlots c position items) :
    ∃ item ∈ items, layoutItem? item = some object := by
  induction items generalizing position with
  | nil => cases h
  | cons item items ih =>
      rw [layoutSlots, List.mem_cons] at h
      rcases h with hslot | hslots
      · exact ⟨item, List.mem_cons_self, layout_slot_eq_ok.mp hslot.symm⟩
      · obtain ⟨found, hfound, hobject⟩ := ih hslots
        exact ⟨found, List.mem_cons_of_mem item hfound, hobject⟩

/-- A faultless tab comes from an item that can be read. -/
theorem exists_item_of_tab {c : Configuration} {seen : List String} {position : Nat}
    {items : List Json} {found : String × Option Identifier}
    (h : .ok found ∈ tabItems c seen position items) :
    ∃ item ∈ items, tabItem? item = some found := by
  induction items generalizing seen position with
  | nil => cases h
  | cons item items ih =>
      rw [tabItems] at h
      cases htab : tab c seen position item with
      | error e =>
          rw [htab] at h
          simp at h
      | ok first =>
          simp only [htab, List.mem_cons] at h
          rcases h with hfirst | hrest
          · cases hfirst
            exact ⟨item, List.mem_cons_self, (tab_eq_ok.mp htab).1⟩
          · obtain ⟨other, hother, hfound⟩ := ih hrest
            exact ⟨other, List.mem_cons_of_mem item hother, hfound⟩

/-- A widget in a slot is named by the fields, even if other slots are at fault. -/
theorem mem_references_of_slot {factory : Factory} {fields : Fields} {found : Outline}
    {id : Identifier} (h : factory.outline fields [] = .ok found)
    (hslot : .ok (some id) ∈ found.slots) : id ∈ factory.references fields := by
  cases factory with
  | void =>
      cases h
      cases hslot
  | text | banner | image | video | audio =>
      unfold outline leaf at h
      dsimp only at h
      split at h
      · cases h
        cases hslot
      · cases h
  | container =>
      simp only [outline, map_error_eq_ok, containerOutline, bind_eq_ok, reference_eq_ok,
        Except.ok.injEq] at h
      obtain ⟨title, _, object, hobject, rfl⟩ := h
      cases List.mem_singleton.mp hslot
      rw [references, show objectReferences fields = [id] from object_references_eq hobject]
      exact List.mem_singleton_self id
  | layout =>
      simp only [outline, layoutOutline, bind_eq_ok, map_error_eq_ok] at h
      obtain ⟨columns, _, rows, _, value, hvalue, h⟩ := h
      cases value with
      | array items =>
          dsimp only at h
          split at h
          · cases h
          · cases h
            -- The slots beyond the items are empty.
            rcases List.mem_append.mp hslot with hslot | hslot
            · obtain ⟨item, hitem, hobject⟩ := exists_item_of_layout_slot hslot
              rw [references, show itemsOf? fields = some items from require_items_eq_ok.mp hvalue]
              exact List.mem_flatMap.mpr ⟨item, hitem, mem_item_references hobject⟩
            · cases (List.mem_replicate.mp hslot).2
      | _ => cases h
  | tabs =>
      simp only [outline, map_error_eq_ok, tabsOutline, bind_eq_ok, array_items_eq_ok,
        Except.ok.injEq] at h
      obtain ⟨side, _, items, ⟨hitems, _⟩, rfl⟩ := h
      obtain ⟨result, hresult, heq⟩ := List.mem_map.mp hslot
      obtain ⟨tab, rfl, htab⟩ := map_eq_ok.mp heq
      obtain ⟨item, hitem, hread⟩ := exists_item_of_tab hresult
      have hobject := layout_item_of_tab hread
      rw [htab] at hobject
      rw [references, show itemsOf? fields = some items from hitems]
      exact List.mem_flatMap.mpr ⟨item, hitem, mem_item_references hobject⟩
  | custom type =>
      unfold outline at h
      unfold references
      dsimp only [Factory.typeName] at h ⊢
      cases hfound : type.outline (Configuration.ofFields type.typeName fields) [] with
      | error e =>
          rw [hfound] at h
          cases h
      | ok outlined =>
          rw [hfound] at h
          cases h
          exact List.mem_flatMap.mpr ⟨_, hslot, List.mem_singleton_self id⟩

/-- No factory reports a recursion: its errors are about the fields of one widget. -/
theorem outline_ne_recursive {factory : Factory} {fields : Fields} {chain : List Identifier}
    {identifier : String} {texts : List String} :
    factory.outline fields chain ≠ .error (.recursive identifier texts) := by
  intro h
  cases factory with
  | void => cases h
  | text | banner | image | video | audio =>
      unfold outline leaf at h
      dsimp only at h
      split at h <;> cases h
  | container | tabs =>
      obtain ⟨cause, _, hcause⟩ := map_error_eq_error.mp h
      cases hcause
  | layout =>
      simp only [outline, layoutOutline, bind_eq_error, map_error_eq_error, reduceCtorEq,
        and_false, exists_false, false_or] at h
      obtain ⟨columns, _, rows, _, value, _, h⟩ := h
      cases value with
      | array items =>
          dsimp only at h
          split at h <;> cases h
      | _ => cases h
  | custom type =>
      unfold outline at h
      dsimp only at h
      split at h <;> cases h

end Factory

namespace Registry

variable {registry : Registry} {document : Document} {root id : Identifier}
  {ancestry : List Identifier} {identifier : String} {chain : List String}

/-- The outline of a widget is that of its fields. -/
theorem exists_factory_of_outline (hlocal : registry.IsLocal) {found : Outline}
    (h : registry.outline document id ancestry = .ok found) :
    ∃ record factory, document.record? id = some record ∧
      document.types[record.typeIndex]?.bind registry.factory? = some factory ∧
      factory.outline record.fields [] = .ok found := by
  unfold outline at h
  obtain ⟨⟨factory, fields⟩, hlookup, h⟩ := bind_eq_ok.mp h
  rw [map_error_eq_ok] at hlookup
  obtain ⟨record, name, hrecord, hname, hfactory, rfl⟩ := lookup_eq_ok hlookup
  refine ⟨record, factory, hrecord, ?_, ?_⟩
  · rw [hname]
    exact hfactory
  · rw [← hlocal name factory hfactory record.fields ancestry]
    exact h

/-- A widget refers to what stands in its slots, even if other slots are at fault. -/
theorem refers_of_slot (hlocal : registry.IsLocal) {found : Outline} {reference : Identifier}
    (h : registry.outline document id ancestry = .ok found)
    (hslot : .ok (some reference) ∈ found.slots) :
    registry.Refers document id (document.canonical reference) := by
  obtain ⟨record, factory, hrecord, hfactory, houtline⟩ := exists_factory_of_outline hlocal h
  refine ⟨reference, ?_, rfl⟩
  unfold references
  rw [hrecord]
  dsimp only
  rw [hfactory]
  exact Factory.mem_references_of_slot houtline hslot

/-- An outline does not report a recursion. -/
theorem outline_ne_recursive :
    registry.outline document id ancestry ≠ .error (.recursive identifier chain) := by
  intro h
  unfold outline at h
  rcases bind_eq_error.mp h with hlookup | ⟨⟨factory, fields⟩, _, houtline⟩
  · obtain ⟨cause, _, hcause⟩ := map_error_eq_error.mp hlookup
    cases hcause
  · exact Factory.outline_ne_recursive houtline

/-- Slots fail with a fault of their own or with the error of a widget in them. -/
theorem fill_eq_error {resolve : Identifier → Except Error Widget} {slots : List Slot} {e : Error}
    (h : fill resolve slots = .error e) :
    (∃ fault, e = .config fault) ∨
      ∃ reference, .ok (some reference) ∈ slots ∧ resolve reference = .error e := by
  induction slots with
  | nil => cases h
  | cons slot slots ih =>
      have htail (hrest : fill resolve slots = .error e) :
          (∃ fault, e = .config fault) ∨
            ∃ reference, .ok (some reference) ∈ slot :: slots ∧ resolve reference = .error e := by
        rcases ih hrest with hfault | ⟨reference, hmem, hresolve⟩
        · exact .inl hfault
        · exact .inr ⟨reference, List.mem_cons_of_mem slot hmem, hresolve⟩
      rcases slot with fault | _ | reference
      · cases h
        exact .inl ⟨fault, rfl⟩
      · rw [fill] at h
        rcases bind_eq_error.mp h with hrest | ⟨_, _, hok⟩
        · exact htail hrest
        · cases hok
      · rw [fill] at h
        rcases bind_eq_error.mp h with hresolve | ⟨widget, _, h⟩
        · exact .inr ⟨reference, List.mem_cons_self, hresolve⟩
        · rcases bind_eq_error.mp h with hrest | ⟨_, _, hok⟩
          · exact htail hrest
          · cases hok

/-! ## What an error of recursion reports -/

/-- What stands behind an error of recursion: a path of references from the root that comes back to
itself for the first time, or one of new identifiers only that is one too long. -/
inductive Reports (registry : Registry) (document : Document) (root : Identifier) :
    String → List String → Prop where
  | cycle (path id) :
      registry.IsPath document root (path ++ [id]) → path.Nodup → id ∈ path →
      path.length ≤ registry.maxDepth →
      Reports registry document root id.text ((path ++ [id]).map Identifier.text)
  | deep (path id) :
      registry.IsPath document root (path ++ [id]) → path.Nodup → id ∉ path →
      path.length = registry.maxDepth →
      Reports registry document root id.text []

/-- Below a path without repetitions, an error of recursion reports a path from the root. -/
theorem reports_of_resolve_below (hlocal : registry.IsLocal) {budget : Nat}
    (hdepth : ancestry.length + budget = registry.maxDepth)
    (hpath : registry.IsPath document root (ancestry ++ [document.canonical id]))
    (hnodup : ancestry.Nodup)
    (h : registry.resolveBelow document budget ancestry id =
      .error (.recursive identifier chain)) :
    registry.Reports document root identifier chain := by
  -- The budget is what the path has left of the longest chain.
  induction budget generalizing ancestry id with
  | zero =>
      rw [resolve_below_zero] at h
      split at h
      · rename_i hmem
        cases h
        exact .cycle ancestry _ hpath hnodup hmem (by omega)
      · rename_i hnew
        cases h
        exact .deep ancestry _ hpath hnodup hnew (by omega)
  | succ budget ih =>
      rw [resolve_below_succ] at h
      split at h
      · rename_i hmem
        cases h
        exact .cycle ancestry _ hpath hnodup hmem (by omega)
      · rename_i hnew
        rcases bind_eq_error.mp h with houtline | ⟨found, houtline, h⟩
        · exact absurd houtline outline_ne_recursive
        · rcases bind_eq_error.mp h with hfill | ⟨_, _, hok⟩
          · rcases fill_eq_error hfill with ⟨fault, hfault⟩ | ⟨reference, hslot, hresolve⟩
            · cases hfault
            · refine ih ?_ (is_path_concat hpath (refers_of_slot hlocal houtline hslot)) ?_ hresolve
              · rw [List.length_append, List.length_singleton]
                omega
              · rw [← List.concat_eq_append]
                exact hnodup.concat hnew
          · cases hok

/-- All identifiers on a path are canonical. -/
theorem exists_canonical_of_path {path : List Identifier}
    (hpath : registry.IsPath document root path) (hid : id ∈ path) :
    ∃ reference, document.canonical reference = id := by
  obtain ⟨hhead, hchain⟩ := hpath
  cases path with
  | nil => cases hid
  | cons first rest =>
      cases hhead
      rcases List.mem_cons.mp hid with rfl | hid
      · exact ⟨root, rfl⟩
      · obtain ⟨before, after, rfl⟩ := List.append_of_mem hid
        -- What stands right before an identifier on a path refers to it.
        have hlast : ∃ last, last ∈ (document.canonical root :: before).getLast? :=
          Option.isSome_iff_exists.mp (by simp)
        obtain ⟨last, hlast⟩ := hlast
        rw [← List.cons_append, List.isChain_append] at hchain
        obtain ⟨reference, _, hreference⟩ := hchain.2.2 last hlast id rfl
        exact ⟨reference, hreference⟩

/-- Different identifiers on a path have different texts. -/
theorem nodup_texts {path others : List Identifier}
    (hpath : registry.IsPath document root (path ++ others)) (hnodup : path.Nodup) :
    (path.map Identifier.text).Nodup := by
  refine List.Nodup.map_on ?_ hnodup
  intro id hid other hother htext
  obtain ⟨reference, rfl⟩ := exists_canonical_of_path hpath (List.mem_append_left others hid)
  obtain ⟨another, rfl⟩ := exists_canonical_of_path hpath (List.mem_append_left others hother)
  exact Document.canonical_text_injective htext

/-- **Errors of recursion report paths of references.** A chain that is told starts at the root,
follows references, and ends with the identifier, which is the only one to stand on it twice. If
none is told, there is a path of new identifiers that is as long as the longest chain allowed, and
the identifier is the next one after its end. -/
theorem recursion_errors_report_paths (registry : Registry) (document : Document)
    (root : Identifier) (identifier : String) (chain : List String) (hlocal : registry.IsLocal)
    (h : registry.resolve document root = .error (.recursive identifier chain)) :
    (chain ≠ [] → ∃ path id, registry.IsPath document root (path ++ [id]) ∧
      identifier = id.text ∧ chain = path.map Identifier.text ++ [identifier] ∧
      chain.head? = some (document.canonical root).text ∧
      (path.map Identifier.text).count identifier = 1 ∧ (path.map Identifier.text).Nodup ∧
      path.length ≤ registry.maxDepth) ∧
    (chain = [] → ∃ path id, registry.IsPath document root (path ++ [id]) ∧
      identifier = id.text ∧ path.Nodup ∧ id ∉ path ∧ path.length = registry.maxDepth) := by
  have hreports : registry.Reports document root identifier chain :=
    reports_of_resolve_below hlocal (Nat.zero_add _) ⟨rfl, .singleton _⟩ .nil h
  cases hreports with
  | cycle path id hpath hnodup hmem hlength =>
      refine ⟨fun _ => ⟨path, id, hpath, rfl, List.map_append, ?_, ?_, ?_, hlength⟩, ?_⟩
      · rw [List.head?_map, hpath.1]
        rfl
      · exact List.count_eq_one_of_mem (nodup_texts hpath hnodup) (List.mem_map_of_mem hmem)
      · exact nodup_texts hpath hnodup
      · intro hchain
        simp at hchain
  | deep path id hpath hnodup hnew hlength =>
      exact ⟨fun hchain => absurd rfl hchain,
        fun _ => ⟨path, id, hpath, rfl, hnodup, hnew, hlength⟩⟩

/-- A container around a layout that holds the container again, under a numeral with a sign. -/
def cyclicDocument : Document where
  records := .list [
    ⟨0, [("object", .string "1"), ("title", .string "outer")]⟩,
    ⟨1, [("columns", .array [.integer 1]), ("items", .array [.object [("object", .string "+0")]]),
      ("rows", .array [.integer 1])]⟩]
  types := ["container", "layout"]
  root := .index 0

/-- Two levels are enough to find the cycle of `cyclicDocument`, and one is not. -/
theorem recursion_errors_report_paths_cyclic :
    ((Registry.core 2).resolve cyclicDocument (.key "0") =
        .error (.recursive "0" ["0", "1", "0"]) ∧
      ∃ path id, (Registry.core 2).IsPath cyclicDocument (.key "0") (path ++ [id]) ∧
        path.map Identifier.text ++ ["0"] = ["0", "1", "0"]) ∧
    (Registry.core 1).resolve cyclicDocument (.key "0") = .error (.recursive "1" []) ∧
      ∃ path id, (Registry.core 1).IsPath cyclicDocument (.key "0") (path ++ [id]) ∧
        id ∉ path ∧ path.length = 1 := by
  have hcycle : (Registry.core 2).resolve cyclicDocument (.key "0") =
      .error (.recursive "0" ["0", "1", "0"]) := rfl
  have hdeep : (Registry.core 1).resolve cyclicDocument (.key "0") =
      .error (.recursive "1" []) := rfl
  obtain ⟨path, id, hpath, _, hchain, _⟩ :=
    (recursion_errors_report_paths _ _ _ _ _ (core_is_local 2) hcycle).1 (by simp)
  obtain ⟨longest, next, hlongest, _, _, hnew, hlength⟩ :=
    (recursion_errors_report_paths _ _ _ _ _ (core_is_local 1) hdeep).2 rfl
  exact ⟨⟨hcycle, path, id, hpath, hchain.symm⟩, hdeep, longest, next, hlongest, hnew, hlength⟩

/-! ## More levels than records -/

/-- An identifier that refers to something has a record. -/
theorem has_record_of_refers {other : Identifier} (h : registry.Refers document id other) :
    (document.record? id).isSome := by
  obtain ⟨reference, hreference, _⟩ := h
  unfold references at hreference
  cases hrecord : document.record? id with
  | none =>
      rw [hrecord] at hreference
      cases hreference
  | some record => rfl

/-- Everything on a path up to its last identifier refers to something. -/
theorem exists_refers_of_path {path : List Identifier} {last : Identifier}
    (hpath : registry.IsPath document root (path ++ [last])) (hid : id ∈ path) :
    ∃ next, registry.Refers document id next := by
  obtain ⟨before, after, rfl⟩ := List.append_of_mem hid
  have hrest : (id :: (after ++ [last])).IsChain (registry.Refers document) := by
    refine hpath.2.suffix ⟨before, ?_⟩
    simp
  cases after with
  | nil => exact ⟨last, (List.isChain_cons_cons.mp hrest).1⟩
  | cons next after => exact ⟨next, (List.isChain_cons_cons.mp hrest).1⟩

/-- A path without repetitions has no more identifiers before its last one than there are records,
because each of them is borne by a record. -/
theorem length_le_size_of_path {path : List Identifier} {last : Identifier}
    (hpath : registry.IsPath document root (path ++ [last])) (hnodup : path.Nodup) :
    path.length ≤ document.size := by
  have hborne : path ⊆ (List.range document.size).filterMap document.bearer? := by
    intro id hid
    obtain ⟨next, hnext⟩ := exists_refers_of_path hpath hid
    obtain ⟨reference, rfl⟩ := exists_canonical_of_path hpath (List.mem_append_left _ hid)
    obtain ⟨place, hplace⟩ := Document.exists_place (has_record_of_refers hnext)
    obtain ⟨hlt, hbearer⟩ := Document.bearer?_of_place? hplace
    rw [(document.is_canonical_canonical reference).canonical_eq] at hbearer
    exact List.mem_filterMap.mpr ⟨place, List.mem_range.mpr hlt, hbearer⟩
  calc path.length
      ≤ ((List.range document.size).filterMap document.bearer?).length :=
        (hnodup.subperm hborne).length_le
    _ ≤ (List.range document.size).length := List.length_filterMap_le _ _
    _ = document.size := List.length_range

/-- **Cycles are detected exactly** if more identifiers are allowed on a chain than there are
records: no chain is too long, every error of recursion has a cycle behind it, and nothing resolves
from which a cycle can be reached. -/
theorem cycles_are_detected_exactly (registry : Registry) (document : Document) (id : Identifier)
    (hlocal : registry.IsLocal) (hdepth : document.size < registry.maxDepth) :
    (∀ identifier, registry.resolve document id ≠ .error (.recursive identifier [])) ∧
    (∀ identifier chain, registry.resolve document id = .error (.recursive identifier chain) →
      registry.HasCycle document id) ∧
    (registry.HasCycle document id → ∀ widget, registry.resolve document id ≠ .ok widget) := by
  have hreports : ∀ {identifier chain},
      registry.resolve document id = .error (.recursive identifier chain) →
      registry.HasCycle document id ∧ chain ≠ [] := by
    intro identifier chain h
    have hreports : registry.Reports document id identifier chain :=
      reports_of_resolve_below hlocal (Nat.zero_add _) ⟨rfl, .singleton _⟩ .nil h
    cases hreports with
    | cycle path last hpath hnodup hmem hlength =>
        exact ⟨has_cycle_of_path hpath hmem, by simp⟩
    | deep path last hpath hnodup hnew hlength =>
        have := length_le_size_of_path hpath hnodup
        omega
  refine ⟨fun identifier h => (hreports h).2 rfl, fun identifier chain h => (hreports h).1, ?_⟩
  intro hcycle widget h
  exact not_has_cycle_of_bounded
    (fun path hpath => path_length_le_of_resolve_below hlocal h hpath) hcycle

/-- Three levels are more than `cyclicDocument` has records, so that the error which it gives tells
a cycle. -/
theorem cycles_are_detected_exactly_cyclic :
    (Registry.core 3).IsLocal ∧ cyclicDocument.size < (Registry.core 3).maxDepth ∧
    (Registry.core 3).HasCycle cyclicDocument (.key "00") ∧
    ∀ widget, (Registry.core 3).resolve cyclicDocument (.key "00") ≠ .ok widget := by
  have htheorem := cycles_are_detected_exactly (Registry.core 3) cyclicDocument (.key "00")
    (core_is_local 3) (by decide)
  have hcycle := htheorem.2.1 "0" ["0", "1", "0"] rfl
  exact ⟨core_is_local 3, by decide, hcycle, htheorem.2.2 hcycle⟩

end Registry

end Widgetry
