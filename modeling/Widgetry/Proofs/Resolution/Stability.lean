import Widgetry.Proofs.Resolution.Cycles

/-!
# Results of resolution persist

Two runs of resolution that differ in the levels they have left, in the chain above them or in the
declared types go side by side up to the first error that has to do with the difference. `Persists`
says so of two results: they are the same, unless the earlier one is an error of a kind that may be
lost. It passes through sequences and slots, so that each way in which two runs can differ needs one
induction on the levels. The main theorem, `resolution_persists`, puts the three ways together.
-/

namespace Widgetry

/-- The later result is the same as the earlier one, unless that is an error which may be lost. -/
inductive Persists {α : Type} (lost : Error → Prop) : Except Error α → Except Error α → Prop where
  | same (result) : Persists lost result result
  | lost (e later) : lost e → Persists lost (.error e) later

namespace Error

/-- A chain was longer than allowed. -/
def IsDeep (e : Error) : Prop :=
  ∃ identifier, e = .recursive identifier []

/-- A chain came back to itself or was longer than allowed. -/
def IsRecursive (e : Error) : Prop :=
  ∃ identifier chain, e = .recursive identifier chain

/-- A type was not declared. -/
def IsUnknown (e : Error) : Prop :=
  ∃ name, e = .structure (.unknownType name)

end Error

namespace Persists

variable {α β : Type} {lost : Error → Prop} {earlier later : Except Error α}

/-- A result that is no lost error is the same later. -/
theorem eq (h : Persists lost earlier later) (hkept : ∀ e, lost e → earlier ≠ .error e) :
    later = earlier := by
  cases h with
  | same => rfl
  | lost e _ he => exact absurd rfl (hkept e he)

/-- A sequence persists if both of its parts do. -/
theorem bind (h : Persists lost earlier later) {f g : α → Except Error β}
    (hrest : ∀ a, Persists lost (f a) (g a)) : Persists lost (earlier >>= f) (later >>= g) := by
  cases h with
  | same =>
      cases earlier with
      | error e => exact .same (.error e)
      | ok a => exact hrest a
  | lost e _ he => exact .lost e _ he

end Persists

namespace Registry

variable {registry other : Registry} {document : Document} {id : Identifier}
  {ancestry others chain chain' : List Identifier} {budget more : Nat} {lost : Error → Prop}

/-! ## One level -/

/-- Filling slots persists if resolution of each identifier does. -/
theorem persists_fill {resolve resolve' : Identifier → Except Error Widget}
    (h : ∀ id, Persists lost (resolve id) (resolve' id)) (slots : List Slot) :
    Persists lost (fill resolve slots) (fill resolve' slots) := by
  induction slots with
  | nil => exact .same _
  | cons slot slots ih =>
      rcases slot with e | _ | id
      · exact .same _
      · exact ih.bind fun rest => .same _
      · exact (h id).bind fun widget => ih.bind fun rest => .same _

/-- A level persists if the outline and everything below do. -/
theorem persists_succ (hancestry : document.canonical id ∉ ancestry)
    (hothers : document.canonical id ∉ others)
    (houtline : Persists lost
      (registry.outline document (document.canonical id) (ancestry ++ [document.canonical id]))
      (other.outline document (document.canonical id) (others ++ [document.canonical id])))
    (hbelow : ∀ child, Persists lost
      (registry.resolveBelow document budget (ancestry ++ [document.canonical id]) child)
      (other.resolveBelow document more (others ++ [document.canonical id]) child)) :
    Persists lost (registry.resolveBelow document (budget + 1) ancestry id)
      (other.resolveBelow document (more + 1) others id) := by
  rw [resolve_below_succ, resolve_below_succ, if_neg hancestry, if_neg hothers]
  exact houtline.bind fun outline =>
    (persists_fill hbelow outline.slots).bind fun children => .same _

/-- An identifier of the chain is an error at every level. -/
theorem resolve_below_of_mem (hmem : document.canonical id ∈ ancestry) :
    registry.resolveBelow document budget ancestry id =
      .error (.recursive (document.canonical id).text
        ((ancestry ++ [document.canonical id]).map Identifier.text)) := by
  cases budget with
  | zero => rw [resolve_below_zero, if_pos hmem]
  | succ budget => rw [resolve_below_succ, if_pos hmem]

/-! ## More levels -/

/-- With more levels left, all results but too long a chain persist. -/
theorem persists_of_levels (hmore : budget ≤ more) :
    Persists Error.IsDeep (registry.resolveBelow document budget ancestry id)
      (registry.resolveBelow document more ancestry id) := by
  -- Both runs have the same chains and outlines, so that they part only where the levels end.
  induction budget generalizing more ancestry id with
  | zero =>
      by_cases hmem : document.canonical id ∈ ancestry
      · rw [resolve_below_of_mem hmem, resolve_below_of_mem hmem]
        exact .same _
      · rw [resolve_below_zero, if_neg hmem]
        exact .lost _ _ ⟨_, rfl⟩
  | succ budget ih =>
      cases more with
      | zero => omega
      | succ more =>
          by_cases hmem : document.canonical id ∈ ancestry
          · rw [resolve_below_of_mem hmem, resolve_below_of_mem hmem]
            exact .same _
          · exact persists_succ hmem hmem (.same _) fun child => ih (by omega)

/-! ## Fewer ancestors -/

/-- The outline of a widget that depends on its fields alone does not depend on the chain. -/
theorem outline_congr (hlocal : registry.IsLocal) (id : Identifier) :
    registry.outline document id chain = registry.outline document id chain' := by
  unfold outline
  cases hlookup : registry.lookup document id with
  | error e => rfl
  | ok found =>
      obtain ⟨record, name, _, _, hfactory, _⟩ := lookup_eq_ok hlookup
      show found.1.outline found.2 chain = found.1.outline found.2 chain'
      rw [hlocal name found.1 hfactory found.2 chain, hlocal name found.1 hfactory found.2 chain']

/-- Below fewer ancestors, all results but errors of recursion persist. -/
theorem persists_of_ancestors (hlocal : registry.IsLocal) (hothers : others ⊆ ancestry) :
    Persists Error.IsRecursive (registry.resolveBelow document budget ancestry id)
      (registry.resolveBelow document budget others id) := by
  induction budget generalizing ancestry others id with
  | zero =>
      rw [resolve_below_zero]
      split <;> exact .lost _ _ ⟨_, _, rfl⟩
  | succ budget ih =>
      by_cases hmem : document.canonical id ∈ ancestry
      · rw [resolve_below_of_mem hmem]
        exact .lost _ _ ⟨_, _, rfl⟩
      · -- What is new below the ancestors is also new below some of them.
        refine persists_succ hmem (fun h => hmem (hothers h)) ?_ fun child => ih ?_
        · rw [outline_congr hlocal]
          exact .same _
        · exact List.append_subset.mpr ⟨List.subset_append_of_subset_left _ hothers,
            List.subset_append_right _ _⟩

/-! ## More declarations -/

/-- With more types declared, all outlines but those of unknown types persist. -/
theorem persists_outline (hmore : ∀ name factory, registry.factory? name = some factory →
    other.factory? name = some factory) :
    Persists Error.IsUnknown (registry.outline document id chain)
      (other.outline document id chain) := by
  unfold outline lookup
  cases document.record? id with
  | none => exact .same _
  | some record =>
      dsimp only
      cases document.types[record.typeIndex]? with
      | none => exact .same _
      | some name =>
          dsimp only
          cases hfactory : registry.factory? name with
          | none => exact .lost _ _ ⟨name, rfl⟩
          | some factory =>
              rw [hmore name factory hfactory]
              exact .same _

/-- With more types declared, all results but unknown types persist. -/
theorem persists_of_declarations (hmore : ∀ name factory, registry.factory? name = some factory →
    other.factory? name = some factory) :
    Persists Error.IsUnknown (registry.resolveBelow document budget ancestry id)
      (other.resolveBelow document budget ancestry id) := by
  induction budget generalizing ancestry id with
  | zero =>
      rw [resolve_below_zero, resolve_below_zero]
      exact .same _
  | succ budget ih =>
      by_cases hmem : document.canonical id ∈ ancestry
      · rw [resolve_below_of_mem hmem, resolve_below_of_mem hmem]
        exact .same _
      · exact persists_succ hmem hmem (persists_outline hmore) fun child => ih

/-- **Results of resolution persist.** Below any chain of ancestors and with any number of levels
left, a result other than too long a chain stays the same with more levels. A result other than an
error of recursion is the same without ancestors, with the same levels and with more. A result other
than an unknown type is the same in every registry that declares the same types and more. -/
theorem resolution_persists (registry : Registry) (document : Document) (id : Identifier)
    (ancestry : List Identifier) (budget : Nat) (hlocal : registry.IsLocal) :
    let result := registry.resolveBelow document budget ancestry id
    ((∀ identifier, result ≠ .error (.recursive identifier [])) →
      ∀ more, budget ≤ more → registry.resolveBelow document more ancestry id = result) ∧
    ((∀ identifier chain, result ≠ .error (.recursive identifier chain)) →
      ∀ more, budget ≤ more → registry.resolveBelow document more [] id = result) ∧
    ((∀ name, result ≠ .error (.structure (.unknownType name))) →
      ∀ other : Registry, (∀ name factory, registry.factory? name = some factory →
        other.factory? name = some factory) →
      other.resolveBelow document budget ancestry id = result) := by
  refine ⟨fun hkept more hmore => ?_, fun hkept more hmore => ?_, fun hkept other hmore => ?_⟩
  · refine (persists_of_levels hmore).eq ?_
    rintro e ⟨identifier, rfl⟩
    exact hkept identifier
  · -- The ancestors go first, because without them the result is still none of recursion.
    have htop : registry.resolveBelow document budget [] id =
        registry.resolveBelow document budget ancestry id := by
      refine (persists_of_ancestors hlocal (List.nil_subset _)).eq ?_
      rintro e ⟨identifier, chain, rfl⟩
      exact hkept identifier chain
    rw [← htop] at hkept ⊢
    refine (persists_of_levels hmore).eq ?_
    rintro e ⟨identifier, rfl⟩
    exact hkept identifier []
  · refine (persists_of_declarations hmore).eq ?_
    rintro e ⟨name, rfl⟩
    exact hkept name

/-- The cycle of `cyclicDocument` is found with two levels and so with any more. The layout of
`nestedDocument` resolves below the container around it and so without it too, and also where one
more type is declared. -/
theorem resolution_persists_cyclic_nested :
    (Registry.core 2).IsLocal ∧
    (∀ more, 2 ≤ more → (Registry.core 2).resolveBelow cyclicDocument more [] (.key "0") =
      .error (.recursive "0" ["0", "1", "0"])) ∧
    ∃ widget, (Registry.core 2).resolveBelow nestedDocument 2 [.index 0] (.index 1) = .ok widget ∧
      (∀ more, 2 ≤ more →
        (Registry.core 2).resolveBelow nestedDocument more [] (.index 1) = .ok widget) ∧
      ∀ declared, (Registry.core 2).declare "badge" .void = .ok declared →
        declared.resolveBelow nestedDocument 2 [.index 0] (.index 1) = .ok widget := by
  have hcyclic := resolution_persists (Registry.core 2) cyclicDocument (.key "0") [] 2
    (core_is_local 2)
  have hnested := resolution_persists (Registry.core 2) nestedDocument (.index 1) [.index 0] 2
    (core_is_local 2)
  refine ⟨core_is_local 2, hcyclic.1 ?_, _, rfl, hnested.2.1 ?_, fun declared hdeclared => ?_⟩
  · intro identifier h
    cases h
  · intro identifier chain h
    cases h
  · refine hnested.2.2 (fun name h => by cases h) declared fun name factory hfactory => ?_
    rw [factory?_declare hdeclared]
    split
    · rename_i hname
      rw [hname] at hfactory
      cases hfactory
    · exact hfactory

end Registry

end Widgetry
