import Widgetry.Proofs.Results
import Widgetry.Registry

/-!
# Evaluation of references

`Registry.Resolves` is the evaluation of an identifier below a chain of ancestors, as a relation
without any budget: a derivation is a finite run, and its depth is the length of the chain.
`resolves_iff` shows that every identifier has exactly one result, which `resolveBelow` computes
with the levels that the chain has left as its budget.
-/

namespace Widgetry.Registry

mutual

/-- `Resolves ancestry id result` says that resolving `id` below `ancestry` ends with `result`. -/
inductive Resolves (registry : Registry) (document : Document) :
    List Identifier → Identifier → Except Error Widget → Prop where
  | cycle (ancestry id) :
      document.canonical id ∈ ancestry →
      Resolves registry document ancestry id (.error (.recursive (document.canonical id).text
        ((ancestry ++ [document.canonical id]).map Identifier.text)))
  | deep (ancestry id) :
      document.canonical id ∉ ancestry → registry.maxDepth ≤ ancestry.length →
      Resolves registry document ancestry id
        (.error (.recursive (document.canonical id).text []))
  | rejected (ancestry id e) :
      document.canonical id ∉ ancestry → ancestry.length < registry.maxDepth →
      registry.outline document (document.canonical id)
        (ancestry ++ [document.canonical id]) = .error e →
      Resolves registry document ancestry id (.error e)
  | configured (ancestry id outline result) :
      document.canonical id ∉ ancestry → ancestry.length < registry.maxDepth →
      registry.outline document (document.canonical id)
        (ancestry ++ [document.canonical id]) = .ok outline →
      ResolvesAll registry document (ancestry ++ [document.canonical id]) outline.slots result →
      Resolves registry document ancestry id (result.map (Widget.node outline.frame))

/-- `ResolvesAll chain slots result` says that filling `slots` in order below `chain` ends with
`result`. -/
inductive ResolvesAll (registry : Registry) (document : Document) :
    List Identifier → List Slot → Except Error (List Widget) → Prop where
  | nil (chain) : ResolvesAll registry document chain [] (.ok [])
  | fault (chain e slots) :
      ResolvesAll registry document chain (.error e :: slots) (.error (.config e))
  | empty (chain slots result) :
      ResolvesAll registry document chain slots result →
      ResolvesAll registry document chain (.ok none :: slots) (result.map (Widget.void :: ·))
  | failed (chain id slots e) :
      Resolves registry document chain id (.error e) →
      ResolvesAll registry document chain (.ok (some id) :: slots) (.error e)
  | filled (chain id slots widget result) :
      Resolves registry document chain id (.ok widget) →
      ResolvesAll registry document chain slots result →
      ResolvesAll registry document chain (.ok (some id) :: slots) (result.map (widget :: ·))

end

variable {registry : Registry} {document : Document}

/-- One level of resolution: the two checks of the chain, the outline, and the slots below. -/
theorem resolve_below_succ (budget : Nat) (ancestry : List Identifier) (id : Identifier) :
    registry.resolveBelow document (budget + 1) ancestry id =
      if document.canonical id ∈ ancestry then
        .error (.recursive (document.canonical id).text
          ((ancestry ++ [document.canonical id]).map Identifier.text))
      else
        registry.outline document (document.canonical id)
            (ancestry ++ [document.canonical id]) >>= fun outline =>
          fill (registry.resolveBelow document budget (ancestry ++ [document.canonical id]))
            outline.slots >>= fun children => .ok (.node outline.frame children) := by
  rw [resolveBelow]

/-- Without a level left, a chain ends in an error. -/
theorem resolve_below_zero (ancestry : List Identifier) (id : Identifier) :
    registry.resolveBelow document 0 ancestry id =
      if document.canonical id ∈ ancestry then
        .error (.recursive (document.canonical id).text
          ((ancestry ++ [document.canonical id]).map Identifier.text))
      else .error (.recursive (document.canonical id).text []) := by
  rw [resolveBelow]

/-- The result of filling slots by `resolve` is a result of the relation, if that holds of every
result of `resolve`. -/
theorem resolves_all_fill {chain : List Identifier} {resolve : Identifier → Except Error Widget}
    (hresolve : ∀ id, registry.Resolves document chain id (resolve id)) (slots : List Slot) :
    registry.ResolvesAll document chain slots (fill resolve slots) := by
  induction slots with
  | nil => exact .nil chain
  | cons slot slots ih =>
      rcases slot with e | _ | id
      · exact .fault chain e slots
      · exact .empty chain slots _ ih
      · have hid := hresolve id
        rw [fill]
        cases hfound : resolve id with
        | error e =>
            rw [hfound] at hid
            exact .failed chain id slots e hid
        | ok widget =>
            rw [hfound] at hid
            exact .filled chain id slots widget _ hid ih

/-- Resolution with the levels that a chain has left computes a result of the relation. -/
theorem resolves_resolve_below {budget : Nat} {ancestry : List Identifier}
    (hbudget : budget = registry.maxDepth - ancestry.length) (id : Identifier) :
    registry.Resolves document ancestry id
      (registry.resolveBelow document budget ancestry id) := by
  induction budget generalizing ancestry id with
  | zero =>
      rw [resolve_below_zero]
      split
      · rename_i hcycle
        exact .cycle ancestry id hcycle
      · rename_i hnew
        exact .deep ancestry id hnew (by omega)
  | succ budget ih =>
      rw [resolve_below_succ]
      split
      · rename_i hcycle
        exact .cycle ancestry id hcycle
      · rename_i hnew
        cases houtline : registry.outline document (document.canonical id)
            (ancestry ++ [document.canonical id]) with
        | error e => exact .rejected ancestry id e hnew (by omega) houtline
        | ok outline =>
            refine .configured ancestry id outline _ hnew (by omega) houtline
              (resolves_all_fill (fun child => ih ?_ child) outline.slots)
            simp only [List.length_append, List.length_singleton]
            omega

/-- A result of the relation for slots is the result of filling them by `resolve`, if that holds of
single identifiers. -/
theorem resolves_all_unique {chain : List Identifier}
    {resolve : Identifier → Except Error Widget}
    (hresolve : ∀ id result, registry.Resolves document chain id result → result = resolve id)
    {slots : List Slot} {result : Except Error (List Widget)}
    (h : registry.ResolvesAll document chain slots result) : result = fill resolve slots := by
  induction slots generalizing result with
  | nil =>
      cases h
      rfl
  | cons slot slots ih =>
      cases h with
      | fault => rfl
      | empty _ _ rest hrest =>
          rw [fill, ← ih hrest]
          rfl
      | failed _ id _ e hid =>
          rw [fill, ← hresolve id _ hid]
          rfl
      | filled _ id _ widget rest hid hrest =>
          rw [fill, ← hresolve id _ hid, ← ih hrest]
          rfl

/-- The relation has no other result than the one that resolution computes. -/
theorem resolves_unique {budget : Nat} {ancestry : List Identifier} {id : Identifier}
    {result : Except Error Widget} (hbudget : budget = registry.maxDepth - ancestry.length)
    (h : registry.Resolves document ancestry id result) :
    result = registry.resolveBelow document budget ancestry id := by
  induction budget generalizing ancestry id result with
  | zero =>
      cases h with
      | cycle _ _ hcycle => rw [resolve_below_zero, if_pos hcycle]
      | deep _ _ hnew _ => rw [resolve_below_zero, if_neg hnew]
      | rejected _ _ _ _ hlength => omega
      | configured _ _ _ _ _ hlength => omega
  | succ budget ih =>
      cases h with
      | cycle _ _ hcycle => rw [resolve_below_succ, if_pos hcycle]
      | deep _ _ _ hdeep => omega
      | rejected _ _ e hnew _ houtline =>
          rw [resolve_below_succ, if_neg hnew, houtline]
          rfl
      | configured _ _ outline children hnew _ houtline hchildren =>
          have hbelow : budget =
              registry.maxDepth - (ancestry ++ [document.canonical id]).length := by
            simp only [List.length_append, List.length_singleton]
            omega
          rw [resolve_below_succ, if_neg hnew, houtline,
            resolves_all_unique (fun _ _ hchild => ih hbelow hchild) hchildren]
          rfl

/-- Every identifier has exactly one result below a chain, and resolution computes it. -/
theorem resolves_iff {ancestry : List Identifier} {id : Identifier}
    {result : Except Error Widget} :
    registry.Resolves document ancestry id result ↔ result =
      registry.resolveBelow document (registry.maxDepth - ancestry.length) ancestry id := by
  constructor
  · exact resolves_unique rfl
  · rintro rfl
    exact resolves_resolve_below rfl id

end Widgetry.Registry
