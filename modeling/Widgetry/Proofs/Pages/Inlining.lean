import Widgetry.Page
import Widgetry.Proofs.Rendering.Refinement

/-!
# Inlining leaves no handle behind

Printing with replaced locations is printing a rewritten tree. With data URIs in place of handles
nothing is left to replace, since no data URI is a handle: the main theorem,
`inlining_removes_handles`.
-/

namespace Widgetry

open Html

namespace Node

variable {f : String → Option String}

/-! ## Rewriting twice -/

/-- What `f` puts in the place of a location is no location itself, and the empty text is none. -/
structure IsConclusive (f : String → Option String) : Prop where
  empty : f "" = none
  once : ∀ value location, f value = some location → f location = none

/-- A location that was rewritten has no replacement. -/
theorem IsConclusive.rewritten_value (hf : IsConclusive f) {name : String}
    (hname : name = "src" ∨ name = "href" ∨ name = "poster") (value : String) :
    f (rewrittenValue f name value) = none := by
  unfold rewrittenValue
  by_cases hvalue : value = ""
  · simp [hvalue, hf.empty]
  · rw [if_pos ⟨hname, hvalue⟩]
    cases hlocation : f value with
    | none => exact hlocation
    | some location => exact hf.once value location hlocation

/-- No location of a rewritten tree has a replacement. -/
theorem IsConclusive.attribute_rewritten (hf : IsConclusive f) {node inner : Node}
    (hinner : inner ∈ (node.rewritten f).nodes) {name value : String}
    (hvalue : (name, value) ∈ inner.attributes)
    (hname : name = "src" ∨ name = "href" ∨ name = "poster") : f value = none := by
  rw [nodes_rewritten] at hinner
  obtain ⟨old, _, rfl⟩ := List.mem_map.mp hinner
  rw [rewritten_eq] at hvalue
  obtain ⟨entry, _, heq⟩ := List.mem_map.mp hvalue
  obtain ⟨rfl, rfl⟩ := Prod.mk.inj heq
  exact hf.rewritten_value hname entry.2

/-- Rewriting a value again changes nothing. -/
theorem IsConclusive.rewritten_value_twice (hf : IsConclusive f) (name value : String) :
    rewrittenValue f name (rewrittenValue f name value) = rewrittenValue f name value := by
  by_cases hname : name = "src" ∨ name = "href" ∨ name = "poster"
  · rw [rewrittenValue, hf.rewritten_value hname, Option.getD_none, ite_self]
  · have hkept : ∀ other, rewrittenValue f name other = other :=
      fun other => if_neg fun h => hname h.1
    rw [hkept, hkept]

mutual

/-- Rewriting a tree again changes nothing. -/
theorem IsConclusive.rewritten_twice (hf : IsConclusive f) : (node : Node) →
    (node.rewritten f).rewritten f = node.rewritten f
  | ⟨kind, className, attributes, styles, text, children⟩ => by
      simp only [rewritten, List.map_map, Function.comp_def, hf.rewritten_value_twice,
        hf.rewritten_all_twice children]

/-- The same for a list of trees. -/
theorem IsConclusive.rewritten_all_twice (hf : IsConclusive f) : (nodes : List Node) →
    rewrittenAll f (rewrittenAll f nodes) = rewrittenAll f nodes
  | [] => by rw [rewrittenAll, rewrittenAll]
  | node :: rest => by
      rw [rewrittenAll, rewrittenAll, hf.rewritten_twice node, hf.rewritten_all_twice rest]

end

end Node

/-! ## Handles -/

namespace Cache

/-- No data URI is a handle. -/
theorem resolve_handle_data_uri (cache : Cache) (resource : Resource) :
    cache.resolveHandle resource.dataUri = none := by
  refine List.find?_eq_none.mpr fun other _ heq => ?_
  -- The first characters differ already.
  have hfirst := congrArg (fun text => text.toList.head?) (of_decide_eq_true heq)
  simp [Resource.handleUrl, Resource.handleText, Resource.dataUri] at hfirst

/-- The data URI that takes the place of a handle is not replaced again. -/
theorem is_conclusive_inline (cache : Cache) : Node.IsConclusive cache.inline where
  empty := cache.inline_empty
  once := by
    intro value location hlocation
    obtain ⟨resource, _, rfl⟩ := Option.map_eq_some_iff.mp hlocation
    rw [inline, resolve_handle_data_uri, Option.map_none]

/-- A tree is printed with data URIs in place of handles as the rewritten tree is printed. -/
theorem html_with_inline_eq (cache : Cache) (node : Node) :
    node.htmlWith cache.inline = (node.rewritten cache.inline).html :=
  Node.html_with_eq cache.inline_ne_empty node

end Cache

/-- A page has tabs if it has them with its body rewritten. -/
theorem Page.has_tabs_rewritten (page : Page) (f : String → Option String) :
    { page with body := page.body.rewritten f }.hasTabs = page.hasTabs := by
  unfold hasTabs
  rw [Node.of_class_rewritten, List.isEmpty_map]

/-- **Inlining removes every handle.** Printing a tree with replaced locations, none of them empty,
is printing the rewritten tree. With data URIs in place of the handles of a cache, the rewritten
tree has no location that is a handle of the cache, and rewriting it again changes nothing. So a
page is printed as the page with the rewritten body is printed without any cache. -/
theorem inlining_removes_handles :
    (∀ (f : String → Option String) (node : Node), (∀ value, f value ≠ some "") →
      node.htmlWith f = (node.rewritten f).html) ∧
    (∀ (cache : Cache) (node : Node),
      let inlined := node.rewritten cache.inline
      node.htmlWith cache.inline = inlined.html ∧
      (∀ inner ∈ inlined.nodes, ∀ name value, (name, value) ∈ inner.attributes →
        name = "src" ∨ name = "href" ∨ name = "poster" → cache.resolveHandle value = none) ∧
      inlined.rewritten cache.inline = inlined ∧
      inlined.htmlWith cache.inline = inlined.html) ∧
    ∀ (page : Page) (cache : Cache),
      page.html cache = { page with body := page.body.rewritten cache.inline }.html .empty := by
  refine ⟨fun f node hf => Node.html_with_eq hf node, ?_, ?_⟩
  · intro cache node inlined
    have hconclusive := cache.is_conclusive_inline
    have htwice : inlined.rewritten cache.inline = inlined := hconclusive.rewritten_twice node
    refine ⟨cache.html_with_inline_eq node, ?_, htwice, ?_⟩
    · intro inner hinner name value hvalue hname
      exact Option.map_eq_none_iff.mp (hconclusive.attribute_rewritten hinner hvalue hname)
    · rw [cache.html_with_inline_eq, htwice]
  · intro page cache
    -- The empty cache has no handles, so that printing with it is plain printing.
    have hbody : (page.body.rewritten cache.inline).htmlWith Cache.empty.inline =
        page.body.htmlWith cache.inline := (cache.html_with_inline_eq page.body).symm
    unfold Page.html Page.head
    rw [page.has_tabs_rewritten, hbody]

end Widgetry
