import Widgetry.Proofs.Html.Rewriting
import Widgetry.Proofs.Rendering.Progress
import Widgetry.Proofs.Results

/-!
# Rendering without a cache

A direct renderer goes through a widget once, fetches every medium where it is needed, and writes
its content into the place. `render_direct_eq_ok` says when it succeeds and what it draws. Before
that, rendering sets out with the loads of the same media in the same order: `loads_loading`.
-/

namespace Widgetry

namespace Outcomes

/-- A medium whose URL carries its content. -/
def medium? (outcomes : Outcomes) (source : String) : Option Medium :=
  match outcomes source with
  | .ok fetched =>
      let kind := ContentKind.detect source fetched.type
      some ⟨"data:" ++ kind ++ ";base64," ++ Text.Base64.encode fetched.bytes, kind⟩
  | .error _ => none

/-- Fetch a medium, if its family can play it. -/
def acquire (outcomes : Outcomes) (support : MediaSupport) (request : MediaRequest) :
    Except Error Medium :=
  match outcomes request.source with
  | .error cause => .error (.resource (.fetch request.source cause.message))
  | .ok fetched =>
      let kind := ContentKind.detect request.source fetched.type
      match support request.family kind with
      | .no => .error (.resource (.unsupportedMedia request.family.name kind))
      | _ => .ok ⟨"data:" ++ kind ++ ";base64," ++ Text.Base64.encode fetched.bytes, kind⟩

end Outcomes

namespace Widget

mutual

/-- Render a widget by fetching each medium where it is needed. -/
def renderDirect (outcomes : Outcomes) (support : MediaSupport) : Widget → Except Error Node
  | node frame children =>
      match frame.request? with
      | some request => do
          let medium ← outcomes.acquire support request
          .ok (frame.draw (fun _ => some medium) [])
      | none => do
          let contents ← renderDirectAll outcomes support children
          .ok (frame.draw (fun _ => none) contents)

/-- Render widgets one after the other. -/
def renderDirectAll (outcomes : Outcomes) (support : MediaSupport) :
    List Widget → Except Error (List Node)
  | [] => .ok []
  | widget :: rest => do
      let content ← renderDirect outcomes support widget
      let contents ← renderDirectAll outcomes support rest
      .ok (content :: contents)

end

mutual

/-- The media that a widget needs, in document order. -/
def requests : Widget → List MediaRequest
  | node frame children =>
      match frame.request? with
      | some request => [request]
      | none => requestsOf children

/-- The media that widgets need. -/
def requestsOf : List Widget → List MediaRequest
  | [] => []
  | widget :: rest => requests widget ++ requestsOf rest

end

/-- The sources of a widget's media, in document order. -/
def sources (widget : Widget) : List String :=
  widget.requests.map MediaRequest.source

mutual

/-- Every widget around media has only a few children. -/
def isNarrow : Widget → Bool
  | node frame children =>
      match frame.request? with
      | some _ => true
      | none =>
          (requestsOf children).isEmpty || (children.length ≤ shortLimit && areNarrow children)

/-- Every widget around media among some widgets and below them has only a few children. -/
def areNarrow : List Widget → Bool
  | [] => true
  | widget :: rest => isNarrow widget && areNarrow rest

end

variable {outcomes : Outcomes} {support : MediaSupport}

/-! ## The direct renderer -/

/-- A medium that can be played is obtained with its content. -/
theorem acquire_eq_ok {request : MediaRequest} {medium : Medium} :
    outcomes.acquire support request = .ok medium ↔
      outcomes.Plays support request ∧ outcomes.medium? request.source = some medium := by
  unfold Outcomes.acquire Outcomes.medium? Outcomes.Plays
  cases hfetched : outcomes request.source with
  | error cause => simp
  | ok fetched =>
      cases hsupport : support request.family (ContentKind.detect request.source fetched.type) <;>
        simp [hsupport]

/-- A medium that can be played has its content in place. -/
theorem exists_medium {request : MediaRequest} (hplays : outcomes.Plays support request) :
    ∃ medium, outcomes.medium? request.source = some medium := by
  obtain ⟨fetched, hfetched, _⟩ := hplays
  unfold Outcomes.medium?
  rw [hfetched]
  exact ⟨_, rfl⟩

/-- A frame with a medium draws that and nothing else. -/
theorem draw_of_request {frame : Frame} {request : MediaRequest} {media media' : Media}
    (hrequest : frame.request? = some request)
    (hmedia : media request.source = media' request.source)
    (children children' : List Node) : frame.draw media children = frame.draw media' children' := by
  cases frame <;> cases hrequest <;> simp [Frame.draw, hmedia]

/-- A frame without a medium draws its children. -/
theorem draw_of_no_request {frame : Frame} (hrequest : frame.request? = none)
    (media media' : Media) (children : List Node) :
    frame.draw media children = frame.draw media' children := by
  cases frame <;> first | rfl | cases hrequest

mutual

/-- What is drawn depends on the media that the widget needs. -/
theorem draw_congr {media media' : Media} : (widget : Widget) →
    (∀ request ∈ widget.requests, media request.source = media' request.source) →
    widget.draw media = widget.draw media'
  | node frame children, hmedia => by
      rw [draw, draw]
      cases hrequest : frame.request? with
      | some request =>
          rw [requests, hrequest] at hmedia
          exact draw_of_request hrequest (hmedia request (List.mem_singleton.mpr rfl)) _ _
      | none =>
          rw [requests, hrequest] at hmedia
          rw [draw_all_congr children hmedia]
          exact draw_of_no_request hrequest _ _ _

/-- What is drawn of widgets depends on the media that they need. -/
theorem draw_all_congr {media media' : Media} : (widgets : List Widget) →
    (∀ request ∈ requestsOf widgets, media request.source = media' request.source) →
    drawAll media widgets = drawAll media' widgets
  | [], _ => by rw [drawAll, drawAll]
  | widget :: rest, hmedia => by
      rw [requestsOf, List.forall_mem_append] at hmedia
      rw [drawAll, drawAll, draw_congr widget hmedia.1, draw_all_congr rest hmedia.2]

end

mutual

/-- The direct renderer succeeds if all media can be played, and draws them with their contents. -/
theorem render_direct_eq_ok : (widget : Widget) → (drawn : Node) →
    (widget.renderDirect outcomes support = .ok drawn ↔
      (∀ request ∈ widget.requests, outcomes.Plays support request) ∧
        drawn = widget.draw outcomes.medium?)
  | node frame children, drawn => by
      rw [renderDirect, requests, draw]
      cases hrequest : frame.request? with
      | some request =>
          dsimp only
          rw [bind_eq_ok]
          constructor
          · rintro ⟨medium, hmedium, hdrawn⟩
            obtain ⟨hplays, hfound⟩ := acquire_eq_ok.mp hmedium
            refine ⟨fun other hother => ?_, ?_⟩
            · rw [List.mem_singleton.mp hother]
              exact hplays
            · cases hdrawn
              exact draw_of_request hrequest hfound.symm _ _
          · rintro ⟨hplays, hdrawn⟩
            have hplays := hplays request (List.mem_singleton.mpr rfl)
            obtain ⟨medium, hmedium⟩ := exists_medium hplays
            refine ⟨medium, acquire_eq_ok.mpr ⟨hplays, hmedium⟩, ?_⟩
            rw [hdrawn]
            exact congrArg Except.ok (draw_of_request hrequest hmedium.symm _ _)
      | none =>
          dsimp only
          rw [bind_eq_ok]
          constructor
          · rintro ⟨contents, hcontents, hdrawn⟩
            obtain ⟨hplays, rfl⟩ := (render_direct_all_eq_ok children contents).mp hcontents
            cases hdrawn
            exact ⟨hplays, draw_of_no_request hrequest _ _ _⟩
          · rintro ⟨hplays, hdrawn⟩
            refine ⟨_, (render_direct_all_eq_ok children _).mpr ⟨hplays, rfl⟩, ?_⟩
            rw [hdrawn]
            exact congrArg Except.ok (draw_of_no_request hrequest _ _ _)

/-- The same for widgets that are rendered one after the other. -/
theorem render_direct_all_eq_ok : (widgets : List Widget) → (drawn : List Node) →
    (renderDirectAll outcomes support widgets = .ok drawn ↔
      (∀ request ∈ requestsOf widgets, outcomes.Plays support request) ∧
        drawn = drawAll outcomes.medium? widgets)
  | [], drawn => by
      rw [renderDirectAll, requestsOf, drawAll]
      constructor
      · intro h
        cases h
        exact ⟨nofun, rfl⟩
      · rintro ⟨_, rfl⟩
        rfl
  | widget :: rest, drawn => by
      rw [renderDirectAll, requestsOf, drawAll, List.forall_mem_append, bind_eq_ok]
      constructor
      · rintro ⟨content, hcontent, h⟩
        obtain ⟨contents, hcontents, h⟩ := bind_eq_ok.mp h
        cases h
        obtain ⟨hplays, rfl⟩ := (render_direct_eq_ok widget content).mp hcontent
        obtain ⟨hrest, rfl⟩ := (render_direct_all_eq_ok rest contents).mp hcontents
        exact ⟨⟨hplays, hrest⟩, rfl⟩
      · rintro ⟨⟨hplays, hrest⟩, rfl⟩
        refine ⟨_, (render_direct_eq_ok widget _).mpr ⟨hplays, rfl⟩, bind_eq_ok.mpr ?_⟩
        exact ⟨_, (render_direct_all_eq_ok rest _).mpr ⟨hrest, rfl⟩, rfl⟩

end

/-! ## Loads of a widget -/

mutual

/-- The loads of a widget are those of its sources, by clients that are awaited. -/
theorem loads_loading (position : Nat) : (widget : Widget) →
    (widget.loading position).2.loads.map Prod.snd = widget.sources ∧
      ∀ load ∈ (widget.loading position).2.loads, load.1 ≠ Client.loader
  | node frame children => by
      unfold sources
      rw [loading, requests]
      cases frame.request? with
      | some request =>
          refine ⟨by simp [Loading.loads], ?_⟩
          simp [Loading.loads, Client.awaited, Client.loader]
      | none =>
          dsimp only
          rw [Loading.loads]
          exact loads_loadings position children

/-- The loads of some widgets. -/
theorem loads_loadings (position : Nat) : (widgets : List Widget) →
    (Loading.loadsOf (loadings position widgets).2).map Prod.snd =
        (requestsOf widgets).map MediaRequest.source ∧
      ∀ load ∈ Loading.loadsOf (loadings position widgets).2, load.1 ≠ Client.loader
  | [] => by
      rw [loadings, Loading.loadsOf, requestsOf]
      exact ⟨rfl, nofun⟩
  | widget :: rest => by
      obtain ⟨hsources, hclients⟩ := loads_loading position widget
      obtain ⟨hrest, hothers⟩ := loads_loadings (widget.loading position).1 rest
      rw [loadings, Loading.loadsOf, requestsOf, List.map_append, List.map_append, hsources, hrest,
        List.forall_mem_append]
      exact ⟨rfl, hclients, hothers⟩

end

mutual

/-- Rendering begins clear exactly if all media can be played. -/
theorem clear_loading (position : Nat) : (widget : Widget) →
    ((widget.loading position).2.Clear outcomes support ↔
      ∀ request ∈ widget.requests, outcomes.Plays support request)
  | node frame children => by
      rw [loading, requests]
      cases frame.request? with
      | some request =>
          dsimp only
          rw [List.forall_mem_singleton]
          refine ⟨fun h => ?_, .medium⟩
          cases h with
          | medium hplays => exact hplays
      | none =>
          dsimp only
          rw [← clear_loadings position children]
          refine ⟨fun h => ?_, .row⟩
          cases h with
          | row hparts => exact hparts

/-- Rendering widgets begins clear exactly if all their media can be played. -/
theorem clear_loadings (position : Nat) : (widgets : List Widget) →
    ((∀ part ∈ (loadings position widgets).2, part.Clear outcomes support) ↔
      ∀ request ∈ requestsOf widgets, outcomes.Plays support request)
  | [] => by
      rw [loadings, requestsOf]
      exact ⟨fun _ => nofun, fun _ => nofun⟩
  | widget :: rest => by
      rw [loadings, requestsOf, List.forall_mem_append, ← clear_loading position widget,
        ← clear_loadings (widget.loading position).1 rest]
      exact List.forall_mem_cons

end

mutual

/-- Rendering a narrow widget begins without long rows around loads. -/
theorem narrow_loading (position : Nat) : (widget : Widget) → widget.isNarrow = true →
    (widget.loading position).2.Narrow
  | node frame children, hnarrow => by
      rw [isNarrow] at hnarrow
      rw [loading]
      cases hrequest : frame.request? with
      | some request => exact .medium _ _
      | none =>
          rw [hrequest] at hnarrow
          dsimp only at hnarrow ⊢
          rw [Bool.or_eq_true, Bool.and_eq_true, decide_eq_true_eq] at hnarrow
          rcases hnarrow with hnone | ⟨hshort, hnarrow⟩
          · have hloads := (loads_loadings position children).1
            rw [List.isEmpty_iff.mp hnone] at hloads
            refine .idle ?_
            rw [Loading.loads]
            exact List.map_eq_nil_iff.mp hloads
          · obtain ⟨hlength, hparts⟩ := narrow_loadings position children hnarrow
            exact .row (hlength ▸ hshort) hparts

/-- Rendering narrow widgets begins without long rows around loads. -/
theorem narrow_loadings (position : Nat) : (widgets : List Widget) → areNarrow widgets = true →
    (loadings position widgets).2.length = widgets.length ∧
      ∀ part ∈ (loadings position widgets).2, part.Narrow
  | [], _ => by
      rw [loadings]
      exact ⟨rfl, nofun⟩
  | widget :: rest, hnarrow => by
      rw [areNarrow, Bool.and_eq_true] at hnarrow
      obtain ⟨hlength, hparts⟩ := narrow_loadings (widget.loading position).1 rest hnarrow.2
      rw [loadings]
      refine ⟨congrArg (· + 1) hlength, ?_⟩
      exact List.forall_mem_cons.mpr ⟨narrow_loading position widget hnarrow.1, hparts⟩

end

end Widget

end Widgetry
