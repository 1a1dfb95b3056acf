import Widgetry.Proofs.Rendering.Refinement

/-!
# Rendering from held media

Once a widget is rendered, its session holds all of its media, and no load is under way
(`holds_of_render`). The same then holds of every widget below it, and rendering one of these alone
gives the node that it already has in the drawn tree (`Holds.renders`).
-/

namespace Widgetry

/-- Widgets need the media that each of them needs. -/
theorem Widget.requests_of_eq_flat_map (widgets : List Widget) :
    requestsOf widgets = widgets.flatMap requests := by
  induction widgets with
  | nil => rw [requestsOf, List.flatMap_nil]
  | cons widget rest ih => rw [requestsOf, List.flatMap_cons, ih]

namespace Session

/-- Rendering a widget gives a node, whenever the loads end. With contents in place of handles this
is the node of the direct renderer. -/
def Renders (outcomes : Outcomes) (support : MediaSupport) (widget : Widget) (drawn : Node)
    (s : Session) : Prop :=
  (∀ delays, (s.render (outcomes.after delays) support widget).2 = some (.ok drawn)) ∧
    widget.renderDirect outcomes support = .ok (drawn.rewritten s.cache.inline)

/-- All media of a widget can be played and are loaded, and no load is under way. -/
structure Holds (outcomes : Outcomes) (support : MediaSupport) (widget : Widget) (s : Session) :
    Prop where
  coherent : s.IsCoherent outcomes
  quiet : s.IsQuiet
  plays : ∀ request ∈ widget.requests, outcomes.Plays support request
  loaded : ∀ source ∈ widget.sources, ∃ resource, s.cache.outcome? source = some (.ok resource)

variable {outcomes : Outcomes} {delays : String → Nat} {support : MediaSupport} {s s' : Session}
  {widget : Widget}

/-- A session that has rendered a widget holds its media, and the widget is drawn with them. -/
theorem holds_of_render {drawn : Node} (hcoherent : s.IsCoherent outcomes) (hquiet : s.IsQuiet)
    (hrender : s.render (outcomes.after delays) support widget = (s', some (.ok drawn))) :
    drawn = widget.draw s'.media ∧ s'.Holds outcomes support widget := by
  have hplays := plays_of_render hcoherent hrender
  obtain ⟨s₁, rest, s₂, hrender₂, hcoherent₂, hfirst, hcourse⟩ :=
    render_completes delays hcoherent hquiet hplays
  obtain ⟨htended, hloaded⟩ := loaded_of_course hquiet hplays hcoherent₂ hfirst hcourse
  have hattended : s₂.IsAttended [] :=
    hcourse.is_attended (hfirst.is_attended (hquiet.is_attended _))
  rw [hrender] at hrender₂
  cases hrender₂
  exact ⟨rfl, hcoherent₂, is_quiet_of_attended htended.unreserved hattended, hplays, hloaded⟩

/-- A session that holds the media of a widget holds those of its children. -/
theorem Holds.child {frame : Frame} {children : List Widget} {child : Widget}
    (h : s.Holds outcomes support (.node frame children)) (hframe : frame.request? = none)
    (hchild : child ∈ children) : s.Holds outcomes support child := by
  have hrequests : ∀ request ∈ child.requests, request ∈ (Widget.node frame children).requests := by
    intro request hrequest
    rw [Widget.requests, hframe]
    dsimp only
    rw [Widget.requests_of_eq_flat_map]
    exact List.mem_flatMap.mpr ⟨child, hchild, hrequest⟩
  refine ⟨h.coherent, h.quiet, fun request hrequest => h.plays request (hrequests request hrequest),
    fun source hsource => ?_⟩
  obtain ⟨request, hrequest, rfl⟩ := List.mem_map.mp hsource
  exact h.loaded request.source (List.mem_map_of_mem (hrequests request hrequest))

/-- A loaded medium stays in its place. -/
theorem media_eq_of_settled {source : String} {resource : Resource}
    (hloaded : s.cache.outcome? source = some (.ok resource))
    (hkept : s'.cache.outcome? source = some (.ok resource)) :
    s'.media source = s.media source := by
  unfold media Cache.loaded?
  rw [hloaded, hkept]

/-- **A widget whose media are held is rendered from them.** -/
theorem Holds.renders (h : s.Holds outcomes support widget) :
    s.Renders outcomes support widget (widget.draw s.media) := by
  constructor
  · intro delays
    obtain ⟨s₁, rest, s', hrender, hcoherent, hfirst, hcourse⟩ :=
      render_completes delays h.coherent h.quiet h.plays
    obtain ⟨htended, _⟩ := loaded_of_course h.quiet h.plays hcoherent hfirst hcourse
    have hdraw : widget.draw s'.media = widget.draw s.media := by
      refine Widget.draw_congr widget fun request hrequest => ?_
      obtain ⟨resource, hresource⟩ :=
        h.loaded request.source (List.mem_map_of_mem hrequest)
      exact media_eq_of_settled hresource (htended.settled _ _ hresource)
    rw [hrender, hdraw]
  · rw [rewritten_draw_inline h.coherent h.loaded]
    exact (Widget.render_direct_eq_ok widget _).mpr ⟨h.plays, rfl⟩

end Session

end Widgetry
