import Widgetry.Proofs.Rendering.Direct
import Widgetry.Proofs.Rendering.Order

/-!
# Rendering refines the direct renderer

Rendering through the cache of a session in which no load is under way succeeds exactly if all media
can be played, whatever the delays (`render_completes`, `plays_of_render`), and prints with inlined
handles what the direct renderer prints (`html_with_inline`). For a fresh session the main theorem,
`render_refines_direct`, adds what is fetched, how often and in which order.

The order is that of the document where no widget around media has a long row of children. In a long
row it is so for as many sources as one round admits.
-/

namespace Widgetry

/-! ## Handles and contents -/

namespace Cache

/-- The empty text is no handle. -/
theorem inline_empty (cache : Cache) : cache.inline "" = none := by
  refine Option.map_eq_none_iff.mpr (List.find?_eq_none.mpr fun resource _ hempty => ?_)
  simp [Resource.handleUrl, Resource.handleText] at hempty

/-- Handles are replaced by data URIs, which are not empty. -/
theorem inline_ne_empty (cache : Cache) (value : String) : cache.inline value ≠ some "" := by
  intro hempty
  obtain ⟨resource, _, huri⟩ := Option.map_eq_some_iff.mp hempty
  simp [Resource.dataUri] at huri

end Cache

namespace Session

variable {outcomes : Outcomes} {delays : String → Nat} {support : MediaSupport} {s s' : Session}
  {widget : Widget} {source : String}

/-- A loaded medium, with its content in place of its handle, is the medium of the outcome. -/
theorem rewritten_media (hcoherent : s.IsCoherent outcomes) {resource : Resource}
    (hloaded : s.cache.outcome? source = some (.ok resource)) :
    Frame.rewrittenMedia s.cache.inline s.media source = outcomes.medium? source := by
  obtain ⟨fetched, hfetched, _, hkind, hbytes⟩ := hcoherent.faithful source _ hloaded
  have hinline : s.cache.inline resource.handleUrl = some resource.dataUri := by
    unfold Cache.inline
    rw [Cache.resolve_handle_of_loaded hcoherent.numbered hloaded]
    rfl
  have hmedia : s.media source = some ⟨resource.handleUrl, resource.kind⟩ := by
    simp [media, Cache.loaded?, hloaded]
  unfold Frame.rewrittenMedia Outcomes.medium?
  rw [hmedia, hfetched]
  have hurl : resource.handleUrl ≠ "" := by
    simp [Resource.handleUrl, Resource.handleText]
  simp [Node.rewrittenValue, hurl, hinline, Resource.dataUri, hkind, hbytes]

/-- A widget whose media are all loaded, with contents in place of handles, is the widget drawn with
the media of the outcomes. -/
theorem rewritten_draw_inline (hcoherent : s.IsCoherent outcomes)
    (hloaded : ∀ source ∈ widget.sources,
      ∃ resource, s.cache.outcome? source = some (.ok resource)) :
    (widget.draw s.media).rewritten s.cache.inline = widget.draw outcomes.medium? := by
  rw [Widget.rewritten_draw]
  refine Widget.draw_congr widget ?_
  intro request hrequest
  obtain ⟨resource, hresource⟩ :=
    hloaded request.source (List.mem_map.mpr ⟨request, hrequest, rfl⟩)
  exact rewritten_media hcoherent hresource

/-- A widget whose media are all loaded is printed, with contents in place of handles, as the direct
renderer prints it. -/
theorem html_with_inline (hcoherent : s.IsCoherent outcomes)
    (hloaded : ∀ source ∈ widget.sources,
      ∃ resource, s.cache.outcome? source = some (.ok resource)) :
    (widget.draw s.media).htmlWith s.cache.inline = (widget.draw outcomes.medium?).html := by
  rw [Node.html_with_eq (Cache.inline_ne_empty s.cache), rewritten_draw_inline hcoherent hloaded]

/-! ## Success -/

/-- A round of polls is lawful. -/
theorem poll_media_lawful {turned : Bool} {loading : Loading} (hcoherent : s.IsCoherent outcomes) :
    let polled := s.pollMedia (outcomes.after delays) support turned loading
    Loading.Lawful outcomes s polled.1 (loading.Clear outcomes support)
      (polled.2.Clear outcomes support) := by
  have hfirst : let polled := loading.poll (outcomes.after delays) support turned s
      Loading.Lawful outcomes s polled.1 (loading.Clear outcomes support)
        (polled.2.Clear outcomes support) := Loading.poll_lawful hcoherent loading
  unfold pollMedia
  generalize loading.poll (outcomes.after delays) support turned s = first at hfirst ⊢
  cases turned with
  | false => exact hfirst
  | true =>
      exact hfirst.trans (Loading.poll_lawful hfirst.coherent first.2)

/-- Waiting for media is lawful: if all have arrived, nothing could fail. -/
theorem await_media_lawful (start fuel : Nat) (loading : Loading)
    (hcoherent : s.IsCoherent outcomes) :
    let awaited := s.awaitMedia (outcomes.after delays) support start fuel loading
    Loading.Lawful outcomes s awaited.1 (loading.Clear outcomes support)
      (awaited.2 = some (.ok ())) := by
  induction fuel generalizing s loading with
  | zero => exact ⟨hcoherent, List.prefix_refl _, nofun⟩
  | succ fuel ih =>
      rw [Loading.await_media_succ]
      have h : let polled := s.pollMedia (outcomes.after delays) support (s.isTurned start) loading
          Loading.Lawful outcomes s polled.1 (loading.Clear outcomes support)
            (polled.2.Clear outcomes support) := poll_media_lawful hcoherent
      generalize s.pollMedia (outcomes.after delays) support (s.isTurned start) loading = polled
        at h ⊢
      dsimp only
      split
      · rename_i harrived
        exact ⟨h.coherent, h.calls, fun _ => h.clear (harrived ▸ .arrived)⟩
      · exact ⟨h.coherent, h.calls, nofun⟩
      · split
        · rename_i round _
          have hrest := ih polled.2 (h.coherent.advance round)
          exact h.trans ⟨hrest.coherent, hrest.calls, fun hdone => hrest.clear hdone⟩
        · exact ⟨h.coherent, h.calls, nofun⟩

/-- If all media have arrived, nothing could fail. -/
theorem clear_of_await_media {start fuel : Nat} {loading : Loading}
    (hcoherent : s.IsCoherent outcomes)
    (hdone : s.awaitMedia (outcomes.after delays) support start fuel loading =
      (s', some (.ok ()))) : loading.Clear outcomes support := by
  have hlawful : let awaited := s.awaitMedia (outcomes.after delays) support start fuel loading
      Loading.Lawful outcomes s awaited.1 (loading.Clear outcomes support)
        (awaited.2 = some (.ok ())) := await_media_lawful start fuel loading hcoherent
  rw [hdone] at hlawful
  exact hlawful.clear rfl

/-- If rendering succeeds, all media can be played. -/
theorem plays_of_render {drawn : Node} (hcoherent : s.IsCoherent outcomes)
    (hrender : s.render (outcomes.after delays) support widget = (s', some (.ok drawn))) :
    ∀ request ∈ widget.requests, outcomes.Plays support request := by
  unfold render at hrender
  dsimp only at hrender
  split at hrender
  · rename_i hdone
    exact (Widget.clear_loading 0 widget).mp (clear_of_await_media hcoherent hdone)
  · cases hrender
  · cases hrender

/-- **Rendering succeeds if all media can be played.** It begins with a forward sweep over the loads
of the widget, and draws the widget when all have arrived. -/
theorem render_completes (delays : String → Nat) (hcoherent : s.IsCoherent outcomes)
    (hquiet : s.IsQuiet)
    (hplays : ∀ request ∈ widget.requests, outcomes.Plays support request) :
    ∃ s₁ rest s', s.render (outcomes.after delays) support widget =
        (s', some (.ok (widget.draw s'.media))) ∧ s'.IsCoherent outcomes ∧
      Swept (outcomes.after delays) True s (widget.loading 0).2.loads s₁ rest ∧
      Course (outcomes.after delays) (widget.isNarrow = true) s₁ rest s' [] := by
  have hfuel : s.work (widget.loading 0).2.loads ≤ 3 * (widget.loading 0).2.loads.length + 1 :=
    Nat.le_succ_of_le (work_le_length s _)
  obtain ⟨s₁, rest, s', hdone, hcoherent', hfirst, hcourse⟩ :
      ∃ s₁ rest s', s.awaitMedia (outcomes.after delays) support s.now
          (3 * (widget.loading 0).2.loads.length + 2) (widget.loading 0).2 =
          (s', some (.ok ())) ∧ s'.IsCoherent outcomes ∧
        Swept (outcomes.after delays) True s (widget.loading 0).2.loads s₁ rest ∧
        Course (outcomes.after delays) (widget.isNarrow = true) s₁ rest s' [] :=
    Loading.await_media_starts _ hcoherent ((Widget.clear_loading 0 widget).mpr hplays)
      (Widget.narrow_loading 0 widget) hquiet.is_unreserved (hquiet.is_attended _) hfuel
  refine ⟨s₁, rest, s', ?_, hcoherent', hfirst, hcourse⟩
  unfold render
  dsimp only
  rw [hdone]

/-- After rendering, every source is loaded. -/
theorem loaded_of_course {s₁ : Session} {rest : List (Client × String)} (hquiet : s.IsQuiet)
    {forward : Prop} (hplays : ∀ request ∈ widget.requests, outcomes.Plays support request)
    (hcoherent : s'.IsCoherent outcomes)
    (hfirst : Swept (outcomes.after delays) True s (widget.loading 0).2.loads s₁ rest)
    (hcourse : Course (outcomes.after delays) forward s₁ rest s' []) :
    Tended s (widget.loading 0).2.loads s' [] ∧
      ∀ source ∈ widget.sources, ∃ resource, s'.cache.outcome? source = some (.ok resource) := by
  obtain ⟨hsources, hclients⟩ := Widget.loads_loading 0 widget
  have htended₁ := hfirst.tended hquiet.is_unreserved hclients
  have htended := htended₁.trans (hcourse.tended htended₁.unreserved fun load hload =>
    hclients load (htended₁.remaining load hload))
  refine ⟨htended, fun source hsource => ?_⟩
  obtain ⟨request, hrequest, hrequested⟩ := List.mem_map.mp hsource
  obtain ⟨fetched, hfetched, _⟩ := hplays request hrequest
  rw [hrequested] at hfetched
  rw [← hsources] at hsource
  obtain ⟨load, hload, rfl⟩ := List.mem_map.mp hsource
  rcases htended.arrived load hload with hload | ⟨outcome, houtcome⟩
  · exact (List.not_mem_nil hload).elim
  · exact hcoherent.exists_resource hfetched houtcome

/-! ## Fresh sessions -/

/-- A tallied session has one handle for each fetched URL, if all of them are loaded. -/
theorem handle_count_eq (hcoherent : s.IsCoherent outcomes) (htallied : s.IsTallied)
    (hloaded : ∀ url ∈ s.calls, ∃ resource, s.cache.outcome? url = some (.ok resource)) :
    s.cache.handleCount = s.calls.length := by
  have hperm : (s.cache.resources.map Resource.source).Perm s.calls := by
    rw [List.perm_ext_iff_of_nodup (Cache.nodup_sources hcoherent.numbered) htallied.nodup]
    intro url
    rw [Cache.mem_sources_iff hcoherent.numbered]
    constructor
    · rintro ⟨resource, hresource⟩
      exact (htallied.mem_calls url).mpr (is_fresh_of_outcome hresource)
    · exact hloaded url
  have hlength := hperm.length_eq
  rw [List.length_map] at hlength
  exact hlength

/-- **Rendering refines the direct renderer.** With fixed outcomes and any delays, rendering a
widget in a fresh session succeeds exactly if every medium is fetched and can be played. Then it
prints, with contents in place of handles, what the direct renderer prints. Every source is fetched
once and has one handle. The fetches of the first round come in document order, and so do all if no
widget around media has a long row of children. -/
theorem render_refines_direct (outcomes : Outcomes) (delays : String → Nat)
    (support : MediaSupport) (widget : Widget) :
    let rendered := Session.empty.render (outcomes.after delays) support widget
    ((∃ drawn, rendered.2 = some (.ok drawn)) ↔
        ∀ request ∈ widget.requests, outcomes.Plays support request) ∧
      ∀ drawn, rendered.2 = some (.ok drawn) →
        (∃ direct, widget.renderDirect outcomes support = .ok direct ∧
          drawn.htmlWith rendered.1.cache.inline = direct.html) ∧
        rendered.1.calls.Perm widget.sources.eraseDups ∧
        rendered.1.calls.take fullAllowance = widget.sources.eraseDups.take fullAllowance ∧
        (widget.isNarrow = true → rendered.1.calls = widget.sources.eraseDups) ∧
        rendered.1.cache.handleCount = widget.sources.eraseDups.length := by
  intro rendered
  have hplays : ∀ drawn, rendered.2 = some (.ok drawn) →
      ∀ request ∈ widget.requests, outcomes.Plays support request := by
    intro drawn hdrawn
    have hrender : rendered = (rendered.1, some (.ok drawn)) := by rw [← hdrawn]
    exact plays_of_render is_coherent_empty hrender
  refine ⟨⟨fun ⟨drawn, hdrawn⟩ => hplays drawn hdrawn, fun hplays => ?_⟩, ?_⟩
  · obtain ⟨s₁, rest, s', hrender, _⟩ :=
      render_completes delays is_coherent_empty is_quiet_empty hplays
    exact ⟨widget.draw s'.media, congrArg Prod.snd hrender⟩
  · intro drawn hdrawn
    have hplays := hplays drawn hdrawn
    obtain ⟨s₁, rest, s', hrender, hcoherent, hfirst, hcourse⟩ :=
      render_completes delays is_coherent_empty is_quiet_empty hplays
    have hrendered : rendered = (s', some (.ok (widget.draw s'.media))) := hrender
    rw [hrendered] at hdrawn ⊢
    cases hdrawn
    obtain ⟨htended, hloaded⟩ :=
      loaded_of_course is_quiet_empty hplays hcoherent hfirst hcourse
    obtain ⟨hsources, hclients⟩ := Widget.loads_loading 0 widget
    obtain ⟨hperm, htake, hnarrow⟩ := calls_of_course hfirst hcourse hclients
    rw [hsources] at hperm htake hnarrow
    refine ⟨?_, hperm, htake, hnarrow, ?_⟩
    · refine ⟨widget.draw outcomes.medium?, ?_, html_with_inline hcoherent hloaded⟩
      exact (Widget.render_direct_eq_ok widget _).mpr ⟨hplays, rfl⟩
    · rw [← hperm.length_eq]
      refine handle_count_eq hcoherent (htended.tallied is_tallied_empty) fun url hurl => ?_
      exact hloaded url (List.mem_eraseDups.mp (hperm.mem_iff.mp hurl))

end Session

end Widgetry
