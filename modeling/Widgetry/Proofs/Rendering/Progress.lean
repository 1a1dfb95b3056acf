import Widgetry.Proofs.Rendering.Sweeps

/-!
# Media that can all be played arrive

Every load takes at most three steps: its URL is fetched, the fetch is answered, and the load takes
the outcome. `Session.work` adds up the steps that are left. A sweep does not make it larger, and
makes it smaller if some load is ready for its next step; the rounds are chosen so that one is.
The main theorem, `await_media_completes`, concludes that rendering does not run out of rounds.
-/

namespace Widgetry

/-- The number of steps left to a load of a URL, at most. -/
def Entry.steps : Entry → Nat
  | .idle | .reserved _ _ => 3
  | .fetching _ _ _ => 2
  | .settled _ => 1

/-- A load of a URL can take its next step. -/
def Entry.IsReady (client : Client) (now allowance : Nat) : Entry → Prop
  | .idle => 0 < allowance
  | .reserved _ _ => False
  | .fetching owner due _ => owner = client ∧ ∃ round, due = some round ∧ round ≤ now
  | .settled _ => True

/-- An entry without its line. -/
def Entry.core : Entry → Entry
  | .reserved owner _ => .reserved owner []
  | .fetching owner due _ => .fetching owner due []
  | entry => entry

namespace Session

/-- The number of steps left to some loads, at most. -/
def work (s : Session) (loads : List (Client × String)) : Nat :=
  (loads.map fun load => (s.cache.entry load.2).steps).foldr Nat.add 0

/-- Nobody has taken over a fetch. -/
def IsUnreserved (s : Session) : Prop :=
  ∀ url owner line, s.cache.entry url ≠ .reserved owner line

/-- Every fetch under way is answered at some time and has its owner among some loads. -/
def IsAttended (loads : List (Client × String)) (s : Session) : Prop :=
  ∀ url owner due line, s.cache.entry url = .fetching owner due line →
    (owner, url) ∈ loads ∧ ∃ round, due = some round

/-- A load can take its next step. -/
def IsReady (s : Session) (client : Client) (url : String) : Prop :=
  (s.cache.entry url).IsReady client s.now s.allowance

/-- Nothing has changed but lines. -/
def Rests (s s' : Session) : Prop :=
  (∀ url, (s'.cache.entry url).core = (s.cache.entry url).core) ∧ s'.now = s.now ∧
    s'.allowance = s.allowance

/-- The loads of URLs have at most as many steps left as before. -/
def Works (s s' : Session) : Prop :=
  (∀ url, (s'.cache.entry url).steps ≤ (s.cache.entry url).steps) ∧ s'.now = s.now

/-- Loads are swept, and rounds pass, again and again. -/
inductive Course (transport : Transport) (forward : Prop) :
    Session → List (Client × String) → Session → List (Client × String) → Prop where
  | refl (s loads) : Course transport forward s loads s loads
  | sweep {s s₁ s' loads loads₁ rest} :
      Swept transport forward s loads s₁ loads₁ → Course transport forward s₁ loads₁ s' rest →
      Course transport forward s loads s' rest
  | advance {s s' loads rest} (round) :
      Course transport forward (s.advanceTo round) loads s' rest →
      Course transport forward s loads s' rest

variable {outcomes : Outcomes} {delays : String → Nat} {client : Client} {url : String}
  {s s' s₁ : Session} {loads rest others : List (Client × String)}

/-- An entry without its line has as many steps left. -/
theorem steps_core (entry : Entry) : entry.core.steps = entry.steps := by
  cases entry <;> rfl

/-- Whether a load is ready does not depend on the line. -/
theorem is_ready_core (entry : Entry) {now allowance : Nat} :
    entry.core.IsReady client now allowance ↔ entry.IsReady client now allowance := by
  cases entry <;> exact Iff.rfl

/-- Every load has a step left. -/
theorem steps_pos (entry : Entry) : 0 < entry.steps := by
  cases entry <;> exact Nat.succ_pos _

/-- Nothing but lines changes twice. -/
theorem Rests.trans (h : s.Rests s₁) (h₁ : s₁.Rests s') : s.Rests s' :=
  ⟨fun url => (h₁.1 url).trans (h.1 url), h₁.2.1.trans h.2.1, h₁.2.2.trans h.2.2⟩

/-- Where only lines change, the steps left are the same. -/
theorem Rests.works (h : s.Rests s') : s.Works s' := by
  refine ⟨fun url => ?_, h.2.1⟩
  exact Nat.le_of_eq (by rw [← steps_core, h.1 url, steps_core])

/-- Where only lines change, what was ready is ready. -/
theorem Rests.is_ready (h : s.Rests s') (hready : s.IsReady client url) :
    s'.IsReady client url := by
  obtain ⟨hentries, hnow, hallowance⟩ := h
  unfold IsReady at hready ⊢
  rw [← is_ready_core, hentries url, is_ready_core, hnow, hallowance]
  exact hready

/-- The steps left to some loads do not become more. -/
theorem Works.work_le (h : s.Works s') (loads : List (Client × String)) :
    s'.work loads ≤ s.work loads := by
  induction loads with
  | nil => exact Nat.le_refl 0
  | cons load loads ih => exact Nat.add_le_add (h.1 load.2) ih

/-- One step after the other. -/
theorem Works.trans (h : s.Works s₁) (h₁ : s₁.Works s') : s.Works s' :=
  ⟨fun url => Nat.le_trans (h₁.1 url) (h.1 url), h₁.2.trans h.2⟩

/-- A URL that a client may fetch is idle, unless somebody has taken over. -/
theorem idle_of_free {line : List Client} (hunreserved : s.IsUnreserved)
    (hfree : s.IsFree client url line) : s.cache.entry url = .idle := by
  rcases hfree with ⟨hidle, _⟩ | hreserved
  · exact hidle
  · exact (hunreserved url client line hreserved).elim

/-- A step that changes the entry of one URL, to one with fewer steps left. -/
theorem works_of_entry (hothers : ∀ other, other ≠ url → s'.cache.entry other = s.cache.entry other)
    (hentry : (s'.cache.entry url).steps ≤ (s.cache.entry url).steps) (hnow : s'.now = s.now) :
    s.Works s' := by
  refine ⟨fun other => ?_, hnow⟩
  by_cases hurl : other = url
  · rw [hurl]
    exact hentry
  · exact Nat.le_of_eq (by rw [hothers other hurl])

/-- A poll of an awaited load that is not ready changes nothing but a line. Any other makes a step:
it takes an outcome, or the URL has fewer steps left. -/
theorem Polled.rests_or_works (hunreserved : s.IsUnreserved)
    (hpolled : s.Polled (outcomes.after delays) client url s') :
    (s.Rests s' ∧ ¬ s.IsReady client url) ∨
      (s.Works s' ∧ (s'.cache.outcome? url ≠ none ∨
        (s'.cache.entry url).steps < (s.cache.entry url).steps)) := by
  have hothers : ∀ other, other ≠ url → s'.cache.entry other = s.cache.entry other :=
    fun other hother => hpolled.entry_of_ne hother
  cases hpolled with
  | settled outcome hentry heq =>
      subst heq
      right
      exact ⟨⟨fun _ => Nat.le_refl _, rfl⟩, .inl (by simp [Cache.outcome?, hentry])⟩
  | deferred line hfree _ hallowance heq =>
      have hidle := idle_of_free hunreserved hfree
      left
      refine ⟨⟨fun other => ?_, ?_, ?_⟩, ?_⟩
      · rw [heq, Cache.entry_set_entry]
      · rw [heq]
      · rw [heq]
      · unfold IsReady
        rw [hidle, hallowance]
        exact Nat.lt_irrefl 0
  | joined owner line howner hentry heq =>
      rcases hentry with hentry | ⟨due, hentry⟩
      · exact (hunreserved url owner line hentry).elim
      · -- The answer is there for the owner alone, so that the caller was not ready.
        left
        refine ⟨⟨fun other => ?_, ?_, ?_⟩, ?_⟩
        · by_cases hurl : other = url
          · rw [heq, hurl, join, Cache.entry_set_self, hentry]
            rfl
          · rw [hothers other hurl]
        · rw [heq, join]
        · rw [heq, join]
        · unfold IsReady
          rw [hentry]
          exact fun hready => howner hready.1
  | waiting due line hentry hlater heq =>
      subst heq
      left
      refine ⟨⟨fun _ => rfl, rfl, rfl⟩, ?_⟩
      unfold IsReady
      rw [hentry]
      rintro ⟨_, round, hdue, hround⟩
      have hnow := hlater (delays url) (outcomes url) round rfl hdue
      omega
  | answered rounds answer round line hentry _ _ heq =>
      right
      have hafter : s'.cache.entry url = .settled (s.cache.judge url answer) := by
        rw [heq, cache_settle, Cache.entry_settle_self]
      refine ⟨works_of_entry hothers ?_ (by rw [heq, now_settle]), .inl ?_⟩
      · rw [hafter, hentry]
        exact Nat.le_succ 1
      · simp [Cache.outcome?, hafter]
  | issued line paid hfree hpaid _ heq =>
      right
      have hafter : (s'.cache.entry url).steps = 2 := by
        rw [heq, entry_opened, if_pos rfl]
        rfl
      have hbefore : (s.cache.entry url).steps = 3 := by
        rw [idle_of_free hunreserved hfree]
        rfl
      refine ⟨works_of_entry hothers (by omega) ?_, .inr (by omega)⟩
      rw [heq]
      exact (paid_eq hpaid).2.2
  | issuedAnswered line paid answer hfree hpaid _ heq =>
      right
      have hafter : s'.cache.entry url = .settled (s.cache.judge url answer) := by
        rw [heq, entry_opened_settle hpaid, if_pos rfl]
      have hbefore : (s.cache.entry url).steps = 3 := by
        rw [idle_of_free hunreserved hfree]
        rfl
      refine ⟨works_of_entry hothers ?_ ?_, .inl ?_⟩
      · rw [hafter, hbefore]
        exact Nat.le_add_left 1 2
      · rw [heq, now_settle]
        exact (paid_eq hpaid).2.2
      · simp [Cache.outcome?, hafter]

/-! ## Sweeps -/

/-- A poll changes no more than the line of its URL, or settles it, or fetches it. -/
theorem Polled.core_cases (hpolled : s.Polled (outcomes.after delays) client url s') :
    (s'.cache.entry url).core = (s.cache.entry url).core ∨
      (∃ outcome, s'.cache.entry url = .settled outcome) ∨
      ∃ round line, s'.cache.entry url = .fetching client (some round) line := by
  cases hpolled with
  | settled outcome _ heq => exact .inl (by rw [heq])
  | deferred line _ _ _ heq => exact .inl (by rw [heq, Cache.entry_set_entry])
  | joined owner line _ hentry heq =>
      left
      rw [heq, join, Cache.entry_set_self]
      rcases hentry with hentry | ⟨due, hentry⟩
      · rw [hentry]
        rfl
      · rw [hentry]
        rfl
  | waiting due line _ _ heq => exact .inl (by rw [heq])
  | answered rounds answer round line _ _ _ heq =>
      exact .inr (.inl ⟨_, by rw [heq, cache_settle, Cache.entry_settle_self]⟩)
  | issued line paid _ _ _ heq =>
      exact .inr (.inr ⟨_, line, by rw [heq, entry_opened, if_pos rfl]; rfl⟩)
  | issuedAnswered line paid answer _ hpaid _ heq =>
      exact .inr (.inl ⟨_, by rw [heq, entry_opened_settle hpaid, if_pos rfl]⟩)

/-- Nobody takes over in a poll. -/
theorem IsUnreserved.polled (hunreserved : s.IsUnreserved)
    (hpolled : s.Polled (outcomes.after delays) client url s') : s'.IsUnreserved := by
  intro other owner line hentry
  by_cases hurl : other = url
  · subst hurl
    rcases hpolled.core_cases with hcore | ⟨outcome, hsettled⟩ | ⟨round, line', hfetching⟩
    · rw [hentry] at hcore
      cases hbefore : s.cache.entry other with
      | reserved owner' line' => exact hunreserved other owner' line' hbefore
      | idle | fetching owner' due line' | settled outcome =>
          rw [hbefore] at hcore
          cases hcore
    · rw [hsettled] at hentry
      cases hentry
    · rw [hfetching] at hentry
      cases hentry
  · rw [hpolled.entry_of_ne hurl] at hentry
    exact hunreserved other owner line hentry

/-- A fetch that a poll issues belongs to its client. -/
theorem IsAttended.polled (hattended : s.IsAttended loads)
    (hpolled : s.Polled (outcomes.after delays) client url s') (hmem : (client, url) ∈ loads) :
    s'.IsAttended loads := by
  intro other owner due line hentry
  by_cases hurl : other = url
  · subst hurl
    rcases hpolled.core_cases with hcore | ⟨outcome, hsettled⟩ | ⟨round, line', hfetching⟩
    · rw [hentry] at hcore
      cases hbefore : s.cache.entry other with
      | fetching owner' due' line' =>
          rw [hbefore] at hcore
          cases hcore
          exact hattended other owner due line' hbefore
      | idle | reserved owner' line' | settled outcome =>
          rw [hbefore] at hcore
          cases hcore
    · rw [hsettled] at hentry
      cases hentry
    · rw [hfetching] at hentry
      cases hentry
      exact ⟨hmem, round, rfl⟩
  · rw [hpolled.entry_of_ne hurl] at hentry
    exact hattended other owner due line hentry

/-- It does not matter in which order the owners are listed. -/
theorem IsAttended.perm (hattended : s.IsAttended loads) (hperm : loads.Perm others) :
    s.IsAttended others := by
  intro url owner due line hentry
  obtain ⟨hmem, hdue⟩ := hattended url owner due line hentry
  exact ⟨hperm.mem_iff.mp hmem, hdue⟩

/-- Loads of settled URLs need not attend. -/
theorem IsAttended.of_settled (hattended : s.IsAttended loads)
    (hloads : ∀ load ∈ loads, load ∈ others ∨ s.cache.outcome? load.2 ≠ none) :
    s.IsAttended others := by
  intro url owner due line hentry
  obtain ⟨hmem, hdue⟩ := hattended url owner due line hentry
  refine ⟨?_, hdue⟩
  rcases hloads (owner, url) hmem with hmem | hsettled
  · exact hmem
  · exact (hsettled (by simp [Cache.outcome?, hentry])).elim

/-- After a sweep the fetches under way belong to the loads that remain, or to others. -/
theorem Sweep.is_attended (hsweep : Sweep (outcomes.after delays) s loads s' rest)
    (hattended : s.IsAttended (others ++ loads)) : s'.IsAttended (others ++ rest) := by
  induction hsweep generalizing others with
  | nil s => exact hattended
  | noted log _ ih => exact ih hattended
  | @arrived s s₁ s' client url loads rest outcome hpolled houtcome _ ih =>
      refine ih ?_
      refine (hattended.polled hpolled (by simp)).of_settled fun load hload => ?_
      rcases List.mem_append.mp hload with hload | hload
      · exact .inl (List.mem_append_left loads hload)
      · rcases List.mem_cons.mp hload with rfl | hload
        · exact .inr (by simp [houtcome])
        · exact .inl (List.mem_append_right others hload)
  | @waiting s s₁ s' client url loads rest hpolled houtcome _ ih =>
      have hpolled' : s₁.IsAttended ((others ++ [(client, url)]) ++ loads) := by
        simpa using hattended.polled hpolled (by simp)
      simpa using ih hpolled'

/-- Nobody takes over in a sweep. -/
theorem Sweep.is_unreserved (hsweep : Sweep (outcomes.after delays) s loads s' rest)
    (hunreserved : s.IsUnreserved) : s'.IsUnreserved := by
  induction hsweep with
  | nil s => exact hunreserved
  | noted log _ ih => exact ih hunreserved
  | arrived outcome hpolled _ _ ih => exact ih (hunreserved.polled hpolled)
  | waiting hpolled _ _ ih => exact ih (hunreserved.polled hpolled)

/-- A sweep keeps a session coherent. -/
theorem Sweep.is_coherent (hsweep : Sweep (outcomes.after delays) s loads s' rest)
    (hcoherent : s.IsCoherent outcomes) : s'.IsCoherent outcomes := by
  induction hsweep with
  | nil s => exact hcoherent
  | noted log _ ih => exact ih ⟨hcoherent.numbered, hcoherent.faithful⟩
  | arrived outcome hpolled _ _ ih => exact ih (hcoherent.polled hpolled)
  | waiting hpolled _ _ ih => exact ih (hcoherent.polled hpolled)

/-- A poll leaves no URL further from its end. -/
theorem Polled.works (hunreserved : s.IsUnreserved)
    (hpolled : s.Polled (outcomes.after delays) client url s') : s.Works s' := by
  rcases hpolled.rests_or_works hunreserved with ⟨hrests, _⟩ | ⟨hworks, _⟩
  · exact hrests.works
  · exact hworks

/-- A sweep leaves no URL further from its end. -/
theorem Sweep.works (hsweep : Sweep (outcomes.after delays) s loads s' rest)
    (hunreserved : s.IsUnreserved) : s.Works s' := by
  induction hsweep with
  | nil s => exact ⟨fun _ => Nat.le_refl _, rfl⟩
  | noted log _ ih => exact ih hunreserved
  | arrived outcome hpolled _ _ ih =>
      exact (hpolled.works hunreserved).trans (ih (hunreserved.polled hpolled))
  | waiting hpolled _ _ ih =>
      exact (hpolled.works hunreserved).trans (ih (hunreserved.polled hpolled))

/-- The work of a load and of others. -/
theorem work_cons (s : Session) (load : Client × String) (loads : List (Client × String)) :
    s.work (load :: loads) = (s.cache.entry load.2).steps + s.work loads := rfl

/-- The work of some loads and of others. -/
theorem work_append (s : Session) (loads others : List (Client × String)) :
    s.work (loads ++ others) = s.work loads + s.work others := by
  induction loads with
  | nil => exact (Nat.zero_add _).symm
  | cons load loads ih => rw [List.cons_append, work_cons, work_cons, ih, Nat.add_assoc]

/-- A load has at most three steps. -/
theorem work_le_length (s : Session) (loads : List (Client × String)) :
    s.work loads ≤ 3 * loads.length := by
  induction loads with
  | nil => exact Nat.le_refl 0
  | cons load loads ih =>
      have hsteps : (s.cache.entry load.2).steps ≤ 3 := by
        cases s.cache.entry load.2 <;> simp [Entry.steps]
      rw [work_cons, List.length_cons]
      omega

/-- A sweep leaves at most as much work as there was, and less if a load was ready. -/
theorem Sweep.work_le (hsweep : Sweep (outcomes.after delays) s loads s' rest)
    (hunreserved : s.IsUnreserved) :
    s'.work rest ≤ s.work loads ∧
      ((∃ load ∈ loads, s.IsReady load.1 load.2) → s'.work rest < s.work loads) := by
  induction hsweep with
  | nil s => exact ⟨Nat.le_refl _, fun ⟨load, hload, _⟩ => (List.not_mem_nil hload).elim⟩
  | noted log _ ih => exact ih hunreserved
  | @arrived s s₁ s' client url loads rest outcome hpolled houtcome _ ih =>
      have hrest := (ih (hunreserved.polled hpolled)).1
      have hfirst := (hpolled.works hunreserved).work_le loads
      have hpos := steps_pos (s.cache.entry url)
      rw [work_cons]
      dsimp only
      exact ⟨by omega, fun _ => by omega⟩
  | @waiting s s₁ s' client url loads rest hpolled houtcome hsweep ih =>
      have hunreserved' := hunreserved.polled hpolled
      obtain ⟨hrest, hless⟩ := ih hunreserved'
      have hfirst := (hpolled.works hunreserved).work_le loads
      have hurl := (hpolled.works hunreserved).1 url
      have hurl' := (hsweep.works hunreserved').1 url
      rw [work_cons, work_cons]
      dsimp only
      refine ⟨by omega, fun ⟨load, hload, hready⟩ => ?_⟩
      rcases hpolled.rests_or_works hunreserved with ⟨hrests, hunready⟩ | ⟨_, hstep⟩
      · -- The ready load is not the one that was polled, and is still ready.
        rcases List.mem_cons.mp hload with rfl | hload
        · exact (hunready hready).elim
        · have hless := hless ⟨load, hload, hrests.is_ready hready⟩
          omega
      · rcases hstep with hsettled | hless
        · exact (hsettled houtcome).elim
        · omega

/-- A sweep changes nothing but lines, or leaves less work. -/
theorem Sweep.rests_or_lt (hsweep : Sweep (outcomes.after delays) s loads s' rest)
    (hunreserved : s.IsUnreserved) :
    (s.Rests s' ∧ rest = loads) ∨ s'.work rest < s.work loads := by
  induction hsweep with
  | nil s => exact .inl ⟨⟨fun _ => rfl, rfl, rfl⟩, rfl⟩
  | noted log _ ih => exact ih hunreserved
  | @arrived s s₁ s' client url loads rest outcome hpolled houtcome hsweep ih =>
      have hrest := (hsweep.work_le (hunreserved.polled hpolled)).1
      have hfirst := (hpolled.works hunreserved).work_le loads
      have hpos := steps_pos (s.cache.entry url)
      right
      rw [work_cons]
      dsimp only
      omega
  | @waiting s s₁ s' client url loads rest hpolled houtcome hsweep ih =>
      have hunreserved' := hunreserved.polled hpolled
      have hfirst := (hpolled.works hunreserved).work_le loads
      have hurl := (hpolled.works hunreserved).1 url
      have hurl' := (hsweep.works hunreserved').1 url
      rw [work_cons, work_cons]
      dsimp only
      rcases ih hunreserved' with ⟨hrests', rfl⟩ | hless
      · -- The later loads rest, and a step can only come from this poll.
        rcases hpolled.rests_or_works hunreserved with ⟨hrests, _⟩ | ⟨_, hsettled | hless⟩
        · exact .inl ⟨hrests.trans hrests', rfl⟩
        · exact (hsettled houtcome).elim
        · have hrest := hrests'.works.work_le rest
          right
          omega
      · right
        omega

/-- A sweep of some among other loads leaves at most as much work as there was, and less if a load
was ready. If it leaves as much, it has changed nothing but lines. -/
theorem Sweep.work_among (hsweep : Sweep (outcomes.after delays) s loads s' rest)
    (hunreserved : s.IsUnreserved) (others : List (Client × String)) :
    s'.work rest + s'.work others ≤ s.work loads + s.work others ∧
      ((s.Rests s' ∧ rest = loads) ∨
        s'.work rest + s'.work others < s.work loads + s.work others) ∧
      ((∃ load ∈ loads, s.IsReady load.1 load.2) →
        s'.work rest + s'.work others < s.work loads + s.work others) := by
  have hothers := (hsweep.works hunreserved).work_le others
  obtain ⟨hle, hlt⟩ := hsweep.work_le hunreserved
  refine ⟨by omega, ?_, ?_⟩
  · rcases hsweep.rests_or_lt hunreserved with hrests | hless
    · exact .inl hrests
    · right
      omega
  · intro hready
    have hless := hlt hready
    omega

/-! ## Rounds -/

/-- The earlier of two rounds is one of them. -/
theorem eq_some_of_earlier {first second : Option Nat} {round : Nat}
    (h : earlier first second = some round) : first = some round ∨ second = some round := by
  cases first with
  | none => exact .inr h
  | some a =>
      cases second with
      | none => exact .inl h
      | some b =>
          have hmin : min a b = round := Option.some.inj h
          rcases Nat.le_total a b with hle | hle
          · left
            rw [← hmin, Nat.min_eq_left hle]
          · right
            rw [← hmin, Nat.min_eq_right hle]

/-- There is an earlier of two rounds if one of them comes. -/
theorem exists_earlier {first second : Option Nat} (h : first ≠ none ∨ second ≠ none) :
    ∃ round, earlier first second = some round := by
  cases first with
  | none =>
      rcases h with h | h
      · exact (h rfl).elim
      · exact Option.ne_none_iff_exists'.mp h
  | some a =>
      cases second with
      | none => exact ⟨a, rfl⟩
      | some b => exact ⟨min a b, rfl⟩

/-- The next round for some loads is the next one for one of them. -/
theorem exists_due_of_next_due {round : Nat} (hdue : s.nextDue loads = some round) :
    ∃ load ∈ loads, s.due load.1 load.2 = some round := by
  induction loads generalizing round with
  | nil => cases hdue
  | cons load loads ih =>
      rw [nextDue] at hdue
      rcases eq_some_of_earlier hdue with hfirst | hrest
      · exact ⟨load, List.mem_cons_self, hfirst⟩
      · obtain ⟨other, hother, hround⟩ := ih hrest
        exact ⟨other, List.mem_cons_of_mem load hother, hround⟩

/-- There is a next round for some loads if there is one for one of them. -/
theorem next_due_ne_none {load : Client × String} (hload : load ∈ loads)
    (hdue : s.due load.1 load.2 ≠ none) : s.nextDue loads ≠ none := by
  induction loads with
  | nil => exact (List.not_mem_nil hload).elim
  | cons first loads ih =>
      have hone : s.due first.1 first.2 ≠ none ∨ s.nextDue loads ≠ none := by
        rcases List.mem_cons.mp hload with rfl | hload
        · exact .inl hdue
        · exact .inr (ih hload)
      obtain ⟨round, hround⟩ := exists_earlier hone
      rw [nextDue, hround]
      nofun

/-- Fetches under way are answered and belong to the loads, so that some load has a next round. -/
theorem exists_next_due (hunreserved : s.IsUnreserved) (hattended : s.IsAttended loads)
    (hloads : loads ≠ []) : ∃ round, s.nextDue loads = some round := by
  obtain ⟨⟨client, url⟩, hload⟩ := List.exists_mem_of_ne_nil loads hloads
  refine Option.ne_none_iff_exists'.mp ?_
  cases hentry : s.cache.entry url with
  | idle | settled outcome =>
      refine next_due_ne_none hload ?_
      simp [due, hentry]
  | reserved owner line => exact (hunreserved url owner line hentry).elim
  | fetching owner due line =>
      obtain ⟨howner, round, hround⟩ := hattended url owner due line hentry
      refine next_due_ne_none howner ?_
      simp [Session.due, hentry, hround]

/-- What is ready is ready in a later round. -/
theorem IsReady.advance (hready : s.IsReady client url) (round : Nat) :
    (s.advanceTo round).IsReady client url := by
  show (s.cache.entry url).IsReady client (max s.now round) fullAllowance
  unfold IsReady at hready
  cases hentry : s.cache.entry url with
  | idle => exact Nat.succ_pos 127
  | settled outcome => exact trivial
  | reserved owner line =>
      rw [hentry] at hready
      exact hready
  | fetching owner due line =>
      rw [hentry] at hready
      obtain ⟨howner, answered, hanswered, hnow⟩ := hready
      exact ⟨howner, answered, hanswered, Nat.le_trans hnow (Nat.le_max_left _ _)⟩

/-- In its next round a load is ready. -/
theorem is_ready_advance (hunreserved : s.IsUnreserved) {round : Nat}
    (hdue : s.due client url = some round) : (s.advanceTo round).IsReady client url := by
  show (s.cache.entry url).IsReady client (max s.now round) fullAllowance
  unfold due at hdue
  cases hentry : s.cache.entry url with
  | idle => exact Nat.succ_pos 127
  | settled outcome => exact trivial
  | reserved owner line => exact (hunreserved url owner line hentry).elim
  | fetching owner due line =>
      rw [hentry] at hdue
      dsimp only at hdue
      split at hdue
      · rename_i howner
        obtain ⟨answered, hanswered, hround⟩ := Option.map_eq_some_iff.mp hdue
        exact ⟨howner, answered, hanswered, by omega⟩
      · cases hdue

/-! ## Quiet sessions -/

/-- No load is under way. -/
def IsQuiet (s : Session) : Prop :=
  ∀ url, s.cache.entry url = .idle ∨ ∃ outcome, s.cache.entry url = .settled outcome

/-- A fresh session is quiet. -/
theorem is_quiet_empty : Session.empty.IsQuiet := fun _ => .inl rfl

/-- Nobody has taken over a fetch in a quiet session. -/
theorem IsQuiet.is_unreserved (hquiet : s.IsQuiet) : s.IsUnreserved := by
  intro url owner line hentry
  rcases hquiet url with hidle | ⟨outcome, hsettled⟩
  · rw [hidle] at hentry
    cases hentry
  · rw [hsettled] at hentry
    cases hentry

/-- No fetch is under way in a quiet session. -/
theorem IsQuiet.is_attended (hquiet : s.IsQuiet) (loads : List (Client × String)) :
    s.IsAttended loads := by
  intro url owner due line hentry
  rcases hquiet url with hidle | ⟨outcome, hsettled⟩
  · rw [hidle] at hentry
    cases hentry
  · rw [hsettled] at hentry
    cases hentry

/-- Where no fetch under way has an owner, none is under way. -/
theorem is_quiet_of_attended (hunreserved : s.IsUnreserved) (hattended : s.IsAttended []) :
    s.IsQuiet := by
  intro url
  cases hentry : s.cache.entry url with
  | idle => exact .inl rfl
  | settled outcome => exact .inr ⟨outcome, rfl⟩
  | reserved owner line => exact (hunreserved url owner line hentry).elim
  | fetching owner due line =>
      exact (List.not_mem_nil (hattended url owner due line hentry).1).elim

/-! ## Courses -/

/-- One course after another. -/
theorem Course.trans {transport : Transport} {forward : Prop} {loads₁ : List (Client × String)}
    (h : Course transport forward s loads s₁ loads₁)
    (h₁ : Course transport forward s₁ loads₁ s' rest) :
    Course transport forward s loads s' rest := by
  induction h with
  | refl s loads => exact h₁
  | sweep hswept _ ih => exact .sweep hswept (ih h₁)
  | advance round _ ih => exact .advance round (ih h₁)

/-- The work does not depend on the order of loads. -/
theorem work_perm (s : Session) (hperm : loads.Perm rest) : s.work loads = s.work rest := by
  induction hperm with
  | nil => rfl
  | cons load _ ih => rw [work_cons, work_cons, ih]
  | swap first second loads => rw [work_cons, work_cons, work_cons, work_cons, Nat.add_left_comm]
  | trans _ _ ih ih' => exact ih.trans ih'

/-- No work is left exactly if no load is. -/
theorem work_eq_zero : s.work loads = 0 ↔ loads = [] := by
  cases loads with
  | nil => exact ⟨fun _ => rfl, fun _ => rfl⟩
  | cons load loads =>
      have hpos := steps_pos (s.cache.entry load.2)
      rw [work_cons]
      exact ⟨fun h => by omega, nofun⟩

end Session

namespace Loading

open Session

variable {outcomes : Outcomes} {delays : String → Nat} {support : MediaSupport} {turned : Bool}
  {forward : Prop} {s s₁ s' : Session} {loading loading₁ loading' : Loading}

/-- What polling media that can all be played leads to. -/
structure Advanced (outcomes : Outcomes) (delays : String → Nat) (support : MediaSupport)
    (forward : Prop) (s : Session) (loading : Loading) (s' : Session) (loading' : Loading) :
    Prop where
  coherent : s'.IsCoherent outcomes
  clear : loading'.Clear outcomes support
  narrow : forward → loading'.Narrow
  arrived : loading'.loads = [] → loading' = .arrived
  unreserved : s'.IsUnreserved
  attended : s'.IsAttended loading'.loads
  work_le : s'.work loading'.loads ≤ s.work loading.loads
  work_lt : (∃ load ∈ loading.loads, s.IsReady load.1 load.2) →
    s'.work loading'.loads < s.work loading.loads
  course : Course (outcomes.after delays) forward s loading.loads s' loading'.loads

/-- A pass over media. -/
theorem poll_advanced (turned : Bool) (hcoherent : s.IsCoherent outcomes)
    (hclear : loading.Clear outcomes support) (hnarrow : forward → loading.Narrow)
    (hunreserved : s.IsUnreserved) (hattended : s.IsAttended loading.loads) :
    let polled := loading.poll (outcomes.after delays) support turned s
    Advanced outcomes delays support forward s loading polled.1 polled.2 := by
  intro polled
  have hpassed : Passed outcomes delays support turned s loading polled.1 polled.2 :=
    poll_sweeps hcoherent loading hclear
  have hcoherent' : polled.1.IsCoherent outcomes := (poll_lawful hcoherent loading).coherent
  obtain ⟨order, remaining, horder, hremaining, hsweep, _⟩ := id hpassed.swept
  have hattended' : s.IsAttended ([] ++ order) := hattended.perm horder.symm
  obtain ⟨hle, hlt⟩ := hsweep.work_le hunreserved
  rw [work_perm s horder, work_perm polled.1 hremaining] at hle hlt
  refine ⟨hcoherent', hpassed.clear, fun h => hpassed.narrow (hnarrow h), hpassed.arrived,
    hsweep.is_unreserved hunreserved, (hsweep.is_attended hattended').perm hremaining, hle, ?_, ?_⟩
  · rintro ⟨load, hload, hready⟩
    exact hlt ⟨load, horder.mem_iff.mpr hload, hready⟩
  · exact .sweep (hpassed.swept.mono fun h => .inr (hnarrow h)) (.refl _ _)

/-- One pass after another. -/
theorem Advanced.trans (h : Advanced outcomes delays support forward s loading s₁ loading₁)
    (h₁ : Advanced outcomes delays support forward s₁ loading₁ s' loading') :
    Advanced outcomes delays support forward s loading s' loading' := by
  refine ⟨h₁.coherent, h₁.clear, h₁.narrow, h₁.arrived, h₁.unreserved, h₁.attended, ?_, ?_,
    h.course.trans h₁.course⟩
  · exact Nat.le_trans h₁.work_le h.work_le
  · exact fun hready => Nat.lt_of_le_of_lt h₁.work_le (h.work_lt hready)

/-- A round of polls. -/
theorem poll_media_advanced (turned : Bool) (hcoherent : s.IsCoherent outcomes)
    (hclear : loading.Clear outcomes support) (hnarrow : forward → loading.Narrow)
    (hunreserved : s.IsUnreserved) (hattended : s.IsAttended loading.loads) :
    let polled := s.pollMedia (outcomes.after delays) support turned loading
    Advanced outcomes delays support forward s loading polled.1 polled.2 := by
  have hfirst : let polled := loading.poll (outcomes.after delays) support turned s
      Advanced outcomes delays support forward s loading polled.1 polled.2 :=
    poll_advanced turned hcoherent hclear hnarrow hunreserved hattended
  unfold pollMedia
  generalize loading.poll (outcomes.after delays) support turned s = first at hfirst ⊢
  cases turned with
  | false => exact hfirst
  | true =>
      exact hfirst.trans (poll_advanced false hfirst.coherent hfirst.clear hfirst.narrow
        hfirst.unreserved hfirst.attended)

/-- One round, and the rounds after it. -/
theorem await_media_succ (transport : Transport) (support : MediaSupport) (start fuel : Nat)
    (s : Session) (loading : Loading) :
    s.awaitMedia transport support start (fuel + 1) loading =
      let polled := s.pollMedia transport support (s.isTurned start) loading
      match polled.2 with
      | .arrived => (polled.1, some (.ok ()))
      | .failed e => (polled.1, some (.error e))
      | loading' =>
          match polled.1.nextDue loading'.loads with
          | some round =>
              (polled.1.advanceTo round).awaitMedia transport support start fuel loading'
          | none => (polled.1, none) := by
  rw [awaitMedia]
  generalize s.pollMedia transport support (s.isTurned start) loading = polled
  obtain ⟨s₁, loading₁⟩ := polled
  cases loading₁ <;> rfl

/-- After a round without all media there is a next round, in which a load is ready. -/
theorem await_media_next {start : Nat} (fuel : Nat) {polled : Session × Loading}
    (hpolled : s.pollMedia (outcomes.after delays) support (s.isTurned start) loading = polled)
    (hadvanced : Advanced outcomes delays support forward s loading polled.1 polled.2) :
    (polled.2 = .arrived ∧
      s.awaitMedia (outcomes.after delays) support start (fuel + 1) loading =
        (polled.1, some (.ok ()))) ∨
    (polled.2.loads ≠ [] ∧ ∃ round,
      (∃ load ∈ polled.2.loads, (polled.1.advanceTo round).IsReady load.1 load.2) ∧
      s.awaitMedia (outcomes.after delays) support start (fuel + 1) loading =
        (polled.1.advanceTo round).awaitMedia (outcomes.after delays) support start fuel
          polled.2) := by
  rw [await_media_succ, hpolled]
  dsimp only
  by_cases hloads : polled.2.loads = []
  · left
    have harrived := hadvanced.arrived hloads
    exact ⟨harrived, by rw [harrived]⟩
  · right
    refine ⟨hloads, ?_⟩
    obtain ⟨round, hround⟩ := exists_next_due hadvanced.unreserved hadvanced.attended hloads
    obtain ⟨load, hload, hdue⟩ := exists_due_of_next_due hround
    refine ⟨round, ⟨load, hload, is_ready_advance hadvanced.unreserved hdue⟩, ?_⟩
    have hclear := hadvanced.clear
    obtain ⟨s₁, loading₁⟩ := polled
    cases loading₁ with
    | arrived => exact (hloads (by rw [loads])).elim
    | failed e => exact (not_clear_of_failed rfl hclear).elim
    | medium client request =>
        dsimp only at hround ⊢
        rw [hround]
    | row parts =>
        dsimp only at hround ⊢
        rw [hround]

/-- **Media that can all be played arrive** if there are enough rounds, one more than there are
steps left, and one of them can be made. -/
theorem await_media_completes (start fuel : Nat) (hcoherent : s.IsCoherent outcomes)
    (hclear : loading.Clear outcomes support) (hnarrow : forward → loading.Narrow)
    (hunreserved : s.IsUnreserved) (hattended : s.IsAttended loading.loads)
    (hready : ∃ load ∈ loading.loads, s.IsReady load.1 load.2)
    (hfuel : s.work loading.loads ≤ fuel) :
    ∃ s', s.awaitMedia (outcomes.after delays) support start fuel loading = (s', some (.ok ())) ∧
      s'.IsCoherent outcomes ∧ Course (outcomes.after delays) forward s loading.loads s' [] := by
  induction fuel generalizing s loading with
  | zero =>
      obtain ⟨load, hload, _⟩ := hready
      have hnone := work_eq_zero.mp (Nat.le_zero.mp hfuel)
      rw [hnone] at hload
      exact (List.not_mem_nil hload).elim
  | succ fuel ih =>
      obtain ⟨polled, hpolled⟩ : ∃ polled, s.pollMedia (outcomes.after delays) support
          (s.isTurned start) loading = polled := ⟨_, rfl⟩
      have hadvanced : Advanced outcomes delays support forward s loading polled.1 polled.2 := by
        rw [← hpolled]
        exact poll_media_advanced _ hcoherent hclear hnarrow hunreserved hattended
      rcases await_media_next fuel hpolled hadvanced with
        ⟨harrived, heq⟩ | ⟨hloads, round, hready', heq⟩
      · refine ⟨polled.1, heq, hadvanced.coherent, ?_⟩
        have hcourse := hadvanced.course
        rw [harrived, loads] at hcourse
        exact hcourse
      · rw [heq]
        -- A load was ready, so this round has made a step, and another is ready in the next one.
        have hless := hadvanced.work_lt hready
        have hfuel₁ : (polled.1.advanceTo round).work polled.2.loads ≤ fuel := by
          show polled.1.work polled.2.loads ≤ fuel
          omega
        obtain ⟨s', hdone, hcoherent', hcourse⟩ := ih (hadvanced.coherent.advance round)
          hadvanced.clear hadvanced.narrow hadvanced.unreserved hadvanced.attended hready' hfuel₁
        exact ⟨s', hdone, hcoherent', hadvanced.course.trans (.advance round hcourse)⟩

/-- Media that can all be played arrive, also if none is ready at first. The first pass is
forward. -/
theorem await_media_starts (fuel : Nat) (hcoherent : s.IsCoherent outcomes)
    (hclear : loading.Clear outcomes support) (hnarrow : forward → loading.Narrow)
    (hunreserved : s.IsUnreserved) (hattended : s.IsAttended loading.loads)
    (hfuel : s.work loading.loads ≤ fuel) :
    ∃ s₁ rest s', s.awaitMedia (outcomes.after delays) support s.now (fuel + 1) loading =
        (s', some (.ok ())) ∧ s'.IsCoherent outcomes ∧
      Swept (outcomes.after delays) True s loading.loads s₁ rest ∧
      Course (outcomes.after delays) forward s₁ rest s' [] := by
  have hturned : s.isTurned s.now = false := by
    unfold isTurned
    rw [Nat.sub_self]
    rfl
  obtain ⟨polled, hpolled⟩ : ∃ polled, s.pollMedia (outcomes.after delays) support
      (s.isTurned s.now) loading = polled := ⟨_, rfl⟩
  have hadvanced : Advanced outcomes delays support forward s loading polled.1 polled.2 := by
    rw [← hpolled]
    exact poll_media_advanced _ hcoherent hclear hnarrow hunreserved hattended
  have hswept : Swept (outcomes.after delays) True s loading.loads polled.1 polled.2.loads := by
    rw [← hpolled, hturned]
    exact (poll_sweeps hcoherent loading hclear).swept.mono fun _ => .inl rfl
  refine ⟨polled.1, polled.2.loads, ?_⟩
  rcases await_media_next fuel hpolled hadvanced with ⟨harrived, heq⟩ | ⟨_, round, hready, heq⟩
  · refine ⟨polled.1, heq, hadvanced.coherent, hswept, ?_⟩
    rw [harrived, loads]
    exact .refl _ _
  · -- The first round may have made no step, which is why there is one more.
    have hfuel₁ : (polled.1.advanceTo round).work polled.2.loads ≤ fuel :=
      Nat.le_trans hadvanced.work_le hfuel
    obtain ⟨s', hdone, hcoherent', hcourse⟩ := await_media_completes s.now fuel
      (hadvanced.coherent.advance round) hadvanced.clear hadvanced.narrow hadvanced.unreserved
      hadvanced.attended hready hfuel₁
    exact ⟨s', heq.trans hdone, hcoherent', hswept, .advance round hcourse⟩

end Loading

end Widgetry
