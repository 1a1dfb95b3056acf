import Mathlib.Data.List.Nodup
import Widgetry.Proofs.Rendering.Progress

/-!
# Loads and their effort

A medium that cannot be played ends the rendering of the widgets around it, and the loads of these
are given up. The fetch of one that is given up is issued again by the next in line, so that a URL
may come further from its end. A load may not: it has three steps of its own, since it issues at
most one fetch. `Session.effort` adds up the steps left to the loads under way.

A pass over loads makes them fewer and brings none further from its end (`Session.Narrows`), and
takes a step if a load is ripe (`Session.Progresses`). The loads that an entry knows of are those
under way (`Session.IsHeld`).
-/

namespace Widgetry

/-! ## Loads of single clients -/

namespace Entry

/-- Those who load a URL: the owner of its fetch, and the others in line. -/
def clients : Entry → List Client
  | .idle | .settled _ => []
  | .reserved owner line => owner :: line
  | .fetching owner _ line => owner :: line

/-- The number of steps left to the load of a client, at most. One that waits for the fetch of
another may yet have to issue its own. -/
def stepsOf (client : Client) : Entry → Nat
  | .idle | .reserved _ _ => 3
  | .fetching owner _ _ => if owner = client then 2 else 3
  | .settled _ => 1

/-- The load of a client can take its next step. -/
def IsRipe (client : Client) (now allowance : Nat) : Entry → Prop
  | .idle => 0 < allowance
  | .reserved owner _ => owner = client ∧ 0 < allowance
  | .fetching owner due _ => owner = client ∧ ∃ round, due = some round ∧ round ≤ now
  | .settled _ => True

variable {client other : Client}

/-- Whether a load is ripe does not depend on the line. -/
theorem is_ripe_core (entry : Entry) {now allowance : Nat} :
    entry.core.IsRipe client now allowance ↔ entry.IsRipe client now allowance := by
  cases entry <;> exact Iff.rfl

/-- Every load has a step left. -/
theorem steps_of_pos (entry : Entry) : 0 < entry.stepsOf client := by
  cases entry with
  | fetching owner due line =>
      rw [stepsOf]
      split <;> exact Nat.succ_pos _
  | idle | reserved owner line | settled outcome => exact Nat.succ_pos _

/-- No load has more than three steps left. -/
theorem steps_of_le_three (entry : Entry) : entry.stepsOf client ≤ 3 := by
  cases entry with
  | fetching owner due line =>
      rw [stepsOf]
      split <;> omega
  | idle | reserved owner line | settled outcome => simp [stepsOf]

/-- The next in line takes over, and the line moves up. -/
theorem clients_hand_over (line : List Client) : (handOver line).clients = line := by
  cases line <;> rfl

/-- Nobody has issued a fetch that was handed over. -/
theorem steps_of_hand_over (line : List Client) : (handOver line).stepsOf client = 3 := by
  cases line <;> rfl

/-- A client that leaves is no longer among those who load. -/
theorem clients_release (entry : Entry) (client : Client) :
    (entry.release client).clients = entry.clients.erase client := by
  cases entry with
  | idle | settled outcome => rfl
  | reserved owner line | fetching owner due line =>
      rw [release, clients]
      by_cases howner : owner = client
      · rw [if_pos howner, howner, List.erase_cons_head]
        exact clients_hand_over line
      · rw [if_neg howner, List.erase_cons_tail (by simpa using howner)]
        rfl

/-- A client that leaves takes no step of another one away. -/
theorem steps_of_release (entry : Entry) (hother : other ≠ client) :
    (entry.release client).stepsOf other = entry.stepsOf other := by
  cases entry with
  | idle | settled outcome => rfl
  | reserved owner line =>
      rw [release]
      split
      · exact steps_of_hand_over line
      · rfl
  | fetching owner due line =>
      rw [release]
      split
      · rename_i howner
        have hne : owner ≠ other := fun h => hother (h ▸ howner)
        rw [steps_of_hand_over, stepsOf, if_neg hne]
      · rfl

/-- A fetch that is under way after a client has left was so before. -/
theorem fetching_of_release {entry : Entry} {owner : Client} {due : Option Nat}
    {line : List Client} (h : entry.release client = .fetching owner due line) :
    ∃ line, entry = .fetching owner due line := by
  have hand : ∀ line', handOver line' ≠ .fetching owner due line := by
    intro line'
    cases line' <;> exact nofun
  cases entry with
  | idle | settled outcome => cases h
  | reserved owner' line' =>
      rw [release] at h
      split at h
      · exact (hand line' h).elim
      · cases h
  | fetching owner' due' line' =>
      rw [release] at h
      split at h
      · exact (hand line' h).elim
      · cases h
        exact ⟨line', rfl⟩

end Entry

namespace Session

/-- The number of steps left to a load, at most. -/
def stepsOf (s : Session) (load : Client × String) : Nat :=
  (s.cache.entry load.2).stepsOf load.1

/-- The number of steps left to some loads, at most. -/
def effort (s : Session) (loads : List (Client × String)) : Nat :=
  (loads.map s.stepsOf).foldr Nat.add 0

/-- A load can take its next step. -/
def IsRipe (s : Session) (load : Client × String) : Prop :=
  (s.cache.entry load.2).IsRipe load.1 s.now s.allowance

/-- No client loads a URL twice, all those who load have loads under way, and every fetch is
answered at some time. -/
structure IsHeld (under : Client × String → Prop) (s : Session) : Prop where
  nodup : ∀ url, (s.cache.entry url).clients.Nodup
  clients : ∀ url, ∀ client ∈ (s.cache.entry url).clients, under (client, url)
  answered : ∀ url owner line, s.cache.entry url ≠ .fetching owner none line

/-- A load, if it was under way, is so still. -/
def Survives (loads rest : List (Client × String)) (load : Client × String) : Prop :=
  load ∈ loads → load ∈ rest

/-- Some of the loads remain. No load that remains, and none of others, has more steps left, and
those who load have loads that remain. Without loads nothing but lines changes. -/
structure Narrows (s : Session) (loads : List (Client × String)) (s' : Session)
    (rest : List (Client × String)) : Prop where
  sublist : rest.Sublist loads
  steps : ∀ load, Survives loads rest load → s'.stepsOf load ≤ s.stepsOf load
  held : ∀ under, s.IsHeld under → (∀ load ∈ loads, under load) →
    s'.IsHeld fun load => under load ∧ Survives loads rest load
  rests : loads = [] → s.Rests s'

/-- There are fewer steps left, or nothing was ripe and nothing has changed but lines. -/
def Progresses (s : Session) (loads : List (Client × String)) (s' : Session)
    (rest : List (Client × String)) : Prop :=
  (s.Rests s' ∧ rest = loads ∧ ∀ load ∈ loads, ¬ s.IsRipe load) ∨ s'.effort rest < s.effort loads

variable {transport : Transport} {outcomes : Outcomes} {delays : String → Nat} {client : Client}
  {url : String} {s s₁ s' : Session} {loads rest a a' b b' c c' : List (Client × String)}
  {under : Client × String → Prop}

/-- What is ripe stays ripe where only lines change. -/
theorem Rests.is_ripe {load : Client × String} (h : s.Rests s') (hripe : s.IsRipe load) :
    s'.IsRipe load := by
  obtain ⟨hentries, hnow, hallowance⟩ := h
  unfold IsRipe at hripe ⊢
  rw [← Entry.is_ripe_core, hentries load.2, Entry.is_ripe_core, hnow, hallowance]
  exact hripe

/-- The effort of a load and of others. -/
theorem effort_cons (s : Session) (load : Client × String) (loads : List (Client × String)) :
    s.effort (load :: loads) = s.stepsOf load + s.effort loads := rfl

/-- The effort of some loads and of others. -/
theorem effort_append (s : Session) (loads others : List (Client × String)) :
    s.effort (loads ++ others) = s.effort loads + s.effort others := by
  induction loads with
  | nil => exact (Nat.zero_add _).symm
  | cons load loads ih => rw [List.cons_append, effort_cons, effort_cons, ih, Nat.add_assoc]

/-- The effort does not depend on the order of loads. -/
theorem effort_perm (s : Session) (hperm : loads.Perm rest) : s.effort loads = s.effort rest := by
  induction hperm with
  | nil => rfl
  | cons load _ ih => rw [effort_cons, effort_cons, ih]
  | swap first second loads =>
      rw [effort_cons, effort_cons, effort_cons, effort_cons, Nat.add_left_comm]
  | trans _ _ ih ih' => exact ih.trans ih'

/-- A load takes three steps at most. -/
theorem effort_le_length (s : Session) (loads : List (Client × String)) :
    s.effort loads ≤ 3 * loads.length := by
  induction loads with
  | nil => exact Nat.le_refl 0
  | cons load loads ih =>
      have hsteps : s.stepsOf load ≤ 3 := Entry.steps_of_le_three _
      rw [effort_cons, List.length_cons]
      omega

/-- Where there are loads, there are steps left. -/
theorem effort_pos (s : Session) (hloads : loads ≠ []) : 0 < s.effort loads := by
  cases loads with
  | nil => exact (hloads rfl).elim
  | cons load loads =>
      have hpos : 0 < s.stepsOf load := Entry.steps_of_pos _
      rw [effort_cons]
      omega

/-- The effort of the loads that remain. -/
theorem effort_le_of_sublist (hsublist : rest.Sublist loads)
    (hsteps : ∀ load ∈ rest, s'.stepsOf load ≤ s.stepsOf load) :
    s'.effort rest ≤ s.effort loads := by
  induction hsublist with
  | slnil => exact Nat.le_refl 0
  | cons load _ ih =>
      rw [effort_cons]
      exact Nat.le_trans (ih hsteps) (Nat.le_add_left _ _)
  | cons_cons load _ ih =>
      rw [List.forall_mem_cons] at hsteps
      exact Nat.add_le_add hsteps.1 (ih hsteps.2)

/-! ## Polls and releases -/

/-- A poll leaves no load further from its end. -/
theorem Polled.steps_of_le (hpolled : s.Polled transport client url s')
    (load : Client × String) : s'.stepsOf load ≤ s.stepsOf load := by
  obtain ⟨caller, other⟩ := load
  by_cases hurl : other = url
  swap
  · exact Nat.le_of_eq (by unfold stepsOf; rw [hpolled.entry_of_ne hurl])
  subst hurl
  unfold stepsOf
  dsimp only
  have hfree : ∀ line, s.IsFree client other line →
      (s.cache.entry other).stepsOf caller = 3 := by
    intro line hfree
    rcases hfree with ⟨hentry, _⟩ | hentry <;> rw [hentry] <;> rfl
  cases hpolled with
  | settled outcome _ heq => exact Nat.le_of_eq (by rw [heq])
  | deferred line _ _ _ heq => exact Nat.le_of_eq (by rw [heq, Cache.entry_set_entry])
  | joined owner line _ hentry heq =>
      refine Nat.le_of_eq ?_
      rw [heq, join, Cache.entry_set_self]
      rcases hentry with hentry | ⟨due, hentry⟩ <;> rw [hentry] <;> rfl
  | waiting due line _ _ heq => exact Nat.le_of_eq (by rw [heq])
  | answered rounds answer round line _ _ _ heq =>
      rw [heq, cache_settle, Cache.entry_settle_self]
      exact Entry.steps_of_pos _
  | issued line paid hline _ _ heq =>
      rw [hfree line hline]
      exact Entry.steps_of_le_three _
  | issuedAnswered line paid answer hline _ _ heq =>
      rw [hfree line hline]
      exact Entry.steps_of_le_three _

/-- A poll of a load that is not ripe changes nothing but a line. Any other makes a step: it takes
an outcome, or the load has fewer steps left. -/
theorem Polled.rests_or_steps (hpolled : s.Polled (outcomes.after delays) client url s') :
    (s.Rests s' ∧ ¬ s.IsRipe (client, url)) ∨ s'.cache.outcome? url ≠ none ∨
      s'.stepsOf (client, url) < s.stepsOf (client, url) := by
  have hothers : ∀ other, other ≠ url → s'.cache.entry other = s.cache.entry other :=
    fun other hother => hpolled.entry_of_ne hother
  unfold stepsOf IsRipe
  dsimp only
  cases hpolled with
  | settled outcome hentry heq =>
      right
      left
      simp [Cache.outcome?, heq, hentry]
  | deferred line hfree _ hallowance heq =>
      left
      refine ⟨⟨fun other => ?_, by rw [heq], by rw [heq]⟩, ?_⟩
      · rw [heq, Cache.entry_set_entry]
      · rw [hallowance]
        rcases hfree with ⟨hentry, _⟩ | hentry
        · rw [hentry]
          exact Nat.lt_irrefl 0
        · rw [hentry]
          exact fun hripe => Nat.lt_irrefl 0 hripe.2
  | joined owner line howner hentry heq =>
      left
      refine ⟨⟨fun other => ?_, by rw [heq, join], by rw [heq, join]⟩, ?_⟩
      · by_cases hurl : other = url
        · rw [heq, hurl, join, Cache.entry_set_self]
          rcases hentry with hentry | ⟨due, hentry⟩ <;> rw [hentry] <;> rfl
        · rw [hothers other hurl]
      · rcases hentry with hentry | ⟨due, hentry⟩ <;> rw [hentry] <;>
          exact fun hripe => howner hripe.1
  | waiting due line hentry hlater heq =>
      left
      refine ⟨⟨fun _ => by rw [heq], by rw [heq], by rw [heq]⟩, ?_⟩
      rw [hentry]
      rintro ⟨_, round, hdue, hround⟩
      have hnow := hlater (delays url) (outcomes url) round rfl hdue
      omega
  | answered rounds answer round line _ _ _ heq =>
      right
      left
      simp [Cache.outcome?, heq]
  | issued line paid hfree hpaid _ heq =>
      right
      right
      have hbefore : (s.cache.entry url).stepsOf client = 3 := by
        rcases hfree with ⟨hentry, _⟩ | hentry <;> rw [hentry] <;> rfl
      have hafter : (s'.cache.entry url).stepsOf client = 2 := by
        rw [heq, entry_opened, if_pos rfl, Entry.stepsOf, if_pos rfl]
      omega
  | issuedAnswered line paid answer _ hpaid _ heq =>
      right
      left
      simp [Cache.outcome?, heq]

/-- Those who load a URL may be said to have other loads under way. -/
theorem IsHeld.mono {under' : Client × String → Prop} (h : s.IsHeld under)
    (himp : ∀ load, under load → under' load) : s.IsHeld under' :=
  ⟨h.nodup, fun url client hclient => himp _ (h.clients url client hclient), h.answered⟩

/-- The entry of one URL changes. -/
theorem IsHeld.of_entry (h : s.IsHeld under)
    (hothers : ∀ other, other ≠ url → s'.cache.entry other = s.cache.entry other)
    (hnodup : (s'.cache.entry url).clients.Nodup)
    (hclients : ∀ client ∈ (s'.cache.entry url).clients, under (client, url))
    (hanswered : ∀ owner line, s'.cache.entry url ≠ .fetching owner none line) :
    s'.IsHeld under := by
  refine ⟨fun other => ?_, fun other => ?_, fun other => ?_⟩
  · by_cases hurl : other = url
    · exact hurl ▸ hnodup
    · rw [hothers other hurl]
      exact h.nodup other
  · by_cases hurl : other = url
    · exact hurl ▸ hclients
    · rw [hothers other hurl]
      exact h.clients other
  · by_cases hurl : other = url
    · exact hurl ▸ hanswered
    · rw [hothers other hurl]
      exact h.answered other

/-- One more client stands in line. -/
theorem clients_join {owner : Client} {line : List Client} (howner : owner ≠ client)
    (h : (owner :: line).Nodup) :
    (owner :: if line.contains client then line else line ++ [client]).Nodup ∧
      ∀ other ∈ owner :: if line.contains client then line else line ++ [client],
        other ∈ owner :: line ∨ other = client := by
  split
  · exact ⟨h, fun other hother => .inl hother⟩
  · rename_i hnew
    have hnew : client ∉ line := by simpa using hnew
    rw [List.nodup_cons] at h
    constructor
    · rw [List.nodup_cons, ← List.concat_eq_append]
      refine ⟨?_, h.2.concat hnew⟩
      simpa using ⟨h.1, howner⟩
    · intro other hother
      simpa [or_assoc] using hother

/-- A poll of a load under way. -/
theorem IsHeld.polled (h : s.IsHeld under)
    (hpolled : s.Polled (outcomes.after delays) client url s') (hunder : under (client, url)) :
    s'.IsHeld under := by
  have hothers : ∀ other, other ≠ url → s'.cache.entry other = s.cache.entry other :=
    fun other hother => hpolled.entry_of_ne hother
  have hsettled : ∀ outcome, s'.cache.entry url = .settled outcome → s'.IsHeld under := by
    intro outcome hentry
    refine h.of_entry hothers ?_ ?_ ?_ <;> rw [hentry]
    · exact List.nodup_nil
    · exact fun _ hclient => (List.not_mem_nil hclient).elim
    · intro _ _ hsame
      cases hsame
  have hnodup := h.nodup url
  have hclients := h.clients url
  cases hpolled with
  | settled outcome _ heq => exact heq ▸ h
  | waiting due line _ _ heq => exact heq ▸ h
  | deferred line _ _ _ heq =>
      refine h.of_entry hothers ?_ ?_ ?_ <;> rw [heq, Cache.entry_set_entry]
      · exact hnodup
      · exact hclients
      · exact h.answered url
  | joined owner line howner hentry heq =>
      have hjoined : s'.cache.entry url = (s.cache.entry url).join client := by
        rw [heq, join, Cache.entry_set_self]
      have hbefore : (s.cache.entry url).clients = owner :: line := by
        rcases hentry with hentry | ⟨due, hentry⟩ <;> rw [hentry] <;> rfl
      have hafter : ((s.cache.entry url).join client).clients =
          owner :: if line.contains client then line else line ++ [client] := by
        rcases hentry with hentry | ⟨due, hentry⟩ <;> rw [hentry] <;> rfl
      rw [hbefore] at hnodup hclients
      obtain ⟨hnodup', hclients'⟩ := clients_join howner hnodup
      refine h.of_entry hothers ?_ ?_ ?_ <;> rw [hjoined]
      · rw [hafter]
        exact hnodup'
      · rw [hafter]
        intro other hother
        rcases hclients' other hother with hother | rfl
        · exact hclients other hother
        · exact hunder
      · -- A fetch that is joined is due when it was due before.
        intro _ _ hsame
        rcases hentry with hentry | ⟨due, hentry⟩ <;> rw [hentry] at hsame <;> cases hsame
        exact h.answered url owner line hentry
  | answered rounds answer round line _ _ _ heq =>
      exact hsettled _ (by rw [heq, cache_settle, Cache.entry_settle_self])
  | issued line paid hfree hpaid _ heq =>
      have hentry' : s'.cache.entry url =
          .fetching client (some (paid.now + delays url)) line := by
        rw [heq, entry_opened, if_pos rfl]
        rfl
      -- The caller takes over an idle URL, without a line, or keeps the line of its reservation.
      refine h.of_entry hothers ?_ ?_ ?_ <;> rw [hentry']
      · rcases hfree with ⟨_, rfl⟩ | hentry
        · exact List.nodup_singleton client
        · rw [hentry] at hnodup
          exact hnodup
      · rcases hfree with ⟨_, rfl⟩ | hentry
        · intro other hother
          exact List.mem_singleton.mp hother ▸ hunder
        · rw [hentry] at hclients
          exact hclients
      · intro _ _ hsame
        cases hsame
  | issuedAnswered line paid answer _ hpaid _ heq =>
      exact hsettled _ (by rw [heq, entry_opened_settle hpaid, if_pos rfl])

/-- The entry of a URL after one load is given up. -/
theorem entry_release_one (s : Session) (client : Client) (url other : String) :
    (s.release [(client, url)]).cache.entry other =
      if other = url then (s.cache.entry url).release client else s.cache.entry other :=
  Cache.entry_release s.cache client url other

/-- Loads are given up one after the other. -/
theorem release_cons (s : Session) (load : Client × String) (loads : List (Client × String)) :
    s.release (load :: loads) = (s.release [load]).release loads := rfl

/-- A load that is given up is no longer under way. -/
theorem IsHeld.release_one (h : s.IsHeld under) (client : Client) (url : String) :
    (s.release [(client, url)]).IsHeld fun load => under load ∧ load ≠ (client, url) := by
  have hentry := entry_release_one s client url
  refine ⟨fun other => ?_, fun other caller hcaller => ?_, fun other owner line => ?_⟩
  · rw [hentry]
    split
    · rw [Entry.clients_release]
      exact (h.nodup url).erase client
    · exact h.nodup other
  · rw [hentry] at hcaller
    split at hcaller
    · rename_i hurl
      rw [Entry.clients_release, (h.nodup url).mem_erase_iff] at hcaller
      rw [hurl]
      refine ⟨h.clients url caller hcaller.2, fun heq => hcaller.1 ?_⟩
      exact congrArg Prod.fst heq
    · rename_i hurl
      refine ⟨h.clients other caller hcaller, fun heq => hurl ?_⟩
      exact congrArg Prod.snd heq
  · rw [hentry]
    split
    · intro hfetching
      obtain ⟨line', hbefore⟩ := Entry.fetching_of_release hfetching
      exact h.answered url owner line' hbefore
    · exact h.answered other owner line

/-- Loads that are given up are no longer under way. -/
theorem IsHeld.release (h : s.IsHeld under) (loads : List (Client × String)) :
    (s.release loads).IsHeld fun load => under load ∧ load ∉ loads := by
  induction loads generalizing s under with
  | nil => exact h.mono fun load hload => ⟨hload, List.not_mem_nil⟩
  | cons first loads ih =>
      rw [release_cons]
      refine (ih (h.release_one first.1 first.2)).mono fun load hload => ?_
      rw [List.mem_cons, not_or]
      exact ⟨hload.1.1, hload.1.2, hload.2⟩

/-- Giving up loads takes no step of others away. -/
theorem steps_of_release {load : Client × String} (hload : load ∉ loads) :
    (s.release loads).stepsOf load = s.stepsOf load := by
  induction loads generalizing s with
  | nil => rfl
  | cons first loads ih =>
      obtain ⟨client, url⟩ := first
      rw [List.mem_cons, not_or] at hload
      rw [release_cons, ih hload.2]
      unfold stepsOf
      rw [entry_release_one]
      split
      · rename_i hurl
        rw [hurl]
        refine Entry.steps_of_release _ fun hclient => hload.1 ?_
        exact Prod.ext hclient hurl
      · rfl

/-! ## Passes -/

/-- The effort does not grow in a pass. -/
theorem Narrows.effort_le (h : Narrows s loads s' rest) : s'.effort rest ≤ s.effort loads :=
  effort_le_of_sublist h.sublist fun load hload => h.steps load fun _ => hload

/-- Nothing is passed over. -/
theorem Narrows.nil : Narrows s [] s [] :=
  ⟨List.Sublist.refl _, fun _ _ => Nat.le_refl _, fun _ h _ => h.mono fun _ hload => ⟨hload, id⟩,
    fun _ => ⟨fun _ => rfl, rfl, rfl⟩⟩

/-- Nothing is ripe where there is nothing. -/
theorem Progresses.nil : Progresses s [] s [] :=
  .inl ⟨⟨fun _ => rfl, rfl, rfl⟩, rfl, fun _ hload => (List.not_mem_nil hload).elim⟩

/-- All loads that there were are gone. -/
theorem Narrows.progresses (h : Narrows s loads s' []) : Progresses s loads s' [] := by
  by_cases hloads : loads = []
  · subst hloads
    exact .inl ⟨h.rests rfl, rfl, fun _ hload => (List.not_mem_nil hload).elim⟩
  · exact .inr (effort_pos s hloads)

/-- One pass after another. -/
theorem Narrows.trans (h : Narrows s loads s₁ a) (h₁ : Narrows s₁ a s' rest) :
    Narrows s loads s' rest := by
  have hsurvives : ∀ load, Survives loads rest load → Survives loads a load :=
    fun load hload hmem => h₁.sublist.subset (hload hmem)
  refine ⟨h₁.sublist.trans h.sublist, fun load hload => ?_, fun under hheld hunder => ?_,
    fun hnone => ?_⟩
  · refine Nat.le_trans (h₁.steps load fun hmem => ?_) (h.steps load (hsurvives load hload))
    exact hload (h.sublist.subset hmem)
  · refine (h₁.held _ (h.held under hheld hunder) fun load hload => ?_).mono fun load hload => ?_
    · exact ⟨hunder load (h.sublist.subset hload), fun _ => hload⟩
    · exact ⟨hload.1.1, fun hmem => hload.2 (hload.1.2 hmem)⟩
  · exact (h.rests hnone).trans (h₁.rests (List.sublist_nil.mp (hnone ▸ h.sublist)))

/-- A step of one of two passes is a step of both. -/
theorem Progresses.trans (h : Progresses s loads s₁ a) (h₁ : Progresses s₁ a s' rest)
    (hnarrows : Narrows s loads s₁ a) (hnarrows₁ : Narrows s₁ a s' rest) :
    Progresses s loads s' rest := by
  have hle := hnarrows.effort_le
  have hle₁ := hnarrows₁.effort_le
  rcases h with ⟨hrests, rfl, hripe⟩ | hless
  · rcases h₁ with ⟨hrests₁, rfl, _⟩ | hless₁
    · exact .inl ⟨hrests.trans hrests₁, rfl, hripe⟩
    · exact .inr (by omega)
  · exact .inr (by omega)

/-- A load survives two passes over different loads if it survives each. -/
theorem survives_both (load : Client × String) (hdisjoint : ∀ load ∈ a, load ∉ b)
    (ha : a'.Sublist a) (hb : b'.Sublist b) (hc : c.Perm (a ++ b)) (hc' : c'.Perm (a' ++ b')) :
    Survives c c' load ↔ Survives a a' load ∧ Survives b b' load := by
  unfold Survives
  rw [hc.mem_iff, hc'.mem_iff, List.mem_append, List.mem_append]
  constructor
  · intro h
    refine ⟨fun hload => ?_, fun hload => ?_⟩
    · rcases h (.inl hload) with hleft | hright
      · exact hleft
      · exact (hdisjoint load hload (hb.subset hright)).elim
    · rcases h (.inr hload) with hleft | hright
      · exact (hdisjoint load (ha.subset hleft) hload).elim
      · exact hright
  · intro h hload
    rcases hload with hload | hload
    · exact .inl (h.1 hload)
    · exact .inr (h.2 hload)

/-- Passes over different loads, one after the other, are a pass over all of them. -/
theorem Narrows.both (h : Narrows s a s₁ a') (h₁ : Narrows s₁ b s' b')
    (hdisjoint : ∀ load ∈ a, load ∉ b) (hc : c.Perm (a ++ b)) (hc' : c'.Perm (a' ++ b'))
    (hsublist : c'.Sublist c) : Narrows s c s' c' := by
  have hsurvives := fun load => survives_both load hdisjoint h.sublist h₁.sublist hc hc'
  refine ⟨hsublist, fun load hload => ?_, fun under hheld hunder => ?_, fun hnone => ?_⟩
  · obtain ⟨hfirst, hsecond⟩ := (hsurvives load).mp hload
    exact Nat.le_trans (h₁.steps load hsecond) (h.steps load hfirst)
  · refine (h₁.held _ (h.held under hheld fun load hload => ?_) fun load hload => ?_).mono
      fun load hload => ?_
    · exact hunder load (hc.mem_iff.mpr (List.mem_append_left b hload))
    · refine ⟨hunder load (hc.mem_iff.mpr (List.mem_append_right a hload)), fun hmem => ?_⟩
      exact (hdisjoint load hmem hload).elim
    · exact ⟨hload.1.1, (hsurvives load).mpr ⟨hload.1.2, hload.2⟩⟩
  · rw [hnone] at hc
    obtain ⟨ha, hb⟩ := List.append_eq_nil_iff.mp hc.symm.eq_nil
    exact (h.rests ha).trans (h₁.rests hb)

/-- A step of a pass over some of the loads is a step of the pass over all. -/
theorem Progresses.both (h : Progresses s a s₁ a') (h₁ : Progresses s₁ b s' b')
    (hnarrows : Narrows s a s₁ a') (hnarrows₁ : Narrows s₁ b s' b')
    (hdisjoint : ∀ load ∈ a, load ∉ b) (hc : c.Perm (a ++ b)) (hc' : c'.Perm (a' ++ b'))
    (hsublist : c'.Sublist c) : Progresses s c s' c' := by
  have hbefore := effort_perm s hc
  have hafter := effort_perm s' hc'
  rw [effort_append] at hbefore hafter
  have hle := hnarrows.effort_le
  have hle₁ := hnarrows₁.effort_le
  -- The loads of one pass are strangers to the other one.
  have hstill : s'.effort a' ≤ s₁.effort a' := by
    refine effort_le_of_sublist (List.Sublist.refl a') fun load hload => ?_
    refine hnarrows₁.steps load fun hmem => ?_
    exact (hdisjoint load (hnarrows.sublist.subset hload) hmem).elim
  have hstill₁ : s₁.effort b ≤ s.effort b := by
    refine effort_le_of_sublist (List.Sublist.refl b) fun load hload => ?_
    exact hnarrows.steps load fun hmem => (hdisjoint load hmem hload).elim
  rcases h with ⟨hrests, rfl, hripe⟩ | hless
  · rcases h₁ with ⟨hrests₁, rfl, hripe₁⟩ | hless₁
    · left
      refine ⟨hrests.trans hrests₁, hsublist.eq_of_length (hc'.trans hc.symm).length_eq, ?_⟩
      intro load hload
      rcases List.mem_append.mp (hc.mem_iff.mp hload) with hload | hload
      · exact hripe load hload
      · exact fun hrip => hripe₁ load hload (hrests.is_ripe hrip)
    · exact .inr (by omega)
  · exact .inr (by omega)

end Session

end Widgetry
