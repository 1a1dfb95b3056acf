import Widgetry.Proofs.Fetching.Polling

/-!
# Callers of one URL share its fetch

Any number of callers load URLs through one cache, look again, and give up, in any order, while
fetches are answered at any time. A `History` is what an observer of such a run writes down, from
the calls of the transport, from its answers and from what callers receive, without a look into the
cache. A fetch is dated when it is issued, and its answer is noted when the caller in charge looks
from that round on. The main theorem, `fetches_are_coalesced`, says that no URL has two fetches
under way, that a URL whose fetch was answered is never fetched again and gives every caller the one
outcome, and that a URL is fetched at most once more than callers in charge of its fetch gave up.
-/

namespace Widgetry

/-- What can happen: a caller begins a load or looks again, while the transport would answer as it
says; a caller gives up; time passes. -/
inductive Event where
  | poll (transport : Transport) (client : Client) (url : String)
  | abandon (client : Client) (url : String)
  | pass (round : Nat)

/-- A fetch with the caller in charge of it and the round from which its answer is there, if there
is ever one. -/
structure Fetch where
  client : Client
  url : String
  due : Option Nat

/-- The answer that a transport has for a fetch in a round. -/
def Fetch.answer? (transport : Transport) (now : Nat) (fetch : Fetch) :
    Option (Except FetchError Fetched) :=
  match transport fetch.url, fetch.due with
  | .after _ answer, some round => if round ≤ now then some answer else none
  | _, _ => none

/-- The session after a run, the fetches that are neither answered nor dropped, the URLs of the
fetches dropped with their callers, the outcomes of answered fetches, and what callers have
received. -/
structure History where
  session : Session
  outstanding : List Fetch
  dropped : List String
  answered : List (String × Loaded)
  received : List (String × Loaded)

namespace History

/-- The history of a fresh cache. -/
def empty : History :=
  ⟨.empty, [], [], [], []⟩

/-- The fetches of a URL that are under way. -/
def fetches (h : History) (url : String) : List Fetch :=
  h.outstanding.filter fun fetch => fetch.url = url

/-- The callers in charge of fetches of a URL that are under way. -/
def performers (h : History) (url : String) : List Client :=
  (h.fetches url).map Fetch.client

/-- The loads that have succeeded, in the order of their answers, with what they brought. -/
def successes (h : History) : List (String × Resource) :=
  h.answered.reverse.filterMap fun note =>
    note.2.toOption.map fun resource => (note.1, resource)

/-- The fetches that are under way without those of a URL that a caller is in charge of. -/
def without (h : History) (client : Client) (url : String) : List Fetch :=
  h.outstanding.filter fun fetch => !(fetch.client = client && fetch.url = url)

/-- Note a poll: the fetch that the caller issues, if it issues one, and what it receives. -/
def notePoll (h : History) (transport : Transport) (client : Client) (url : String) : History :=
  let (session, outcome) := h.session.poll transport client url
  let issued := (session.calls.drop h.session.calls.length).map fun url =>
    ⟨client, url, (transport url).due h.session.now⟩
  { h with
    session := session
    outstanding := issued ++ h.outstanding
    received := outcome.toList.map (fun outcome => (url, outcome)) ++ h.received }

/-- The answer that the transport has for the fetch of a URL that a caller is in charge of. -/
def answer? (h : History) (transport : Transport) (now : Nat) (client : Client) (url : String) :
    Option (Except FetchError Fetched) :=
  ((h.fetches url).find? fun fetch => fetch.client = client).bind (Fetch.answer? transport now)

/-- Note the answer of a fetch. A resource is numbered by the successes before it. -/
def noteAnswer (h : History) (client : Client) (url : String)
    (answer : Except FetchError Fetched) : History :=
  { h with
    outstanding := h.without client url
    answered := (url, Loaded.ofAnswer h.successes.length url answer) :: h.answered }

/-- Observe a poll. An answer is noted if it is due and the caller is in charge of the fetch. -/
def observePoll (h : History) (transport : Transport) (client : Client) (url : String) :
    History :=
  let next := h.notePoll transport client url
  match next.answer? transport h.session.now client url with
  | some answer => next.noteAnswer client url answer
  | none => next

/-- Observe that a caller gives up. If it is in charge of a fetch, the fetch is dropped. -/
def observeAbandon (h : History) (client : Client) (url : String) : History :=
  { h with
    session := h.session.release [(client, url)]
    outstanding := h.without client url
    dropped := if client ∈ h.performers url then url :: h.dropped else h.dropped }

/-- Observe an event. -/
def observe (h : History) : Event → History
  | .poll transport client url => h.observePoll transport client url
  | .abandon client url => h.observeAbandon client url
  | .pass round => { h with session := h.session.advanceTo round }

/-- Observe events in order. -/
def run (h : History) (events : List Event) : History :=
  events.foldl observe h

/-- Nobody knows of an answer for a URL. -/
def IsUnanswered (h : History) (url : String) : Prop :=
  (∀ outcome, (url, outcome) ∉ h.answered) ∧ ∀ outcome, (url, outcome) ∉ h.received

/-- What a history says of a URL, according to the entry of the URL: before a fetch, during a fetch
and after its answer. -/
def InPhase (h : History) (url : String) : Entry → Prop
  | .idle | .reserved _ _ =>
      h.IsUnanswered url ∧ h.fetches url = [] ∧ h.session.calls.count url = h.dropped.count url
  | .fetching owner due _ =>
      h.IsUnanswered url ∧ h.fetches url = [⟨owner, url, due⟩] ∧
        h.session.calls.count url = h.dropped.count url + 1
  | .settled outcome =>
      (∀ other, (url, other) ∈ h.answered ↔ other = outcome) ∧
        (∀ other, (url, other) ∈ h.received → other = outcome) ∧
        h.fetches url = [] ∧ h.session.calls.count url = h.dropped.count url + 1

/-- Every URL is in the phase that its entry tells, and the resources of the cache are those of the
successes in their order. -/
structure IsConsistent (h : History) : Prop where
  phase : ∀ url, h.InPhase url (h.session.cache.entry url)
  resources : h.session.cache.resources = h.successes.map Prod.snd

variable {h h' : History} {url other : String} {client : Client} {transport : Transport} {now : Nat}

/-! ## What an observer sees -/

/-- A fetch that takes a round is not answered in the round in which it is issued. -/
theorem answer?_of_later (hlater : ∀ answer, transport url ≠ .after 0 answer) :
    Fetch.answer? transport now ⟨client, url, (transport url).due now⟩ = none := by
  unfold Fetch.answer?
  cases htransport : transport url with
  | never => rfl
  | after rounds answer =>
      cases rounds with
      | zero => exact absurd htransport (hlater answer)
      | succ rounds => simp [Delivery.due]

/-- Fetches of other URLs go on. -/
theorem filter_without_of_ne (hne : other ≠ url) :
    (h.without client url).filter (fun fetch => fetch.url = other) = h.fetches other := by
  unfold without fetches
  rw [List.filter_filter]
  refine List.filter_congr fun fetch _ => ?_
  by_cases hfetch : fetch.url = other <;> simp [hfetch, hne]

/-- Fetches of the same URL go on if others are in charge of them. -/
theorem filter_without_self :
    (h.without client url).filter (fun fetch => fetch.url = url) =
      (h.fetches url).filter fun fetch => fetch.client ≠ client := by
  unfold without fetches
  rw [List.filter_filter, List.filter_filter]
  refine List.filter_congr fun fetch _ => ?_
  by_cases hfetch : fetch.url = url <;> simp [hfetch]

/-- Without a fetch there is no answer. -/
theorem answer?_of_nil (hfetches : h.fetches url = []) :
    h.answer? transport now client url = none := by
  rw [answer?, hfetches]
  rfl

/-- The only fetch of a URL is answered to the caller in charge of it. -/
theorem answer?_of_single {owner : Client} {due : Option Nat}
    (hfetches : h.fetches url = [⟨owner, url, due⟩]) :
    h.answer? transport now client url =
      if owner = client then Fetch.answer? transport now ⟨owner, url, due⟩ else none := by
  rw [answer?, hfetches]
  by_cases howner : owner = client <;> simp [howner]

/-- A poll that issues no fetch leaves the fetches as they are. -/
theorem fetches_note_poll (hcalls : (h.session.poll transport client url).1.calls =
    h.session.calls) : (h.notePoll transport client url).fetches other = h.fetches other := by
  simp [notePoll, fetches, hcalls]

/-- A poll that issues a fetch adds it to those of its URL. -/
theorem fetches_note_poll_issued (hcalls : (h.session.poll transport client url).1.calls =
    h.session.calls ++ [url]) : (h.notePoll transport client url).fetches other =
      if url = other then ⟨client, url, (transport url).due h.session.now⟩ :: h.fetches other
      else h.fetches other := by
  unfold notePoll fetches
  dsimp only
  rw [hcalls, List.drop_left, List.map_singleton, List.singleton_append, List.filter_cons]
  by_cases hurl : url = other <;> simp [hurl]

/-- The caller that issues a fetch is the only one in charge of it, if nobody else was. -/
theorem fetches_of_issued (hcalls : (h.session.poll transport client url).1.calls =
    h.session.calls ++ [url]) (hfetches : h.fetches url = []) :
    (h.notePoll transport client url).fetches url =
      [⟨client, url, (transport url).due h.session.now⟩] := by
  rw [fetches_note_poll_issued hcalls, if_pos rfl, hfetches]

/-- What callers have received after a poll. -/
theorem received_note_poll : (h.notePoll transport client url).received =
    ((h.session.poll transport client url).1.cache.outcome? url).toList.map
      (fun outcome => (url, outcome)) ++ h.received := rfl

/-- The session after an event that is observed as a poll. -/
theorem session_observe_poll : (h.observePoll transport client url).session =
    (h.session.poll transport client url).1 := by
  unfold observePoll
  dsimp only
  split <;> rfl

/-- A load has succeeded if its answer was noted with a resource. -/
theorem mem_successes {resource : Resource} :
    (url, resource) ∈ h.successes ↔ (url, .ok resource) ∈ h.answered := by
  unfold successes
  rw [List.mem_filterMap]
  constructor
  · intro hmem
    obtain ⟨⟨place, outcome⟩, hnote, heq⟩ := hmem
    obtain ⟨found, hfound, hpair⟩ := Option.map_eq_some_iff.mp heq
    cases hpair
    cases outcome with
    | error e => cases hfound
    | ok other =>
        cases hfound
        exact List.mem_reverse.mp hnote
  · intro hmem
    exact ⟨(url, .ok resource), List.mem_reverse.mpr hmem, rfl⟩

/-- An answer adds a success if it is good. -/
theorem successes_of_answered {outcome : Loaded}
    (hanswered : h'.answered = (url, outcome) :: h.answered) :
    h'.successes = h.successes ++
      (outcome.toOption.map fun resource => (url, resource)).toList := by
  unfold successes
  rw [hanswered, List.reverse_cons, List.filterMap_append]
  cases outcome <;> rfl

/-- The observer judges an answer as the cache does, since it counts the same resources. -/
theorem IsConsistent.of_answer (hconsistent : h.IsConsistent) (url : String)
    (answer : Except FetchError Fetched) :
    Loaded.ofAnswer h.successes.length url answer = h.session.cache.judge url answer := by
  have hlength : h.session.cache.resources.length = h.successes.length := by
    rw [hconsistent.resources, List.length_map]
  rw [← hlength]
  rfl

/-- A URL stays in its phase if an event changes nothing that is observed of it. -/
theorem in_phase_of_same {entry : Entry} (hphase : h.InPhase url entry)
    (hfetches : h'.fetches url = h.fetches url)
    (hcalls : h'.session.calls.count url = h.session.calls.count url)
    (hdropped : h'.dropped.count url = h.dropped.count url)
    (hanswered : ∀ outcome, (url, outcome) ∈ h'.answered ↔ (url, outcome) ∈ h.answered)
    (hreceived : ∀ outcome, (url, outcome) ∈ h'.received ↔ (url, outcome) ∈ h.received) :
    h'.InPhase url entry := by
  cases entry <;>
    simpa only [InPhase, IsUnanswered, hfetches, hcalls, hdropped, hanswered, hreceived]
      using hphase

/-! ## Every event keeps the phases -/

/-- A URL that a client may fetch has no fetch under way and no answer. -/
theorem in_phase_of_free {line : List Client} (hphase : h.InPhase url (h.session.cache.entry url))
    (hfree : h.session.IsFree client url line) :
    h.IsUnanswered url ∧ h.fetches url = [] ∧
      h.session.calls.count url = h.dropped.count url := by
  rcases hfree with ⟨hentry, _⟩ | hentry <;>
  · rw [hentry] at hphase
    exact hphase

/-- Phases do not depend on who waits in line. -/
theorem in_phase_join {entry : Entry} (hphase : h.InPhase url entry) :
    h.InPhase url (entry.join client) := by
  cases entry <;> exact hphase

/-- A poll leaves other URLs in their phases. -/
theorem in_phase_observe_poll_of_ne {entry : Entry} (hne : other ≠ url)
    (hphase : h.InPhase other entry) :
    (h.observePoll transport client url).InPhase other entry := by
  have hcalls := (Session.poll_polled transport client url h.session).calls_eq
  have hnoted : (h.notePoll transport client url).InPhase other entry := by
    refine in_phase_of_same hphase ?_ ?_ rfl (fun _ => Iff.rfl) ?_
    · rcases hcalls with hcalls | ⟨hcalls, _⟩
      · exact fetches_note_poll hcalls
      · rw [fetches_note_poll_issued hcalls, if_neg (Ne.symm hne)]
    · show (h.session.poll transport client url).1.calls.count other = _
      rcases hcalls with hcalls | ⟨hcalls, _⟩
      · rw [hcalls]
      · rw [hcalls, List.count_append, List.count_singleton, if_neg (by simpa using Ne.symm hne),
          Nat.add_zero]
    · simp [received_note_poll, Ne.symm hne]
  unfold observePoll
  dsimp only
  split
  · refine in_phase_of_same hnoted (filter_without_of_ne hne) rfl rfl ?_ fun _ => Iff.rfl
    simp [noteAnswer, hne]
  · exact hnoted

/-- A poll keeps a history consistent if its own URL is in phase and the resources are those of the
successes. -/
theorem is_consistent_of_phase (hconsistent : h.IsConsistent)
    (hphase : (h.observePoll transport client url).InPhase url
      ((h.session.poll transport client url).1.cache.entry url))
    (hresources : (h.session.poll transport client url).1.cache.resources =
      (h.observePoll transport client url).successes.map Prod.snd) :
    (h.observePoll transport client url).IsConsistent := by
  refine ⟨fun other => ?_, ?_⟩
  · rw [session_observe_poll]
    by_cases hurl : other = url
    · subst hurl
      exact hphase
    · rw [(Session.poll_polled transport client url h.session).entry_of_ne hurl]
      exact in_phase_observe_poll_of_ne hurl (hconsistent.phase other)
  · rwa [session_observe_poll]

/-- A poll without an answer keeps a history consistent, if it keeps the phase of its URL. -/
theorem is_consistent_unanswered (hconsistent : h.IsConsistent)
    (hanswer : (h.notePoll transport client url).answer? transport h.session.now client url = none)
    (hresources : (h.session.poll transport client url).1.cache.resources =
      h.session.cache.resources)
    (hphase : (h.notePoll transport client url).InPhase url
      ((h.session.poll transport client url).1.cache.entry url)) :
    (h.observePoll transport client url).IsConsistent := by
  have hobserve : h.observePoll transport client url = h.notePoll transport client url := by
    unfold observePoll
    dsimp only
    rw [hanswer]
  refine is_consistent_of_phase hconsistent ?_ ?_
  · rwa [hobserve]
  · rw [hobserve]
    exact hresources.trans hconsistent.resources

/-- A poll with the answer of a fetch keeps a history consistent, if the caller is the only one in
charge of a fetch of the URL, be it one that it has just issued. -/
theorem is_consistent_answered {due : Option Nat} (answer : Except FetchError Fetched)
    (hconsistent : h.IsConsistent) (hunanswered : h.IsUnanswered url)
    (hfetches : (h.notePoll transport client url).fetches url = [⟨client, url, due⟩])
    (hanswer : Fetch.answer? transport h.session.now ⟨client, url, due⟩ = some answer)
    (hresources : (h.session.poll transport client url).1.cache.resources =
      h.session.cache.resources ++ (h.session.cache.judge url answer).toOption.toList)
    (hentry : (h.session.poll transport client url).1.cache.entry url =
      .settled (h.session.cache.judge url answer))
    (hcount : (h.session.poll transport client url).1.calls.count url =
      h.dropped.count url + 1) :
    (h.observePoll transport client url).IsConsistent := by
  have hobserve : h.observePoll transport client url =
      (h.notePoll transport client url).noteAnswer client url answer := by
    unfold observePoll
    dsimp only
    rw [answer?_of_single hfetches, if_pos rfl, hanswer]
  have hanswered : (h.observePoll transport client url).answered =
      (url, h.session.cache.judge url answer) :: h.answered := by
    rw [hobserve, ← hconsistent.of_answer]
    rfl
  refine is_consistent_of_phase hconsistent ?_ ?_
  · rw [hentry]
    refine ⟨fun found => ?_, fun found hfound => ?_, ?_, ?_⟩
    · simp [hanswered, hunanswered.1]
    · rw [hobserve] at hfound
      change (url, found) ∈ (h.notePoll transport client url).received at hfound
      rw [received_note_poll, Cache.outcome?_eq_some.mpr hentry] at hfound
      simpa [hunanswered.2] using hfound
    · rw [hobserve]
      show ((h.notePoll transport client url).without client url).filter _ = []
      rw [filter_without_self, hfetches]
      simp
    · rw [session_observe_poll, hcount, hobserve]
      rfl
  · rw [hresources, successes_of_answered hanswered, List.map_append, hconsistent.resources]
    cases h.session.cache.judge url answer <;> rfl

/-- A poll that brings nothing and issues no fetch keeps a history consistent. -/
theorem is_consistent_quiet (hconsistent : h.IsConsistent)
    (hanswer : h.answer? transport h.session.now client url = none)
    (hcalls : (h.session.poll transport client url).1.calls = h.session.calls)
    (hresources : (h.session.poll transport client url).1.cache.resources =
      h.session.cache.resources)
    (hnone : (h.session.poll transport client url).1.cache.outcome? url = none)
    (hphase : h.InPhase url ((h.session.poll transport client url).1.cache.entry url)) :
    (h.observePoll transport client url).IsConsistent := by
  refine is_consistent_unanswered hconsistent ?_ hresources ?_
  · unfold answer? at hanswer ⊢
    rwa [fetches_note_poll hcalls]
  · refine in_phase_of_same hphase (fetches_note_poll hcalls) (congrArg _ hcalls) rfl
      (fun _ => Iff.rfl) fun outcome => ?_
    rw [received_note_poll, hnone]
    exact Iff.rfl

/-- A poll of a settled URL brings the one outcome. -/
theorem is_consistent_settled {outcome : Loaded} (hconsistent : h.IsConsistent)
    (hentry : h.session.cache.entry url = .settled outcome)
    (hsession : (h.session.poll transport client url).1 = h.session) :
    (h.observePoll transport client url).IsConsistent := by
  have hphase := hconsistent.phase url
  rw [hentry] at hphase
  obtain ⟨hanswered, hreceived, hfetches, hcount⟩ := hphase
  have hfetches := (fetches_note_poll (congrArg _ hsession)).trans hfetches
  refine is_consistent_unanswered hconsistent (answer?_of_nil hfetches) (by rw [hsession]) ?_
  rw [hsession, hentry]
  refine ⟨hanswered, fun found hfound => ?_, hfetches, ?_⟩
  · rw [received_note_poll, hsession, Cache.outcome?_eq_some.mpr hentry] at hfound
    rcases List.mem_cons.mp hfound with heq | hfound
    · cases heq
      rfl
    · exact hreceived found hfound
  · exact (congrArg (fun s : Session => s.calls.count url) hsession).trans hcount

/-- A poll that issues a fetch puts the caller in charge of it, if nobody else is. -/
theorem is_consistent_issued {line : List Client} (hconsistent : h.IsConsistent)
    (hfree : h.session.IsFree client url line)
    (hlater : ∀ answer, transport url ≠ .after 0 answer)
    (hcalls : (h.session.poll transport client url).1.calls = h.session.calls ++ [url])
    (hresources : (h.session.poll transport client url).1.cache.resources =
      h.session.cache.resources)
    (hentry : (h.session.poll transport client url).1.cache.entry url =
      .fetching client ((transport url).due h.session.now) line) :
    (h.observePoll transport client url).IsConsistent := by
  obtain ⟨hunanswered, hfetches, hcount⟩ := in_phase_of_free (hconsistent.phase url) hfree
  have hissued := fetches_of_issued hcalls hfetches
  refine is_consistent_unanswered hconsistent ?_ hresources ?_
  · rw [answer?_of_single hissued, if_pos rfl]
    exact answer?_of_later hlater
  · rw [hentry]
    refine ⟨⟨hunanswered.1, ?_⟩, hissued, ?_⟩
    · rw [received_note_poll, Cache.outcome?, hentry]
      exact hunanswered.2
    · show (h.session.poll transport client url).1.calls.count url = h.dropped.count url + 1
      rw [hcalls, List.count_append, List.count_singleton_self, hcount]

/-- A poll keeps a history consistent. -/
theorem is_consistent_poll (hconsistent : h.IsConsistent) (transport : Transport)
    (client : Client) (url : String) :
    (h.observePoll transport client url).IsConsistent := by
  obtain ⟨session, hsession⟩ : ∃ session, (h.session.poll transport client url).1 = session :=
    ⟨_, rfl⟩
  have hpolled := Session.poll_polled transport client url h.session
  rw [hsession] at hpolled
  have hphase := hconsistent.phase url
  cases hpolled with
  | settled outcome hentry heq =>
      exact is_consistent_settled hconsistent hentry (hsession.trans heq)
  | deferred line hfree _ _ heq =>
      have hentry : session.cache.entry url = h.session.cache.entry url := by simp [heq]
      refine is_consistent_quiet hconsistent
        (answer?_of_nil (in_phase_of_free hphase hfree).2.1) ?_ ?_ ?_ ?_
      · rw [hsession, heq]
      · rw [hsession, heq, Cache.resources_set]
      · rw [hsession, Cache.outcome?, hentry]
        exact Session.outcome?_of_free hfree
      · rwa [hsession, hentry]
  | joined owner line howner hentry heq =>
      have hjoined : session.cache.entry url = (h.session.cache.entry url).join client := by
        simp [heq, Session.join]
      refine is_consistent_quiet hconsistent ?_ ?_ ?_ ?_ ?_
      · rcases hentry with hentry | ⟨due, hentry⟩ <;> rw [hentry] at hphase
        · exact answer?_of_nil hphase.2.1
        · rw [answer?_of_single hphase.2.1, if_neg howner]
      · rw [hsession, heq, Session.join]
      · rw [hsession, heq, Session.join, Cache.resources_set]
      · rw [hsession, Cache.outcome?, hjoined]
        rcases hentry with hentry | ⟨due, hentry⟩ <;> simp [hentry, Entry.join]
      · rw [hsession, hjoined]
        exact in_phase_join hphase
  | waiting due line hentry hlater heq =>
      rw [heq] at hsession
      refine is_consistent_quiet hconsistent ?_ (by rw [hsession]) (by rw [hsession]) ?_ ?_
      · rw [hentry] at hphase
        rw [answer?_of_single hphase.2.1, if_pos rfl]
        unfold Fetch.answer?
        split
        · rename_i rounds answer round htransport hdue
          rw [if_neg (Nat.not_le.mpr (hlater rounds answer round htransport hdue))]
        · rfl
      · rw [hsession, Cache.outcome?, hentry]
      · rwa [hsession]
  | answered rounds answer round line hentry htransport hdue heq =>
      rw [hentry] at hphase
      obtain ⟨hunanswered, hfetches, hcount⟩ := hphase
      have hcalls : (h.session.poll transport client url).1.calls = h.session.calls := by
        rw [hsession, heq, Session.calls_settle]
      refine is_consistent_answered answer hconsistent hunanswered
        ((fetches_note_poll hcalls).trans hfetches) ?_ ?_ ?_ ?_
      · simp [Fetch.answer?, htransport, hdue]
      · rw [hsession, heq, Session.cache_settle, Cache.resources_settle]
      · rw [hsession, heq, Session.cache_settle, Cache.entry_settle_self]
      · rw [hcalls, hcount]
  | issued line paid hfree hpaid hlater heq =>
      obtain ⟨_, hcalls, hnow⟩ := Session.paid_eq hpaid
      refine is_consistent_issued hconsistent hfree hlater ?_ ?_ ?_
      · rw [hsession, heq, Session.calls_opened, hcalls]
      · rw [hsession, heq, Session.resources_opened hpaid]
      · rw [hsession, heq, Session.entry_opened, if_pos rfl, hnow]
  | issuedAnswered line paid answer hfree hpaid htransport heq =>
      -- Issued and answered in one poll: the caller performs the fetch for that moment only.
      obtain ⟨hunanswered, hfetches, hcount⟩ := in_phase_of_free hphase hfree
      have hcalls : (h.session.poll transport client url).1.calls = h.session.calls ++ [url] := by
        rw [hsession, heq, Session.calls_settle, Session.calls_opened, (Session.paid_eq hpaid).2.1]
      refine is_consistent_answered answer hconsistent hunanswered
        (fetches_of_issued hcalls hfetches) ?_ ?_ ?_ ?_
      · simp [Fetch.answer?, htransport, Delivery.due]
      · rw [hsession, heq, Session.cache_settle, Cache.resources_settle,
          Cache.judge_congr (Session.resources_opened hpaid line), Session.resources_opened hpaid]
      · rw [hsession, heq, Session.entry_opened_settle hpaid, if_pos rfl]
      · rw [hcalls, List.count_append, List.count_singleton_self, hcount]

/-- A caller that gives up a URL that it is not in charge of changes at most the line. -/
theorem in_phase_abandon {entry : Entry} (hclient : client ∉ h.performers url)
    (hphase : h.InPhase url entry) : (h.observeAbandon client url).InPhase url entry := by
  refine in_phase_of_same hphase ?_ rfl ?_ (fun _ => Iff.rfl) fun _ => Iff.rfl
  · refine filter_without_self.trans (List.filter_eq_self.mpr fun fetch hfetch => ?_)
    have hne : fetch.client ≠ client := by
      rintro rfl
      exact hclient (List.mem_map_of_mem hfetch)
    simpa using hne
  · simp [observeAbandon, hclient]

/-- A caller that gives up leaves its URL in the phase that the entry then tells. A fetch that it
was in charge of is counted as dropped. -/
theorem in_phase_abandon_release (hphase : h.InPhase url (h.session.cache.entry url)) :
    (h.observeAbandon client url).InPhase url ((h.session.cache.entry url).release client) := by
  cases hcase : h.session.cache.entry url with
  | idle =>
      rw [hcase] at hphase
      exact in_phase_abandon (by simp [performers, hphase.2.1]) hphase
  | settled outcome =>
      rw [hcase] at hphase
      exact in_phase_abandon (by simp [performers, hphase.2.2.1]) hphase
  | reserved owner line =>
      rw [hcase] at hphase
      refine in_phase_abandon (by simp [performers, hphase.2.1]) ?_
      by_cases howner : owner = client
      · rw [Entry.release, if_pos howner]
        cases line <;> exact hphase
      · rw [Entry.release, if_neg howner]
        exact hphase
  | fetching owner due line =>
      rw [hcase] at hphase
      obtain ⟨hunanswered, hfetches, hcount⟩ := hphase
      by_cases howner : owner = client
      · subst howner
        have hdropped : (h.observeAbandon owner url).InPhase url .idle := by
          refine ⟨hunanswered, ?_, ?_⟩
          · refine filter_without_self.trans ?_
            simp [hfetches]
          · show h.session.calls.count url = List.count url (if _ then _ else _)
            rw [if_pos (by simp [performers, hfetches]), List.count_cons_self, hcount]
        rw [Entry.release, if_pos rfl]
        -- A client that takes over has issued no fetch yet: its phase is that of an idle URL.
        cases line <;> exact hdropped
      · rw [Entry.release, if_neg howner]
        exact in_phase_abandon (by simp [performers, hfetches, Ne.symm howner])
          ⟨hunanswered, hfetches, hcount⟩

/-- A caller that gives up keeps a history consistent. -/
theorem is_consistent_abandon (hconsistent : h.IsConsistent) (client : Client) (url : String) :
    (h.observeAbandon client url).IsConsistent := by
  refine ⟨fun other => ?_, ?_⟩
  · have hentry : (h.observeAbandon client url).session.cache.entry other =
        if other = url then (h.session.cache.entry url).release client
        else h.session.cache.entry other := Cache.entry_release h.session.cache client url other
    rw [hentry]
    by_cases hurl : other = url
    · subst hurl
      rw [if_pos rfl]
      exact in_phase_abandon_release (hconsistent.phase other)
    · rw [if_neg hurl]
      refine in_phase_of_same (hconsistent.phase other) (filter_without_of_ne hurl) rfl ?_
        (fun _ => Iff.rfl) fun _ => Iff.rfl
      show List.count other (if _ then _ else _) = _
      split
      · rw [List.count_cons_of_ne (Ne.symm hurl)]
      · rfl
  · exact (Cache.resources_release _ _ _).trans hconsistent.resources

/-- Every event keeps a history consistent. -/
theorem is_consistent_observe (hconsistent : h.IsConsistent) (event : Event) :
    (h.observe event).IsConsistent := by
  cases event with
  | poll transport client url => exact is_consistent_poll hconsistent transport client url
  | abandon client url => exact is_consistent_abandon hconsistent client url
  | pass round =>
      refine ⟨fun url => ?_, hconsistent.resources⟩
      exact in_phase_of_same (hconsistent.phase url) rfl rfl rfl (fun _ => Iff.rfl) fun _ => Iff.rfl

/-- Every run keeps a history consistent. -/
theorem is_consistent_run (hconsistent : h.IsConsistent) (events : List Event) :
    (h.run events).IsConsistent := by
  induction events generalizing h with
  | nil => exact hconsistent
  | cons event events ih => exact ih (is_consistent_observe hconsistent event)

/-- Nothing was observed of a fresh cache. -/
theorem is_consistent_empty : History.empty.IsConsistent :=
  ⟨fun _ => ⟨⟨fun _ => List.not_mem_nil, fun _ => List.not_mem_nil⟩, rfl, rfl⟩, rfl⟩

/-! ## Settled URLs -/

/-- An event leaves a settled URL settled, and issues no fetch of it. -/
theorem settled_observe {outcome : Loaded} (hsettled : h.session.cache.entry url = .settled outcome)
    (event : Event) :
    (h.observe event).session.cache.entry url = .settled outcome ∧
      (h.observe event).session.calls.count url = h.session.calls.count url := by
  cases event with
  | poll transport client place =>
      have hpolled := Session.poll_polled transport client place h.session
      rw [observe, session_observe_poll]
      refine ⟨hpolled.settled_stays hsettled, ?_⟩
      rcases hpolled.calls_eq with hcalls | ⟨hcalls, line, hfree⟩
      · rw [hcalls]
      · have hne : place ≠ url := by
          rintro rfl
          exact Session.not_settled_of_free hfree outcome hsettled
        rw [hcalls, List.count_append, List.count_singleton, if_neg (by simpa using hne),
          Nat.add_zero]
  | abandon client place => exact ⟨Session.settled_release hsettled, rfl⟩
  | pass round => exact ⟨hsettled, rfl⟩

/-- A settled URL stays settled for good, and is never fetched again. -/
theorem settled_run {outcome : Loaded} (hsettled : h.session.cache.entry url = .settled outcome)
    (events : List Event) :
    (h.run events).session.cache.entry url = .settled outcome ∧
      (h.run events).session.calls.count url = h.session.calls.count url := by
  induction events generalizing h with
  | nil => exact ⟨hsettled, rfl⟩
  | cons event events ih =>
      obtain ⟨hentry, hcalls⟩ := settled_observe hsettled event
      obtain ⟨hlater, hcount⟩ := ih hentry
      exact ⟨hlater, hcount.trans hcalls⟩

/-- A URL with an answered fetch is settled. -/
theorem settled_of_answered {outcome : Loaded} (hconsistent : h.IsConsistent)
    (hanswered : (url, outcome) ∈ h.answered) :
    h.session.cache.entry url = .settled outcome := by
  have hphase := hconsistent.phase url
  cases hentry : h.session.cache.entry url with
  | settled found =>
      rw [hentry] at hphase
      rw [(hphase.1 outcome).mp hanswered]
  | idle | reserved owner line | fetching owner due line =>
      rw [hentry] at hphase
      exact (hphase.1.1 outcome hanswered).elim

/-- A URL with nobody in charge of a fetch, or one caller, has at most one fetch under way, and was
fetched at most once more than it was dropped. -/
theorem fetches_le {entry : Entry} (hphase : h.InPhase url entry) :
    (h.performers url).length ≤ 1 ∧
      h.session.calls.count url ≤ 1 + h.dropped.count url := by
  cases entry with
  | idle | reserved owner line =>
      obtain ⟨_, hfetches, hcalls⟩ := hphase
      rw [performers, hfetches, hcalls]
      exact ⟨Nat.zero_le 1, Nat.le_add_left _ 1⟩
  | fetching owner due line =>
      obtain ⟨_, hfetches, hcalls⟩ := hphase
      rw [performers, hfetches, hcalls]
      exact ⟨Nat.le_refl 1, by omega⟩
  | settled outcome =>
      obtain ⟨_, _, hfetches, hcalls⟩ := hphase
      rw [performers, hfetches, hcalls]
      exact ⟨Nat.zero_le 1, by omega⟩

/-- **Callers share fetches.** After any run on a fresh cache, at most one fetch of a URL is under
way, and the URL was fetched at most once more than callers in charge of its fetch gave up. Once a
fetch of the URL is answered, it is not fetched again whatever happens, and all who have received
something for the URL, or will, receive the outcome of that answer. -/
theorem fetches_are_coalesced (events : List Event) (url : String) :
    let h := History.empty.run events
    (h.performers url).length ≤ 1 ∧
      h.session.calls.count url ≤ 1 + h.dropped.count url ∧
      ∀ outcome, (url, outcome) ∈ h.answered → ∀ more : List Event,
        let later := h.run more
        later.session.calls.count url = h.session.calls.count url ∧
          (∀ other, (url, other) ∈ later.received → other = outcome) ∧
          ∀ transport client, (later.session.poll transport client url).2 = some outcome := by
  intro h
  have hconsistent : h.IsConsistent := is_consistent_run is_consistent_empty events
  obtain ⟨hunder_way, hcalls⟩ := fetches_le (hconsistent.phase url)
  refine ⟨hunder_way, hcalls, ?_⟩
  intro outcome hanswered more later
  obtain ⟨hlater, hcount⟩ := settled_run (settled_of_answered hconsistent hanswered) more
  refine ⟨hcount, ?_, ?_⟩
  · have hphase := (is_consistent_run hconsistent more).phase url
    rw [hlater] at hphase
    exact hphase.2.1
  · intro transport client
    rw [Session.poll_outcome, Cache.outcome?_eq_some]
    exact (Session.poll_polled transport client url later.session).settled_stays hlater

-- The first of two callers gives up its fetch, and the second takes over and is answered a round
-- later.
example :
    let transport : Transport := fun _ => .after 1 (.ok ⟨[7], some "image/png"⟩)
    let h := History.empty.run [.poll transport 1 "a", .poll transport 2 "a", .abandon 1 "a",
      .poll transport 2 "a", .pass 1, .poll transport 2 "a"]
    h.session.calls = ["a", "a"] ∧ h.dropped = ["a"] ∧ h.outstanding = [] ∧
      h.answered = [("a", .ok ⟨"a", 0, "image/png", [7]⟩)] :=
  ⟨rfl, rfl, rfl, rfl⟩

end History

end Widgetry
