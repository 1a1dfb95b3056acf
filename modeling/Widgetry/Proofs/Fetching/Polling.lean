import Widgetry.Proofs.Table
import Widgetry.Resource.Session

/-!
# What a poll does

The entries of a cache as a map, and one statement of everything that polling a load can do to a
session: `Session.Polled` has a case for each way in which a poll can end, and `poll_polled` shows
that these are all. Invariants of sessions are proved from it, without a look at the definitions.
-/

namespace Widgetry

namespace Cache

/-- Changing the entry of a URL changes no other. -/
theorem entry_set (cache : Cache) (url : String) (entry : Entry) (other : String) :
    (cache.set url entry).entry other = if other = url then entry else cache.entry other := by
  unfold Cache.entry Cache.set
  rw [Table.get?_insert]
  split <;> rfl

/-- The changed entry of a URL. -/
@[simp] theorem entry_set_self (cache : Cache) (url : String) (entry : Entry) :
    (cache.set url entry).entry url = entry := by
  rw [entry_set, if_pos rfl]

/-- An entry written back leaves all entries as they are. -/
@[simp] theorem entry_set_entry (cache : Cache) (url other : String) :
    (cache.set url (cache.entry url)).entry other = cache.entry other := by
  rw [entry_set]
  split
  · rename_i h
    rw [h]
  · rfl

/-- Changing an entry makes no resource. -/
@[simp] theorem resources_set (cache : Cache) (url : String) (entry : Entry) :
    (cache.set url entry).resources = cache.resources := rfl

/-- Settling a URL changes no other entry. -/
theorem entry_settle (cache : Cache) (url : String) (answer : Except FetchError Fetched)
    (other : String) :
    (cache.settle url answer).entry other =
      if other = url then .settled (cache.judge url answer) else cache.entry other := by
  rw [← entry_set]
  unfold Cache.settle
  cases cache.judge url answer <;> rfl

/-- The entry of a URL that is settled. -/
@[simp] theorem entry_settle_self (cache : Cache) (url : String)
    (answer : Except FetchError Fetched) :
    (cache.settle url answer).entry url = .settled (cache.judge url answer) := by
  rw [entry_settle, if_pos rfl]

/-- A good answer makes one resource, the last, and a bad one makes none. -/
theorem resources_settle (cache : Cache) (url : String) (answer : Except FetchError Fetched) :
    (cache.settle url answer).resources =
      cache.resources ++ (cache.judge url answer).toOption.toList := by
  unfold Cache.settle
  cases cache.judge url answer with
  | error e => simp [Except.toOption]
  | ok resource => simp [Except.toOption]

/-- The judgement of an answer depends on the number of resources alone. -/
theorem judge_congr {cache other : Cache} (h : other.resources = cache.resources) (url : String)
    (answer : Except FetchError Fetched) : other.judge url answer = cache.judge url answer := by
  rw [Cache.judge, Cache.judge, h]

/-- A client that leaves changes the entry of its URL alone. -/
theorem entry_release (cache : Cache) (client : Client) (url other : String) :
    (cache.release client url).entry other =
      if other = url then (cache.entry url).release client else cache.entry other := by
  unfold Cache.release
  split
  · exact entry_set cache url _ other
  · rename_i habsent
    split
    · rename_i heq
      subst heq
      have hidle : cache.entry other = .idle := by
        unfold Cache.contains Table.contains at habsent
        unfold Cache.entry
        cases hget : Table.get? other cache.entries with
        | none => rfl
        | some entry => simp [hget] at habsent
      rw [hidle]
      rfl
    · rfl

/-- A client that leaves makes no resource. -/
@[simp] theorem resources_release (cache : Cache) (client : Client) (url : String) :
    (cache.release client url).resources = cache.resources := by
  unfold Cache.release
  split <;> rfl

/-- The outcome of a URL is that of its settled entry. -/
theorem outcome?_eq_some {cache : Cache} {url : String} {outcome : Loaded} :
    cache.outcome? url = some outcome ↔ cache.entry url = .settled outcome := by
  unfold Cache.outcome?
  cases cache.entry url <;> simp

end Cache

namespace Session

/-- Answering a fetch changes the cache, and the log if the answer is bad. -/
@[simp] theorem cache_settle (s : Session) (url : String) (answer : Except FetchError Fetched) :
    (s.settle url answer).cache = s.cache.settle url answer := by
  cases answer <;> rfl

@[simp] theorem calls_settle (s : Session) (url : String) (answer : Except FetchError Fetched) :
    (s.settle url answer).calls = s.calls := by
  cases answer <;> rfl

@[simp] theorem now_settle (s : Session) (url : String) (answer : Except FetchError Fetched) :
    (s.settle url answer).now = s.now := by
  cases answer <;> rfl

@[simp] theorem allowance_settle (s : Session) (url : String)
    (answer : Except FetchError Fetched) :
    (s.settle url answer).allowance = s.allowance := by
  cases answer <;> rfl

/-- A client may issue the fetch of a URL: nobody loads it, or the client has taken over. The others
in line go on waiting. -/
def IsFree (s : Session) (client : Client) (url : String) (line : List Client) : Prop :=
  s.cache.entry url = .idle ∧ line = [] ∨ s.cache.entry url = .reserved client line

/-- A session that has paid for the beginning of a load. Modules pay nothing. -/
def IsPaid (s : Session) (client : Client) (paid : Session) : Prop :=
  client = Client.loader ∧ paid = s ∨
    client ≠ Client.loader ∧ 0 < s.allowance ∧ paid = s.spend

/-- A session in which a client has issued the fetch of a URL. -/
def opened (transport : Transport) (s : Session) (client : Client) (url : String)
    (line : List Client) : Session :=
  { s.call url with
    cache := s.cache.set url (.fetching client ((transport url).due s.now) line) }

/-- `Polled transport client url s s'` lists what polling the load of `url` on behalf of `client`
can do: nothing if the URL is settled, nothing but an entry if the allowance is used up, waiting in
line or for the answer, taking the answer, and issuing a fetch that is answered later or at once. -/
inductive Polled (transport : Transport) (client : Client) (url : String) (s s' : Session) :
    Prop where
  | settled (outcome) :
      s.cache.entry url = .settled outcome → s' = s → Polled transport client url s s'
  | deferred (line) :
      s.IsFree client url line → client ≠ Client.loader → s.allowance = 0 →
      s' = { s with cache := s.cache.set url (s.cache.entry url) } →
      Polled transport client url s s'
  | joined (owner line) :
      owner ≠ client →
      (s.cache.entry url = .reserved owner line ∨
        ∃ due, s.cache.entry url = .fetching owner due line) →
      s' = s.join client url → Polled transport client url s s'
  | waiting (due line) :
      s.cache.entry url = .fetching client due line →
      (∀ rounds answer round, transport url = .after rounds answer → due = some round →
        s.now < round) →
      s' = s → Polled transport client url s s'
  | answered (rounds answer round line) :
      s.cache.entry url = .fetching client (some round) line →
      transport url = .after rounds answer → round ≤ s.now →
      s' = s.settle url answer → Polled transport client url s s'
  | issued (line paid) :
      s.IsFree client url line → s.IsPaid client paid →
      (∀ answer, transport url ≠ .after 0 answer) →
      s' = paid.opened transport client url line → Polled transport client url s s'
  | issuedAnswered (line paid answer) :
      s.IsFree client url line → s.IsPaid client paid → transport url = .after 0 answer →
      s' = (paid.opened transport client url line).settle url answer →
      Polled transport client url s s'

variable {transport : Transport} {client : Client} {url : String} {s s' : Session}

/-- A session that has paid differs in its allowance alone. -/
theorem paid_eq {paid : Session} (hpaid : s.IsPaid client paid) :
    paid.cache = s.cache ∧ paid.calls = s.calls ∧ paid.now = s.now := by
  rcases hpaid with ⟨_, rfl⟩ | ⟨_, _, rfl⟩ <;> exact ⟨rfl, rfl, rfl⟩

/-- Issuing a fetch adds it to the calls. -/
theorem calls_opened (line : List Client) :
    (s.opened transport client url line).calls = s.calls ++ [url] := rfl

/-- Issuing a fetch changes the entry of its URL alone. -/
theorem entry_opened (line : List Client) (other : String) :
    (s.opened transport client url line).cache.entry other =
      if other = url then .fetching client ((transport url).due s.now) line
      else s.cache.entry other :=
  Cache.entry_set s.cache url _ other

/-- The owner of a fetch takes the answer if it is due, and otherwise waits. -/
theorem advance_polled {due : Option Nat} {line : List Client}
    (hentry : s.cache.entry url = .fetching client due line) :
    s.Polled transport client url (s.advance transport url due) := by
  unfold advance
  split
  · rename_i rounds answer round htransport
    split
    · rename_i hdue
      exact .answered rounds answer round line hentry htransport hdue rfl
    · rename_i hdue
      refine .waiting (some round) line hentry ?_ rfl
      intro _ _ later _ hlater
      cases hlater
      omega
  · rename_i hnone
    refine .waiting _ line hentry ?_ rfl
    intro rounds answer round htransport hdue
    exact (hnone rounds answer round htransport hdue).elim

/-- A fetch is answered at once if it takes no round. -/
theorem issue_eq (line : List Client) :
    s.issue transport client url line =
      match transport url with
      | .after 0 answer => (s.opened transport client url line).settle url answer
      | _ => s.opened transport client url line := by
  unfold issue advance opened
  cases htransport : transport url with
  | never => rfl
  | after rounds answer =>
      cases rounds with
      | zero => simp [Delivery.due, call]
      | succ rounds =>
          have hlater : ¬ s.now + (rounds + 1) ≤ s.now := by omega
          simp [Delivery.due, call, hlater]

/-- A client that may issue a fetch issues it if it can pay. -/
theorem begin_polled {line : List Client} (hfree : s.IsFree client url line) :
    s.Polled transport client url (s.begin transport client url line) := by
  have hissue : ∀ paid, s.IsPaid client paid →
      s.Polled transport client url (paid.issue transport client url line) := by
    intro paid hpaid
    rw [issue_eq]
    split
    · rename_i answer htransport
      exact .issuedAnswered line paid answer hfree hpaid htransport rfl
    · rename_i hlater
      exact .issued line paid hfree hpaid hlater rfl
  unfold begin
  split
  · rename_i hloader
    exact hissue s (.inl ⟨hloader, rfl⟩)
  · rename_i hloader
    split
    · rename_i hallowance
      exact .deferred line hfree hloader hallowance rfl
    · rename_i hallowance
      exact hissue s.spend (.inr ⟨hloader, Nat.pos_of_ne_zero hallowance, rfl⟩)

/-- A poll does one of the listed things. -/
theorem poll_polled (transport : Transport) (client : Client) (url : String) (s : Session) :
    s.Polled transport client url (s.poll transport client url).1 := by
  unfold poll
  cases hentry : s.cache.entry url with
  | idle => exact begin_polled (.inl ⟨hentry, rfl⟩)
  | settled outcome => exact .settled outcome hentry rfl
  | reserved owner line =>
      by_cases howner : owner = client
      · subst howner
        simpa using begin_polled (.inr hentry)
      · simp only [howner, if_false]
        exact .joined owner line howner (.inl hentry) rfl
  | fetching owner due line =>
      by_cases howner : owner = client
      · subst howner
        simpa using advance_polled hentry
      · simp only [howner, if_false]
        exact .joined owner line howner (.inr ⟨due, hentry⟩) rfl

/-- Issuing a fetch makes no resource. -/
theorem resources_opened {paid : Session} (hpaid : s.IsPaid client paid) (line : List Client) :
    (paid.opened transport client url line).cache.resources = s.cache.resources := by
  rw [← (paid_eq hpaid).1]
  rfl

/-- A poll that issues a fetch and brings its answer at once leaves the URL settled. -/
theorem entry_opened_settle {paid : Session} (hpaid : s.IsPaid client paid) (line : List Client)
    (answer : Except FetchError Fetched) (other : String) :
    ((paid.opened transport client url line).settle url answer).cache.entry other =
      if other = url then .settled (s.cache.judge url answer) else s.cache.entry other := by
  rw [cache_settle, Cache.entry_settle, Cache.judge_congr (resources_opened hpaid line),
    entry_opened, (paid_eq hpaid).1]
  split <;> rfl

/-- A poll changes the entry of its URL alone. -/
theorem Polled.entry_of_ne (hpolled : s.Polled transport client url s') {other : String}
    (hne : other ≠ url) : s'.cache.entry other = s.cache.entry other := by
  cases hpolled with
  | settled outcome _ heq => rw [heq]
  | deferred line _ _ _ heq => simp [heq]
  | joined owner line _ _ heq => simp [heq, join, Cache.entry_set, hne]
  | waiting due line _ _ heq => rw [heq]
  | answered rounds answer round line _ _ _ heq => simp [heq, Cache.entry_settle, hne]
  | issued line paid _ hpaid _ heq => simp [heq, entry_opened, hne, (paid_eq hpaid).1]
  | issuedAnswered line paid answer _ hpaid _ heq =>
      rw [heq, entry_opened_settle hpaid, if_neg hne]

/-- A URL that a client may fetch has no outcome. -/
theorem outcome?_of_free {line : List Client} (hfree : s.IsFree client url line) :
    s.cache.outcome? url = none := by
  rcases hfree with ⟨hentry, _⟩ | hentry <;> simp [Cache.outcome?, hentry]

/-- A URL that a client may fetch is not settled. -/
theorem not_settled_of_free {line : List Client} (hfree : s.IsFree client url line)
    (outcome : Loaded) : s.cache.entry url ≠ .settled outcome := by
  rcases hfree with ⟨hentry, _⟩ | hentry <;> simp [hentry]

/-- A poll of a settled URL does nothing. -/
theorem Polled.eq_of_settled (hpolled : s.Polled transport client url s') {outcome : Loaded}
    (hsettled : s.cache.entry url = .settled outcome) : s' = s := by
  cases hpolled with
  | settled _ _ heq => exact heq
  | deferred line hfree _ _ _ => exact (not_settled_of_free hfree outcome hsettled).elim
  | joined owner line _ hentry _ =>
      rcases hentry with hentry | ⟨due, hentry⟩ <;> simp [hentry] at hsettled
  | waiting due line hentry _ heq => exact heq
  | answered rounds answer round line hentry _ _ _ => simp [hentry] at hsettled
  | issued line paid hfree _ _ _ => exact (not_settled_of_free hfree outcome hsettled).elim
  | issuedAnswered line paid answer hfree _ _ _ =>
      exact (not_settled_of_free hfree outcome hsettled).elim

/-- A poll keeps what is settled. -/
theorem Polled.settled_stays (hpolled : s.Polled transport client url s') {other : String}
    {outcome : Loaded} (hsettled : s.cache.entry other = .settled outcome) :
    s'.cache.entry other = .settled outcome := by
  by_cases hurl : other = url
  · subst hurl
    rw [hpolled.eq_of_settled hsettled, hsettled]
  · rw [hpolled.entry_of_ne hurl, hsettled]

/-- A poll issues at most one fetch, that of its URL, and only if its client may. -/
theorem Polled.calls_eq (hpolled : s.Polled transport client url s') :
    s'.calls = s.calls ∨
      s'.calls = s.calls ++ [url] ∧ ∃ line, s.IsFree client url line := by
  cases hpolled with
  | settled outcome _ heq => exact .inl (congrArg calls heq)
  | deferred line _ _ _ heq => exact .inl (by rw [heq])
  | joined owner line _ _ heq => exact .inl (by rw [heq, join])
  | waiting due line _ _ heq => exact .inl (congrArg calls heq)
  | answered rounds answer round line _ _ _ heq => exact .inl (by simp [heq])
  | issued line paid hfree hpaid _ heq =>
      exact .inr ⟨by rw [heq, calls_opened, (paid_eq hpaid).2.1], line, hfree⟩
  | issuedAnswered line paid answer hfree hpaid _ heq =>
      exact .inr ⟨by rw [heq, calls_settle, calls_opened, (paid_eq hpaid).2.1], line, hfree⟩

/-- A poll only adds calls. -/
theorem Polled.calls_prefix (hpolled : s.Polled transport client url s') :
    s.calls <+: s'.calls := by
  rcases hpolled.calls_eq with hcalls | ⟨hcalls, _⟩
  · exact hcalls ▸ List.prefix_refl _
  · rw [hcalls]
    exact List.prefix_append _ _

/-- Giving up a load keeps what is settled. -/
theorem settled_release {loads : List (Client × String)} {outcome : Loaded}
    (hsettled : s.cache.entry url = .settled outcome) :
    (s.release loads).cache.entry url = .settled outcome := by
  have hcache : ∀ cache : Cache, cache.entry url = .settled outcome →
      (loads.foldl (fun cache load => cache.release load.1 load.2) cache).entry url =
        .settled outcome := by
    induction loads with
    | nil => exact fun cache hentry => hentry
    | cons load loads ih =>
        intro cache hentry
        refine ih (cache.release load.1 load.2) ?_
        rw [Cache.entry_release]
        split
        · rename_i hurl
          rw [← hurl, hentry]
          rfl
        · exact hentry
  exact hcache s.cache hsettled

/-- A poll answers with the outcome of the URL in the session it leaves. -/
theorem poll_outcome (transport : Transport) (client : Client) (url : String) (s : Session) :
    (s.poll transport client url).2 = (s.poll transport client url).1.cache.outcome? url := rfl

end Session

end Widgetry
