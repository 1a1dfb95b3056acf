import Widgetry.Resource.Cache

/-!
# Sessions

A session is what the loads of a program have done so far: the cache, the fetches in the order in
which they were issued, the log, and the current round. A load is polled once in every round until
it is settled. A poll of a URL that nobody loads issues a fetch; a fetch answered after `n` rounds
is settled by the first poll of its owner from the round in which it is due. In one round only so
many awaited loads may begin.
-/

namespace Widgetry

/-- When and with what a fetch is answered. -/
inductive Delivery where
  | after (rounds : Nat) (answer : Except FetchError Fetched)
  | never
  deriving Inhabited

namespace Delivery

/-- The round in which a fetch issued in the round `now` is answered. -/
def due (now : Nat) : Delivery → Option Nat
  | .after rounds _ => some (now + rounds)
  | .never => none

end Delivery

/-- The way in which URLs are fetched (`Fetcher::fetch`). -/
abbrev Transport := String → Delivery

/-- The levels of a log, the lowest one first. -/
inductive Level where
  | debug
  | info
  | warn
  | error
  deriving Repr, DecidableEq, Inhabited

namespace Level

/-- The place of a level among the levels. -/
def rank : Level → Nat
  | debug => 0
  | info => 1
  | warn => 2
  | error => 3

/-- The name of a level. -/
def name : Level → String
  | debug => "DEBUG"
  | info => "INFO"
  | warn => "WARN"
  | error => "ERROR"

end Level

/-- Warnings and errors for the log. -/
inductive Notice where
  | uncertainMedia (family : Family) (source kind : String)
  | fetchFailed (url error : String)
  | moduleFailed (url error : String)
  | startFailed (error : String)
  | pageUnwritten (error : String)
  deriving Repr, DecidableEq, Inhabited

namespace Notice

/-- The level of a notice. -/
def level : Notice → Level
  | .startFailed _ => .error
  | _ => .warn

/-- The wording of a notice. -/
def message : Notice → String
  | .uncertainMedia family _ _ =>
      family.name ++ " support for this content kind is not guaranteed"
  | .fetchFailed _ _ => "resource fetch failed"
  | .moduleFailed _ _ => "module failed to load"
  | .startFailed _ => "gui failed to start"
  | .pageUnwritten _ => "failed to write error page"

/-- The named values of a notice. -/
def fields : Notice → List (String × String)
  | .uncertainMedia _ source kind => [("source", source), ("content_kind", kind)]
  | .fetchFailed url error => [("url", url), ("error", error)]
  | .moduleFailed url error => [("url", url), ("error", error)]
  | .startFailed error => [("error", error)]
  | .pageUnwritten error => [("error", error)]

end Notice

/-- What the loads of a program have done so far. The allowance is the number of awaited loads that
may still begin in the current round. -/
structure Session where
  cache : Cache
  calls : List String
  log : List Notice
  now : Nat
  allowance : Nat

namespace Session

/-- The number of awaited loads that may begin in one round. -/
def fullAllowance : Nat := 128

/-- A session in which nothing has happened. -/
def empty : Session :=
  ⟨.empty, [], [], 0, fullAllowance⟩

/-- Add a notice to the log. -/
def note (s : Session) (notice : Notice) : Session :=
  { s with log := s.log ++ [notice] }

/-- Record that a fetch is issued. -/
def call (s : Session) (url : String) : Session :=
  { s with calls := s.calls ++ [url] }

/-- Use up a part of the allowance of the round. -/
def spend (s : Session) : Session :=
  { s with allowance := s.allowance - 1 }

/-- Settle a URL by the answer of its fetch. A failed fetch is logged. -/
def settle (s : Session) (url : String) (answer : Except FetchError Fetched) : Session :=
  let s := match answer with
    | .ok _ => s
    | .error e => s.note (.fetchFailed url e.message)
  { s with cache := s.cache.settle url answer }

/-- Settle a URL that is being fetched, if its fetch is due. -/
def advance (transport : Transport) (s : Session) (url : String) (due : Option Nat) : Session :=
  match transport url, due with
  | .after _ answer, some round => if round ≤ s.now then s.settle url answer else s
  | _, _ => s

/-- Issue the fetch of a URL on behalf of a client. -/
def issue (transport : Transport) (s : Session) (client : Client) (url : String)
    (line : List Client) : Session :=
  let due := (transport url).due s.now
  let s := s.call url
  { s with cache := s.cache.set url (.fetching client due line) }.advance transport url due

/-- Begin a load. Modules begin at any time, awaited loads within the allowance: without one, the
URL is only entered in the cache. -/
def begin (transport : Transport) (s : Session) (client : Client) (url : String)
    (line : List Client) : Session :=
  if client = Client.loader then s.issue transport client url line
  else if s.allowance = 0 then { s with cache := s.cache.set url (s.cache.entry url) }
  else s.spend.issue transport client url line

/-- Make a client wait for the fetch of another. -/
def join (s : Session) (client : Client) (url : String) : Session :=
  { s with cache := s.cache.set url ((s.cache.entry url).join client) }

/-- Poll the load of a URL on behalf of a client (`ResourceCache::load`). -/
def poll (transport : Transport) (s : Session) (client : Client) (url : String) :
    Session × Option Loaded :=
  let s := match s.cache.entry url with
    | .settled _ => s
    | .idle => s.begin transport client url []
    | .reserved owner line =>
        if owner = client then s.begin transport client url line else s.join client url
    | .fetching owner due _ =>
        if owner = client then s.advance transport url due else s.join client url
  (s, s.cache.outcome? url)

/-- Give up loads. -/
def release (s : Session) (loads : List (Client × String)) : Session :=
  { s with cache := loads.foldl (fun cache (client, url) => cache.release client url) s.cache }

/-- The earlier of two rounds, of which either may never come. -/
def earlier : Option Nat → Option Nat → Option Nat
  | some a, some b => some (min a b)
  | some a, none => some a
  | none, b => b

/-- The next round in which polling a load can change anything. -/
def due (s : Session) (client : Client) (url : String) : Option Nat :=
  match s.cache.entry url with
  | .settled _ => some (s.now + 1)
  | .idle => some (s.now + 1)
  | .reserved owner _ => if owner = client then some (s.now + 1) else none
  | .fetching owner due _ => if owner = client then due.map (max · (s.now + 1)) else none

/-- The next round in which polling one of several loads can change anything. -/
def nextDue (s : Session) : List (Client × String) → Option Nat
  | [] => none
  | (client, url) :: loads => earlier (s.due client url) (s.nextDue loads)

/-- Move on to a later round, with a new allowance. -/
def advanceTo (s : Session) (round : Nat) : Session :=
  { s with now := max s.now round, allowance := fullAllowance }

end Session

end Widgetry
