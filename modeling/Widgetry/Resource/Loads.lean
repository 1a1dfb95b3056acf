import Widgetry.Resource.Session

/-!
# Loads

Several loads run side by side until all are settled. Loads of one URL share its fetch. In every
round each load is polled. The order is that of the loads, except that a long list is polled
backward in every second round, because its loads then come up in the reverse order of the round
before.
-/

namespace Widgetry

/-- The greatest number of side by side activities that are always polled in their order. -/
def shortLimit : Nat := 30

namespace Session

/-- In the current round of activities begun in the round `start`, long lists are polled
backward. -/
def isTurned (s : Session) (start : Nat) : Bool :=
  (s.now - start) % 2 = 1

/-- The loads of some URLs that are awaited together. -/
def loadsOf (urls : List String) : List (Client × String) :=
  urls.mapIdx fun position url => (Client.awaited position, url)

/-- Poll loads in order. -/
def pollAll (transport : Transport) (s : Session) (loads : List (Client × String)) : Session :=
  loads.foldl (fun s (client, url) => (s.poll transport client url).1) s

/-- The loads that are not settled. -/
def unsettled (s : Session) (loads : List (Client × String)) : List (Client × String) :=
  loads.filter fun (_, url) => (s.cache.outcome? url).isNone

/-- Poll loads in every round in which something can change, until all are settled. The answer
tells whether none hangs. -/
def awaitAll (transport : Transport) (start : Nat) (long : Bool) :
    (fuel : Nat) → Session → List (Client × String) → Session × Bool
  | 0, s, _ => (s, false)
  | fuel + 1, s, loads =>
      let s := s.pollAll transport (if long && s.isTurned start then loads.reverse else loads)
      match s.unsettled loads with
      | [] => (s, true)
      | remaining =>
          match s.nextDue remaining with
          | some round => awaitAll transport start long fuel (s.advanceTo round) remaining
          | none => (s, false)

/-- Load several URLs side by side. There is no answer if a load hangs. -/
def loadAll (transport : Transport) (s : Session) (urls : List String) :
    Session × Option (List Loaded) :=
  let (s, complete) := s.awaitAll transport s.now (shortLimit < urls.length)
    (3 * urls.length + 2) (loadsOf urls)
  (s, if complete then some (urls.filterMap s.cache.outcome?) else none)

/-- Load a URL (`ResourceCache::load`). There is no answer if the load hangs. -/
def load (transport : Transport) (s : Session) (url : String) : Session × Option Loaded :=
  let (s, complete) := s.awaitAll transport s.now false 5 (loadsOf [url])
  (s, if complete then s.cache.outcome? url else none)

end Session

end Widgetry
