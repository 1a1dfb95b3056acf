import Widgetry.Error
import Widgetry.Resource.Kind
import Widgetry.Table
import Widgetry.Text.Encodings
import Widgetry.Text.Utf8

/-!
# The resource cache

The cache has one entry for each URL that was ever requested. An entry is idle while nobody loads
it, fetching while a fetch is under way, and settled for good once a fetch is answered, be it with
a failure. A fetch belongs to the client that issued it: when that client leaves before the answer,
the next one in line takes over. Resources get numbered handles in the order in which their fetches
succeed.
-/

namespace Widgetry

/-- What a transport brings back. -/
structure Fetched where
  bytes : Text.Bytes
  type : Option String
  deriving Repr, DecidableEq, Inhabited

/-- A loaded resource. Its handle is a number. -/
structure Resource where
  source : String
  handle : Nat
  kind : String
  bytes : Text.Bytes
  deriving Repr, DecidableEq, Inhabited

/-- How a load ends. -/
abbrev Loaded := Except ResourceError Resource

/-- The outcome of a load whose fetch is answered: a resource with the given handle, or an error. -/
def Loaded.ofAnswer (handle : Nat) (url : String) : Except FetchError Fetched → Loaded
  | .ok fetched => .ok ⟨url, handle, ContentKind.detect url fetched.type, fetched.bytes⟩
  | .error e => .error (.fetch url e.message)

namespace Resource

/-- The local URL of a handle. -/
def handleText (n : Nat) : String :=
  "blob:sss/" ++ Text.decimal n

/-- The local URL of a resource (`ResourceHandle::url`). -/
def handleUrl (resource : Resource) : String :=
  handleText resource.handle

/-- The bytes as text (`Resource::text`). -/
def text (resource : Resource) : Except Text.Utf8.Fault String :=
  Text.Utf8.decode resource.bytes

/-- A URL that carries the resource itself (`Resource::data_uri`). -/
def dataUri (resource : Resource) : String :=
  "data:" ++ resource.kind ++ ";base64," ++ Text.Base64.encode resource.bytes

end Resource

/-- Somebody who loads, told apart by a number. -/
abbrev Client := Nat

namespace Client

/-- The module of the URL that is loaded. -/
def loader : Client := 0

/-- The load with a given position among those that are awaited together. -/
def awaited (position : Nat) : Client := position + 1

end Client

/-- What is known of a requested URL. One client owns the fetch of a URL, and the others wait in
line. An owner that has taken over has not yet issued a fetch of its own. A fetch that is under way
is answered in the round `due`, or never. -/
inductive Entry where
  | idle
  | reserved (owner : Client) (line : List Client)
  | fetching (owner : Client) (due : Option Nat) (line : List Client)
  | settled (outcome : Loaded)

namespace Entry

/-- The owner has left, and the next in line takes over. -/
def handOver : (line : List Client) → Entry
  | [] => .idle
  | owner :: line => .reserved owner line

/-- A client stands in line, unless it stands there already or need not wait. -/
def join (client : Client) : Entry → Entry
  | .reserved owner line =>
      .reserved owner (if line.contains client then line else line ++ [client])
  | .fetching owner due line =>
      .fetching owner due (if line.contains client then line else line ++ [client])
  | entry => entry

/-- A client no longer loads. -/
def release (client : Client) : Entry → Entry
  | .reserved owner line =>
      if owner = client then handOver line else .reserved owner (line.erase client)
  | .fetching owner due line =>
      if owner = client then handOver line else .fetching owner due (line.erase client)
  | entry => entry

end Entry

/-- Entries by URL, and the resources in the order of their handles (`ResourceCache`). -/
structure Cache where
  entries : List (String × Entry)
  resources : List Resource

namespace Cache

/-- A cache without entries. -/
def empty : Cache :=
  ⟨[], []⟩

/-- The number of URLs that were ever requested (`ResourceCache::len`). -/
def size (cache : Cache) : Nat :=
  cache.entries.length

/-- The number of handles (`ResourceCache::handle_count`). -/
def handleCount (cache : Cache) : Nat :=
  cache.resources.length

/-- The URL was requested (`ResourceCache::contains`). -/
def contains (cache : Cache) (url : String) : Bool :=
  Table.contains url cache.entries

/-- What is known of a URL. -/
def entry (cache : Cache) (url : String) : Entry :=
  (Table.get? url cache.entries).getD .idle

/-- The outcome of a URL that is settled. -/
def outcome? (cache : Cache) (url : String) : Option Loaded :=
  match cache.entry url with
  | .settled outcome => some outcome
  | _ => none

/-- The resource of a URL that is loaded. -/
def loaded? (cache : Cache) (url : String) : Option Resource :=
  match cache.outcome? url with
  | some (.ok resource) => some resource
  | _ => none

/-- The resource with a given local URL (`ResourceCache::resolve_handle`). -/
def resolveHandle (cache : Cache) (handle : String) : Option Resource :=
  cache.resources.find? fun resource => resource.handleUrl = handle

/-- The bytes behind a local URL (`ResourceCache::blob`). -/
def blob (cache : Cache) (handle : String) : Option Text.Bytes :=
  (cache.resolveHandle handle).map Resource.bytes

/-- The data URI that takes the place of a handle. -/
def inline (cache : Cache) (handle : String) : Option String :=
  (cache.resolveHandle handle).map Resource.dataUri

/-- Change the entry of a URL. -/
def set (cache : Cache) (url : String) (entry : Entry) : Cache :=
  { cache with entries := Table.insert url entry cache.entries }

/-- A client no longer loads a URL. -/
def release (client : Client) (url : String) (cache : Cache) : Cache :=
  if cache.contains url then cache.set url ((cache.entry url).release client) else cache

/-- The outcome of a load whose fetch is answered. A resource gets the next handle. -/
def judge (cache : Cache) (url : String) (answer : Except FetchError Fetched) : Loaded :=
  Loaded.ofAnswer cache.resources.length url answer

/-- Settle a URL by the answer of its fetch (`ResourceCache::fetch_resource`). -/
def settle (cache : Cache) (url : String) (answer : Except FetchError Fetched) : Cache :=
  let outcome := cache.judge url answer
  let cache := cache.set url (.settled outcome)
  match outcome with
  | .ok resource => { cache with resources := cache.resources ++ [resource] }
  | .error _ => cache

end Cache

end Widgetry
