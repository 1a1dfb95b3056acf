import Widgetry.Error
import Widgetry.Fetch.Retry
import Widgetry.Fetch.Url
import Widgetry.File.Tree
import Widgetry.Resource.Session

/-!
# Fetching

A URL is fetched over the network or from a file. What is no absolute URL is a path seen from the
base directory. Requests over the network are repeated as the policy says; files are read once.
-/

namespace Widgetry

/-- Where a URL points. -/
inductive Location where
  | network (url : String)
  | file (path : Text.Bytes)
  deriving Repr, DecidableEq, Inhabited

/-- Where a URL points, seen from the directory `base` (`DefaultFetcher::locate`). A scheme of one
letter is a drive, and its URL is a path. -/
def Location.ofUrl (base url : String) : Except FetchError Location :=
  match Url.read? url with
  | none => .ok (.file (Text.Utf8.encode (Path.join base url)))
  | some (.file none segments) => .ok (.file (Url.filePath segments))
  | some (.file (some _) _) => .error (.unsupportedScheme "file")
  | some (.other scheme) =>
      if scheme = "http" ∨ scheme = "https" then .ok (.network url)
      else if scheme.length = 1 then .ok (.file (Text.Utf8.encode url))
      else .error (.unsupportedScheme scheme)

/-- What fetches depend on: the files by path, the outcomes of the attempts to request a URL over
the network, and the number of rounds that the fetch of a URL takes. -/
structure Surroundings where
  read : Text.Bytes → Except FileFault Text.Bytes
  request : String → Nat → Except FetchError Fetched
  delay : String → Nat

namespace Surroundings

/-- The files of a file system, without a network: every request fails to connect, and every fetch
is answered at once. -/
def offline (read : Text.Bytes → Except FileFault Text.Bytes) : Surroundings :=
  ⟨read, fun _ _ => .error (.http .connect ""), fun _ => 0⟩

/-- Fetch a URL (`DefaultFetcher::fetch`). A file has no reported media type. -/
def fetch (s : Surroundings) (policy : RetryPolicy) (base url : String) :
    Except FetchError Fetched := do
  match ← Location.ofUrl base url with
  | .network url => (policy.run (s.request url)).outcome
  | .file path =>
      match s.read path with
      | .ok bytes => .ok ⟨bytes, none⟩
      | .error fault => .error (.io fault.message)

/-- The transport of the surroundings. -/
def transport (s : Surroundings) (policy : RetryPolicy) (base : String) : Transport :=
  fun url => .after (s.delay url) (s.fetch policy base url)

end Surroundings

end Widgetry
