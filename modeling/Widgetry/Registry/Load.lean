import Widgetry.Registry
import Widgetry.Resource.Session

/-!
# Loading the structure document

A registry fetches its document once. A fetch that fails, or brings back no document, leaves the
registry as it was, so that the next attempt fetches again.
-/

namespace Widgetry

namespace Registry

/-- Take over the answer to a fetch of the document. -/
def receive (registry : Registry) (url : String) (answer : Except FetchError Fetched) :
    Except StructureError (Registry × Document) :=
  match answer with
  | .error e => .error (.documentFetch url e.message)
  | .ok fetched =>
      match Document.ofBytes fetched.bytes with
      | .error fault => .error (.documentParse url fault.message)
      | .ok document => .ok ((registry.setDocument document).1, document)

/-- Load the document (`StructureRegistry::load_document`). If the fetch hangs, there is no
answer. -/
def load (registry : Registry) (transport : Transport) (s : Session) (url : String) :
    Session × Registry × Option (Except StructureError Document) :=
  match registry.document with
  | some document => (s, registry, some (.ok document))
  | none =>
      let s := s.spend.call url
      match transport url with
      | .never => (s, registry, none)
      | .after rounds answer =>
          let s := s.advanceTo (s.now + rounds)
          match registry.receive url answer with
          | .ok (registry, document) => (s, registry, some (.ok document))
          | .error e => (s, registry, some (.error e))

/-- Load the document and resolve its root (`StructureRegistry::generate`). -/
def generate (registry : Registry) (transport : Transport) (s : Session) (url : String) :
    Session × Registry × Option (Except Error Widget) :=
  match registry.load transport s url with
  | (s, registry, none) => (s, registry, none)
  | (s, registry, some (.error e)) => (s, registry, some (.error (.structure e)))
  | (s, registry, some (.ok document)) =>
      (s, registry, some (registry.resolve document document.root))

end Registry

end Widgetry
