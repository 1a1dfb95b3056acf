import Widgetry.Resource.Cache

/-!
# Module bookkeeping

Every module is requested once. A requested module is outstanding until it is loaded, has failed
or has crashed; loading one may request more. The loader keeps the first failure forever. A crash
becomes a failure only when it is noticed. Somebody who waits for all modules watches those that
nobody watched before, and notices only the crashes of modules that are watched by this wait.
-/

namespace Widgetry

/-- A loaded module. -/
structure Module where
  url : String
  resource : Resource
  deriving Repr, DecidableEq, Inhabited

/-- The source text of a module (`Module::source`). -/
def Module.source (m : Module) : Except ResourceError String :=
  match m.resource.text with
  | .ok text => .ok text
  | .error fault => .error (.moduleLoad m.url fault.message)

/-- Requested modules in the order of their requests, the outstanding ones among them in the order
in which they are polled, the loaded ones, the crashed ones in the order of their crashes, those
that nobody has watched yet, and the first failure (`ModuleLoader`). -/
structure Loader where
  requested : List String
  outstanding : List String
  modules : List Module
  crashed : List String
  unwatched : List String
  failure : Option ResourceError
  deriving Inhabited

namespace Loader

/-- A loader without requests. -/
def empty : Loader :=
  ⟨[], [], [], [], [], none⟩

/-- Request a module unless it was requested before. -/
def enqueue (loader : Loader) (url : String) : Loader :=
  if loader.requested.contains url then loader
  else
    { loader with
      requested := loader.requested ++ [url]
      outstanding := loader.outstanding ++ [url]
      unwatched := loader.unwatched ++ [url] }

/-- Request modules in order. -/
def enqueueAll (loader : Loader) (urls : List String) : Loader :=
  urls.foldl enqueue loader

/-- The loaded module of a URL. -/
def module? (loader : Loader) (url : String) : Option Module :=
  loader.modules.find? fun m => m.url = url

/-- The loaded modules in the order of their requests (`ModuleLoader::loaded`). -/
def loaded (loader : Loader) : List Module :=
  loader.requested.filterMap loader.module?

/-- All requested modules are loaded. -/
def isComplete (loader : Loader) : Bool :=
  loader.modules.length = loader.requested.length

/-- The order of the outstanding modules some rounds after those up to a position were polled: these
go to the end, and every round puts them in the reverse order. -/
def reorder (loader : Loader) (position rounds : Nat) : Loader :=
  let polled := loader.outstanding.take position
  { loader with
    outstanding := loader.outstanding.drop position ++
      if rounds % 2 = 0 then polled else polled.reverse }

/-- A module is no longer outstanding. -/
def leave (loader : Loader) (url : String) : Loader :=
  { loader with outstanding := loader.outstanding.erase url }

/-- A module is loaded. -/
def finish (loader : Loader) (m : Module) : Loader :=
  let loader := loader.leave m.url
  { loader with modules := loader.modules ++ [m] }

/-- Keep a failure unless there was one before (`ModuleLoader::fail`). -/
def fail (loader : Loader) (e : ResourceError) : Loader :=
  { loader with failure := loader.failure.or (some e) }

/-- The failure of a module, as an error about modules. -/
def failureOf (url : String) : ResourceError → ResourceError
  | .moduleLoad url reason => .moduleLoad url reason
  | e => .moduleLoad url e.message

/-- A module has failed. -/
def failModule (loader : Loader) (url : String) (e : ResourceError) : Loader :=
  (loader.leave url).fail (failureOf url e)

/-- A module has crashed. -/
def crash (loader : Loader) (url : String) : Loader :=
  let loader := loader.leave url
  { loader with crashed := loader.crashed ++ [url] }

/-- The first crash that a wait can notice: among the modules that it watches in the order of the
crashes, then among those that it begins to watch in the order of their requests. -/
def crash? (loader : Loader) (watched : List String) : Option String :=
  (loader.crashed.find? watched.contains).or (loader.unwatched.find? loader.crashed.contains)

/-- One look of a wait for all modules: a failure, success, or the modules that it watches from now
on (`ModuleLoader::await_all`). A crash is noticed if there is no failure so far. -/
def check (loader : Loader) (watched : List String) :
    Loader × Sum (List String) (Except ResourceError Unit) :=
  match loader.failure with
  | some e => (loader, .inr (.error e))
  | none =>
      if loader.isComplete then (loader, .inr (.ok ()))
      else
        let seen := { loader with unwatched := [] }
        match loader.crash? watched with
        | none => (seen, .inl (watched ++ loader.unwatched))
        | some url =>
            let e := ResourceError.moduleLoad url "panicked"
            (seen.fail e, .inr (.error e))

end Loader

end Widgetry
