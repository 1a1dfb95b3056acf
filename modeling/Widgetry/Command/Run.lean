import Widgetry.Command.Notices
import Widgetry.Fetch.Location
import Widgetry.Settings.Load
import Widgetry.Startup

/-!
# The command

The command loads settings, starts the user interface and writes its page to the standard output
or to a file. If the start fails, the page of the failure is written to the file, if there is one,
and the failure is reported. That this page could not be written is only logged. The log and the
report share the standard error.
-/

namespace Widgetry

/-!
## Sites

The settings, the structure and the assets of a site come from files and from the network.
-/

namespace Site

/-- What the settings tell a start. -/
def plan (settings : Settings) : Plan :=
  ⟨settings.name, settings.structureUrl, settings.stylesheetUrl, settings.modules,
    settings.maxDepth⟩

/-- The transport that the settings ask for. -/
def transport (surroundings : Surroundings) (loaded : Settings.Loaded) : Transport :=
  surroundings.transport (.ofAttempts loaded.settings.fetch.maxAttempts) loaded.baseDirectory

/-- Start the user interface of a site over a transport (`Bootstrap::from_loaded`). There is no
answer if a load hangs. -/
def run (transport : Transport) (settings : Settings) : Gui × Option (Except Error Page) :=
  (Gui.new settings.maxDepth).run transport [] Family.support (plan settings)

end Site

namespace Command

/-- What the command leaves behind besides files: its exit code, its standard output, the warnings
and errors that it has logged, and its report. Log and report go to the standard error, the report
last. -/
structure Outcome where
  code : Nat
  output : String
  log : List Notice
  report : String
  deriving Repr, DecidableEq, Inhabited

namespace Outcome

/-- The outcome of a failure. -/
def ofError (log : List Notice) (e : Error) : Outcome :=
  ⟨1, "", log, name ++ ": " ++ e.message ++ "\n"⟩

/-- The outcome of arguments that do not ask for a page. -/
def ofUsage : Usage → Outcome
  | .help => ⟨0, helpText, [], ""⟩
  | fault => ⟨2, "", [], "error: " ++ fault.message ++ "\n\n" ++ usageLine⟩

end Outcome

namespace Options

/-- The lowest level that the log shows, if the environment does not ask for another
(`init_tracing`). -/
def lowest (options : Options) : Level :=
  if options.verbose then .debug else .warn

/-- The notices that the log shows. What a verbose log shows besides, below the level of warnings,
is not kept. -/
def shown (options : Options) (log : List Notice) : List Notice :=
  log.filter fun notice => options.lowest.rank ≤ notice.level.rank

end Options

/-- Load the settings that the options ask for. -/
def load (read : String → Except FileFault String) (options : Options) :
    Except Error Settings.Loaded :=
  match Settings.load read options.config with
  | .error e => .error (.settings e)
  | .ok loaded =>
      .ok { loaded with baseDirectory := options.baseDirectory.getD loaded.baseDirectory }

/-- The text of the page of a start. -/
def pageText (cache : Cache) : Except Error Page → String
  | .ok page => page.html cache
  | .error e => (Page.ofError e).html cache

/-- The warning that the page of a failed start could not be written. -/
def unwritten (options : Options) (started : Except Error Page)
    (written : Except FileFault Unit) : List Notice :=
  match started, options.output, written with
  | .error _, some path, .error fault => [.pageUnwritten (Error.output path fault.message).message]
  | _, _, _ => []

/-- The outcome of a start, whose page was written to a file if the options name one (`emit`). -/
def conclude (options : Options) (session : Session) (started : Except Error Page)
    (written : Except FileFault Unit) : Outcome :=
  let log := options.shown (session.log ++ unwritten options started written)
  match started, options.output, written with
  | .error e, _, _ => .ofError log e
  | .ok page, none, _ => ⟨0, page.html session.cache, log, ""⟩
  | .ok _, some _, .ok () => ⟨0, "", log, ""⟩
  | .ok _, some path, .error fault => .ofError log (.output path fault.message)

/-- Start the user interface and write its page (`run`). There is no outcome if a load hangs. -/
def build (request : String → Nat → Except FetchError Fetched) (delay : String → Nat)
    (fs : FileSystem) (options : Options) : FileSystem × Option Outcome :=
  match load fs.readText options with
  | .error e => (fs, some (.ofError [] e))
  | .ok loaded =>
      match Site.run (Site.transport ⟨fs.read, request, delay⟩ loaded) loaded.settings with
      | (_, none) => (fs, none)
      | (g, some started) =>
          match options.output with
          | none => (fs, some (conclude options g.session started (.ok ())))
          | some path =>
              match fs.write path (Text.Utf8.encode (pageText g.session.cache started)) with
              | .ok fs => (fs, some (conclude options g.session started (.ok ())))
              | .error fault => (fs, some (conclude options g.session started (.error fault)))

/-- The outcome of asking for the version. -/
def versionOutcome : Outcome :=
  ⟨0, versionText ++ "\n", [], ""⟩

/-- Run the command in a file system (`main`). There is no outcome if a load hangs. -/
def run (request : String → Nat → Except FetchError Fetched) (delay : String → Nat)
    (fs : FileSystem) (arguments : List String) : FileSystem × Option Outcome :=
  match Options.ofArguments arguments with
  | .error fault => (fs, some (.ofUsage fault))
  | .ok options =>
      if options.version then (fs, some versionOutcome)
      else build request delay fs options

end Command

end Widgetry
