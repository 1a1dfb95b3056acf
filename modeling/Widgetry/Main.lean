import Widgetry.Command.Run

/-!
# The program

Files are read as the start of the user interface asks for them: the start is run over the files
that are known, and run again after the files that it asked for in vain have been read, until it
asks for no more. There is no network client here, so every request over the network fails to
connect.
-/

namespace Widgetry.Program

/-- The fault with a number. Some operations report the number negated. -/
def faultOfCode (code : UInt32) : FileFault :=
  match if code < 0x80000000 then code else 0 - code with
  | 2 => .notFound
  | 20 => .notDirectory
  | 21 => .isDirectory
  | 36 => .nameTooLong
  | code => .other ("os error " ++ Text.decimal code.toNat)

/-- The fault of a failed file operation. -/
def faultOf : IO.Error → FileFault
  | .noFileOrDirectory .. => .notFound
  | .inappropriateType _ code _ => faultOfCode code
  | .invalidArgument _ code _ => faultOfCode code
  | e => .other (toString e)

/-- Do a file operation at a path. A path that is no text leads to no file. -/
def attempt {α : Type} (path : Text.Bytes) (action : String → IO α) :
    IO (Except FileFault α) := do
  match FileSystem.checkPath path, Text.Utf8.decode path with
  | .error fault, _ => return .error fault
  | .ok (), .error _ => return .error .notFound
  | .ok (), .ok name =>
      try
        return .ok (← action name)
      catch e =>
        return .error (faultOf e)

/-- Read a file. -/
def readFile (path : Text.Bytes) : IO (Except FileFault Text.Bytes) :=
  attempt path fun name => do
    return (← IO.FS.readBinFile name).toList

/-- Write a file. -/
def writeFile (path content : String) : IO (Except FileFault Unit) :=
  attempt (Text.Utf8.encode path) fun name => IO.FS.writeBinFile name content.toUTF8

/-- Files by path, as far as they have been read. -/
abbrev Known := List (Text.Bytes × Except FileFault Text.Bytes)

/-- The file at a path. -/
def Known.read (known : Known) (path : Text.Bytes) : Except FileFault Text.Bytes :=
  (known.lookup path).getD (.error .notFound)

/-- The text of the file at a path. -/
def Known.readText (known : Known) (path : String) : Except FileFault String :=
  (known.read (Text.Utf8.encode path)).bind FileFault.textOf

/-- Read the files at paths. -/
def readAll (paths : List Text.Bytes) : IO Known :=
  paths.mapM fun path => do
    return (path, ← readFile path)

/-- The path that a URL is read from. -/
def pathOf? (base url : String) : Option Text.Bytes :=
  match Location.ofUrl base url with
  | .ok (.file path) => some path
  | _ => none

/-- Start a user interface; `asked` holds the URLs whose files are known. -/
partial def start (loaded : Settings.Loaded) (known : Known) (asked : List String) :
    IO (Gui × Option (Except Error Page)) := do
  let transport := Site.transport (.offline known.read) loaded
  let outcome := Site.run (fun url => if asked.contains url then transport url else .never)
    loaded.settings
  match outcome.1.session.calls.filter fun url => !asked.contains url with
  | [] => return outcome
  | urls =>
      let files ← readAll (urls.filterMap (pathOf? loaded.baseDirectory))
      start loaded (known ++ files) (asked ++ urls)

/-- Build the page that the options ask for. -/
def build (options : Command.Options) : IO Command.Outcome := do
  let known ← readAll ((Settings.sources options.config).map fun source =>
    Text.Utf8.encode source.path)
  match Command.load known.readText options with
  | .error e => return .ofError [] e
  | .ok loaded =>
      match ← start loaded [] [] with
      | (_, none) => return ⟨1, "", [], ""⟩
      | (g, some started) =>
          let written ← match options.output with
            | none => pure (.ok ())
            | some path => writeFile path (Command.pageText g.session.cache started)
          return Command.conclude options g.session started written

/-- The line of a notice in the log. -/
def lineOf (notice : Notice) : String :=
  notice.level.name ++ " " ++ notice.message ++
    String.join (notice.fields.map fun (name, value) => " " ++ name ++ "=" ++ value)

end Widgetry.Program

open Widgetry in
/-- Run the command. -/
def main (arguments : List String) : IO UInt32 := do
  let outcome ← match Command.Options.ofArguments arguments with
    | .error fault => pure (Command.Outcome.ofUsage fault)
    | .ok options =>
        if options.version then pure Command.versionOutcome else Program.build options
  IO.print outcome.output
  for notice in outcome.log do
    IO.eprintln (Program.lineOf notice)
  IO.eprint outcome.report
  return outcome.code.toUInt32
