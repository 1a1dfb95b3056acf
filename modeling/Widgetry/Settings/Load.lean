import Widgetry.File.Tree
import Widgetry.Settings.Basic

/-!
# Where settings come from

A path that is given is the only source. Otherwise the settings are in `gui.toml`, or else in
`gui.json`, of the current directory; a file that cannot be read is passed over. Paths in settings
are seen from the directory of their file.
-/

namespace Widgetry.Settings

/-- The source of settings (`ConfigSource`). -/
inductive Source where
  | explicit (path : String)
  | localToml
  | localJson
  deriving Repr, DecidableEq, Inhabited

/-- The path of a source. -/
def Source.path : Source → String
  | .explicit path => path
  | .localToml => "gui.toml"
  | .localJson => "gui.json"

/-- The sources to look at, in order. -/
def sources : (path : Option String) → List Source
  | some path => [.explicit path]
  | none => [.localToml, .localJson]

/-- The format of a file: JSON if its extension says so, and TOML otherwise
(`ConfigFormat::for_path`). -/
def Format.ofPath (path : String) : Format :=
  if (Path.extension? path).any (Text.equalFolded "json") then .json else .toml

/-- Settings with the directory that their paths are seen from, and their source
(`LoadedGuiConfig`). -/
structure Loaded where
  settings : Settings
  baseDirectory : String
  source : Source
  deriving Repr, DecidableEq, Inhabited

/-- The first source whose text can be read. -/
def firstReadable? (read : String → Except FileFault String) :
    List Source → Option (Source × String)
  | [] => none
  | source :: rest =>
      match read source.path with
      | .ok text => some (source, text)
      | .error _ => firstReadable? read rest

/-- The text of the settings with its source (`read_config_text_with_sources`). -/
def find (read : String → Except FileFault String) :
    (path : Option String) → Except SettingsError (Source × String)
  | some path =>
      match read path with
      | .ok text => .ok (.explicit path, text)
      | .error fault => .error (.io fault.message)
  | none =>
      match firstReadable? read (sources none) with
      | some found => .ok found
      | none => .error (.invalid ("no GUI configuration was declared (expected `" ++
          Source.localToml.path ++ "` or `" ++ Source.localJson.path ++ "`)"))

/-- Load settings (`load_gui_config`). -/
def load (read : String → Except FileFault String) (path : Option String) :
    Except SettingsError Loaded := do
  let (source, text) ← find read path
  let settings ← ofText text (.ofPath source.path)
  .ok ⟨settings, Path.directory source.path, source⟩

end Widgetry.Settings
