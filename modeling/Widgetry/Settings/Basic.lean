import Widgetry.Datum
import Widgetry.Error
import Widgetry.Json.Reader
import Widgetry.Registry
import Widgetry.Text.Basic
import Widgetry.Toml.Reader

/-!
# Settings

The settings name the user interface and the URLs that it is started from, and bound its fetches
and the depth of its structure. They are read from a TOML or a JSON text, and checked in a fixed
order of which the first fault is reported.
-/

namespace Widgetry

/-- How long and how often a fetch over the network is tried (`FetchConfig`). -/
structure FetchSettings where
  timeoutSeconds : Nat
  maxAttempts : Nat
  deriving Repr, DecidableEq, Inhabited

/-- The settings of a user interface (`GuiConfig`). -/
structure Settings where
  name : String
  structureUrl : String
  stylesheetUrl : String
  modules : List String
  fetch : FetchSettings
  maxDepth : Nat
  deriving Repr, DecidableEq, Inhabited

namespace FetchSettings

/-- The values of absent fields (`FetchConfig::default`). -/
def default : FetchSettings :=
  ⟨30, 3⟩

/-- The fields of the settings of fetches. -/
def fields : List (Field FetchSettings) :=
  [{ name := "timeout_secs", required := false,
     store := fun datum settings => do
      let timeoutSeconds ← datum.decodeNatural (Nat.pow 2 64) "u64"
      .ok { settings with timeoutSeconds } },
   { name := "max_attempts", required := false,
     store := fun datum settings => do
      let maxAttempts ← datum.decodeNatural (Nat.pow 2 32) "u32"
      .ok { settings with maxAttempts } }]

/-- Decode the settings of fetches. -/
def decode (dialect : Dialect) (datum : Datum) : Except Mismatch FetchSettings :=
  Field.decode dialect "FetchConfig" fields default datum

end FetchSettings

namespace Settings

/-- The fields of the settings. -/
def fields (dialect : Dialect) : List (Field Settings) :=
  [{ name := "name", required := true,
     store := fun datum settings => do
      let name ← datum.decodeText
      .ok { settings with name } },
   { name := "structure", required := true,
     store := fun datum settings => do
      let structureUrl ← datum.decodeText
      .ok { settings with structureUrl } },
   { name := "stylesheet", required := true,
     store := fun datum settings => do
      let stylesheetUrl ← datum.decodeText
      .ok { settings with stylesheetUrl } },
   { name := "modules", required := false,
     store := fun datum settings => do
      let modules ← datum.decodeTexts
      .ok { settings with modules } },
   { name := "fetch", required := false,
     store := fun datum settings => do
      let fetch ← FetchSettings.decode dialect datum
      .ok { settings with fetch } },
   { name := "max_depth", required := false,
     store := fun datum settings => do
      let maxDepth ← datum.decodeNatural (Nat.pow 2 64) "usize"
      .ok { settings with maxDepth } }]

/-- Decode settings. -/
def decode (dialect : Dialect) (datum : Datum) : Except Mismatch Settings :=
  Field.decode dialect "GuiConfig" (fields dialect)
    ⟨"", "", "", [], .default, Registry.defaultMaxDepth⟩ datum

/-- The format of a text with settings (`ConfigFormat`). -/
inductive Format where
  | toml
  | json
  deriving Repr, DecidableEq, Inhabited

/-- Read settings without checking them. -/
def read (text : String) : Format → Except SettingsError Settings
  | .toml =>
      match Toml.read? text with
      | none => .error (.toml (Mismatch.unreadable.message .toml))
      | some datum => (decode .toml datum).mapError fun e => .toml (e.message .toml)
  | .json =>
      (Json.decodeScanned .unreadable (Json.scanText? text) (decode .jsonText)).mapError fun e =>
        .json (e.message .jsonText)

/-- What is said of a blank field. -/
def blank (field : String) : SettingsError :=
  .invalid ("`" ++ field ++ "` must not be empty")

/-- What is said of a field that is zero. -/
def zero (field : String) : SettingsError :=
  .invalid ("`" ++ field ++ "` must be at least 1")

/-- Check settings: no blank texts, no limits of zero (`validate`). -/
def check (settings : Settings) : Except SettingsError Unit :=
  if Text.isBlankText settings.name then .error (blank "name")
  else if Text.isBlankText settings.structureUrl then .error (blank "structure")
  else if Text.isBlankText settings.stylesheetUrl then .error (blank "stylesheet")
  else
    match settings.modules.findIdx? Text.isBlankText with
    | some i => .error (blank ("modules[" ++ Text.decimal i ++ "]"))
    | none =>
        if settings.maxDepth = 0 then .error (zero "max_depth")
        else if settings.fetch.maxAttempts = 0 then .error (zero "fetch.max_attempts")
        else .ok ()

/-- Read and check settings (`parse_gui_config`). -/
def ofText (text : String) (format : Format) : Except SettingsError Settings := do
  let settings ← read text format
  settings.check
  .ok settings

end Settings

end Widgetry
