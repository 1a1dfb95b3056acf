import Widgetry.Text.Basic

/-!
# Errors

One inductive type for each layer, with the cause in its constructors and the wording in its
`message`. `Error` is the top of the hierarchy: what a failing start or rendering reports.
-/

namespace Widgetry

/-- Why a configuration field is rejected. -/
inductive Reason where
  | required
  | notLabel
  | notText
  | notReference
  | notArray
  | notObject
  | notString
  | notPositive
  | empty
  | expected (what : String)
  | invalidColor (text : String)
  | duplicateTab (name : String)
  | other (text : String)
  deriving Repr, DecidableEq, Inhabited

/-- The wording of a reason, to be read after the field. -/
def Reason.message : Reason → String
  | .required => "is required"
  | .notLabel => "must be a string or a number"
  | .notText => "must be a string, number or boolean"
  | .notReference => "must be a widget reference (index or key)"
  | .notArray => "must be an array"
  | .notObject => "must be an object"
  | .notString => "must be a string"
  | .notPositive => "must be a number greater than 0"
  | .empty => "must not be empty"
  | .expected what => "must be " ++ what
  | .invalidColor text => "\"" ++ text ++ "\" is not a valid color"
  | .duplicateTab name => "duplicate tab name \"" ++ name ++ "\""
  | .other text => text

/-- A field of a widget's configuration is missing or invalid. The field is given by its path. -/
structure ConfigError where
  widget : String
  field : String
  reason : Reason
  deriving Repr, DecidableEq, Inhabited

/-- The wording of a configuration error (`ConfigError::fmt`). -/
def ConfigError.message (e : ConfigError) : String :=
  e.widget ++ " widget: `" ++ e.field ++ "` " ++ e.reason.message

/-- Errors of widget declarations and structure documents. -/
inductive StructureError where
  | duplicateType (name : String)
  | unknownType (name : String)
  | missingWidget (id : String)
  | notLoaded
  | documentFetch (url reason : String)
  | documentParse (url reason : String)
  deriving Repr, DecidableEq, Inhabited

/-- The wording of a structure error (`StructureError::fmt`). -/
def StructureError.message : StructureError → String
  | .duplicateType name => "a widget named \"" ++ name ++ "\" has already been declared"
  | .unknownType name =>
      "unable to create widget of \"" ++ name ++ "\" which is an unknown widget type"
  | .missingWidget id => "no widget exists for reference `" ++ id ++ "`"
  | .notLoaded => "no structure has been loaded"
  | .documentFetch url reason => "failed to get structure `" ++ url ++ "`: " ++ reason
  | .documentParse url reason =>
      "failed to parse a valid JSON structure from `" ++ url ++ "`: " ++ reason

/-- Errors of fetched assets. -/
inductive ResourceError where
  | fetch (url reason : String)
  | moduleLoad (url reason : String)
  | unsupportedMedia (widget kind : String)
  deriving Repr, DecidableEq, Inhabited

/-- The wording of a resource error (`ResourceError::fmt`). -/
def ResourceError.message : ResourceError → String
  | .fetch url reason => "failed to load resource `" ++ url ++ "`: " ++ reason
  | .moduleLoad url reason => "failed to load module `" ++ url ++ "`: " ++ reason
  | .unsupportedMedia widget kind =>
      widget ++ " resource of type \"" ++ kind ++ "\" is not supported"

/-- Why a request over the network has no answer. -/
inductive NetworkFault where
  | timeout
  | connect
  | invalid
  deriving Repr, DecidableEq, Inhabited

/-- Errors of the transport. -/
inductive FetchError where
  | http (fault : NetworkFault) (text : String)
  | status (code : Nat)
  | io (text : String)
  | unsupportedScheme (scheme : String)
  deriving Repr, DecidableEq, Inhabited

/-- The wording of a transport error (`FetchError::fmt`). -/
def FetchError.message : FetchError → String
  | .http _ text => "http: " ++ text
  | .status code => "status " ++ Text.decimal code
  | .io text => "io: " ++ text
  | .unsupportedScheme scheme => "unsupported scheme `" ++ scheme ++ "`"

/-- Errors of the settings file. -/
inductive SettingsError where
  | io (text : String)
  | toml (text : String)
  | json (text : String)
  | invalid (text : String)
  deriving Repr, DecidableEq, Inhabited

/-- The wording of a settings error (`SettingsError::fmt`). -/
def SettingsError.message : SettingsError → String
  | .io text => "io: " ++ text
  | .toml text => "toml: " ++ text
  | .json text => "json: " ++ text
  | .invalid text => "invalid gui configuration: " ++ text

/-- What a failing start, resolution or rendering reports (`GuiError`). A recursive structure
carries the chain of identifiers that closes the cycle; the chain is empty if the nesting is only
too deep. -/
inductive Error where
  | config (e : ConfigError)
  | structure (e : StructureError)
  | resource (e : ResourceError)
  | settings (e : SettingsError)
  | capacity (slots items : Nat)
  | recursive (identifier : String) (chain : List String)
  | output (path reason : String)
  deriving Repr, DecidableEq, Inhabited

/-- The wording of an error (`GuiError::fmt`). -/
def Error.message : Error → String
  | .config e => "config: " ++ e.message
  | .structure e => "structure: " ++ e.message
  | .resource e => "resource: " ++ e.message
  | .settings e => "settings: " ++ e.message
  | .capacity slots items =>
      "attempting to add " ++ Text.decimal items ++ " items to a layout with " ++
        Text.decimal slots ++ " slots (consider increasing `columns` or `rows`)"
  | .recursive identifier [] => "structure is too deeply nested at `" ++ identifier ++ "`"
  | .recursive identifier chain =>
      "recursive structure: `" ++ identifier ++ "` references itself through " ++
        String.intercalate " -> " chain
  | .output path reason => "output: failed to write `" ++ path ++ "`: " ++ reason

end Widgetry
