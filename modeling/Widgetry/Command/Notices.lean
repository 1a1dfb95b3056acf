import Widgetry.Command.Arguments

/-!
# What the command says about itself
-/

namespace Widgetry.Command

/-- The name of the command. -/
def name : String := "sss-guis"

/-- The version of the command. -/
def version : String := "0.1.5"

/-- The commit that the command is built from. -/
def commit : String := "0123456789ab"

/-- When the command was built. -/
def built : String := "2000-01-01T00:00:00Z"

/-- The text about the version (`cli_version_text`). -/
def versionText : String :=
  name ++ " " ++ version ++ "\ncommit: " ++ commit ++ "\nbuilt: " ++ built

/-- The line about the arguments. -/
def usageLine : String :=
  "Usage: " ++ name ++ " [OPTIONS] [CONFIG]\n"

/-- The text about the arguments. -/
def helpText : String :=
  "Render a declarative widget GUI into a standalone HTML page\n\n" ++ usageLine ++ "\n" ++
    "Arguments:\n" ++
    "  [CONFIG]  GUI configuration file (default: ./gui.toml, then ./gui.json)\n\n" ++
    "Options:\n" ++
    "  -o, --output <FILE>   Write the page here instead of stdout\n" ++
    "      --base-dir <DIR>  Resolve relative asset URLs against this directory instead of the " ++
    "configuration file's directory\n" ++
    "  -v, --verbose         Log at debug level (overridden by SSS_GUIS_LOG)\n" ++
    "  -V, --version         Print version and build metadata\n" ++
    "  -h, --help            Print help\n"

/-- What is said about arguments that are not accepted. -/
def Usage.message : Usage → String
  | .unknownArgument => "unexpected argument found"
  | .invalidValue => "a value is required for an option but none was supplied"
  | .repeated => "an option cannot be used multiple times"
  | .tooManyValues => "unexpected value found for an option that takes none"
  | .help => ""

end Widgetry.Command
