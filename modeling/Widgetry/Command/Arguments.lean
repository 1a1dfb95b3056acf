import Widgetry.Text.Basic

/-!
# Arguments

The arguments of the command are options and at most one positional argument, the settings file.
They are read from left to right. An option that takes a value takes it from its own argument or
from the next one, and the value is stored when the next option or positional argument, or the end,
is reached; so an unknown argument is reported before a bad value in front of it.
-/

namespace Widgetry.Command

/-- Why arguments do not ask for a page. -/
inductive Usage where
  | unknownArgument
  | invalidValue
  | repeated
  | tooManyValues
  | help
  deriving Repr, DecidableEq, Inhabited

/-- The options with a value. -/
inductive Valued where
  | output
  | baseDirectory
  deriving Repr, DecidableEq, Inhabited

/-- The options without a value. -/
inductive Switch where
  | verbose
  | version
  | help
  deriving Repr, DecidableEq, Inhabited

/-- An option. -/
inductive Opt where
  | valued (option : Valued)
  | switch (option : Switch)
  deriving Repr, DecidableEq, Inhabited

namespace Opt

/-- The option with a long name. -/
def ofName? : String → Option Opt
  | "output" => some (.valued .output)
  | "base-dir" => some (.valued .baseDirectory)
  | "verbose" => some (.switch .verbose)
  | "version" => some (.switch .version)
  | "help" => some (.switch .help)
  | _ => none

/-- The option with a letter. -/
def ofLetter? : Char → Option Opt
  | 'o' => some (.valued .output)
  | 'v' => some (.switch .verbose)
  | 'V' => some (.switch .version)
  | 'h' => some (.switch .help)
  | _ => none

end Opt

/-- What the arguments ask for (`Args`). -/
structure Options where
  config : Option String
  output : Option String
  baseDirectory : Option String
  verbose : Bool
  version : Bool
  deriving Repr, DecidableEq, Inhabited

namespace Options

/-- What no arguments ask for. -/
def none : Options :=
  ⟨Option.none, Option.none, Option.none, false, false⟩

/-- The value of an option. -/
def value? (options : Options) : Valued → Option String
  | .output => options.output
  | .baseDirectory => options.baseDirectory

/-- Set the value of an option. -/
def withValue (options : Options) (value : String) : Valued → Options
  | .output => { options with output := some value }
  | .baseDirectory => { options with baseDirectory := some value }

/-- Store the value of an option, which may occur once and may not be empty. -/
def store (options : Options) (option : Valued) (value : String) : Except Usage Options :=
  if (options.value? option).isSome then .error .repeated
  else if value.isEmpty then .error .invalidValue
  else .ok (options.withValue value option)

/-- Turn on a switch, which may occur once. The switch for help ends the reading. -/
def turnOn (options : Options) : Switch → Except Usage Options
  | .verbose => if options.verbose then .error .repeated else .ok { options with verbose := true }
  | .version => if options.version then .error .repeated else .ok { options with version := true }
  | .help => .error .help

end Options

/-- How far the arguments are read: the options stored so far, and an option that is not stored yet
with its value, if that is known. -/
structure Reading where
  options : Options
  pending : Option (Valued × Option String)
  deriving Repr, DecidableEq, Inhabited

namespace Reading

/-- Store the option that is not stored yet. -/
def settle (r : Reading) : Except Usage Options :=
  match r.pending with
  | none => .ok r.options
  | some (_, none) => .error .invalidValue
  | some (option, some value) => r.options.store option value

/-- Read an option with the value in its own argument. -/
def attached (r : Reading) (option : Valued) (value : String) : Except Usage Reading := do
  let options ← r.settle
  .ok ⟨← options.store option value, none⟩

/-- Read an option whose value is the next argument. -/
def detached (r : Reading) (option : Valued) : Except Usage Reading := do
  .ok ⟨← r.settle, some (option, none)⟩

/-- Read a switch. -/
def switch (r : Reading) (option : Switch) : Except Usage Reading := do
  let options ← r.settle
  .ok ⟨← options.turnOn option, none⟩

/-- Read a long option: its name, and the value after an equals sign. -/
def long (r : Reading) (name : String) (value : Option String) : Except Usage Reading :=
  match Opt.ofName? name, value with
  | none, _ => .error .unknownArgument
  | some (.valued option), some value => r.attached option value
  | some (.valued option), none => r.detached option
  | some (.switch _), some _ => .error .tooManyValues
  | some (.switch option), none => r.switch option

/-- Drop the equals sign in front of a value. -/
def dropEquals : List Char → List Char
  | '=' :: rest => rest
  | cs => cs

/-- Read letters: switches, the last of which may be an option with a value. What follows the
option in the same argument is the value. -/
def letters (r : Reading) : List Char → Except Usage Reading
  | [] => .ok r
  | c :: rest =>
      match Opt.ofLetter? c with
      | none => .error .unknownArgument
      | some (.switch option) => do
          let r ← r.switch option
          letters r rest
      | some (.valued option) =>
          if rest.isEmpty then r.detached option
          else r.attached option (String.ofList (dropEquals rest))

/-- Read the positional argument. -/
def positional (r : Reading) (argument : String) : Except Usage Reading :=
  if r.options.config.isSome then .error .unknownArgument
  else do
    let options ← r.settle
    .ok ⟨{ options with config := some argument }, none⟩

/-- Read an argument that is no option: the value that is awaited, or the positional argument. -/
def plain (r : Reading) (argument : String) : Except Usage Reading :=
  match r.pending with
  | some (option, none) => .ok { r with pending := some (option, some argument) }
  | _ => r.positional argument

/-- Read an argument that stands before a double dash. -/
def step (r : Reading) (argument : String) : Except Usage Reading :=
  match argument.toList with
  | '-' :: '-' :: rest =>
      match Text.cutFirst? '=' rest with
      | none => r.long (String.ofList rest) none
      | some (name, value) => r.long (String.ofList name) (some (String.ofList value))
  | '-' :: c :: rest => r.letters (c :: rest)
  | _ => r.plain argument

/-- Read arguments. After a double dash all of them are positional. -/
def run (r : Reading) : List String → Except Usage Reading
  | [] => .ok r
  | argument :: rest =>
      if argument = "--" then rest.foldlM positional r
      else do
        let r ← r.step argument
        run r rest

end Reading

/-- Read the arguments of the command (`Args::parse`). -/
def Options.ofArguments (arguments : List String) : Except Usage Options := do
  let r ← Reading.run ⟨.none, Option.none⟩ arguments
  r.settle

end Widgetry.Command
