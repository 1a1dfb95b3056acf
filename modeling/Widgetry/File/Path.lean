import Widgetry.Text.Basic

/-!
# Paths

A path is a text whose names are divided by slashes. Empty pieces and single dots name nothing,
except that a dot may lead a relative path. Cutting a path keeps the spelling of what remains.
-/

namespace Widgetry.Path

/-- The path starts at the root. -/
def isAbsolute (path : String) : Bool :=
  path.toList.head? == some '/'

/-- The path `path` seen from the directory `base`. -/
def join (base path : String) : String :=
  if isAbsolute path || base.isEmpty then path
  else if base.toList.getLast? == some '/' then base ++ path
  else base ++ "/" ++ path

/-- The pieces of a path between its slashes. -/
def pieces (path : String) : List String :=
  (Text.pieces (· == '/') path.toList).map String.ofList

/-- Cut off what leads a path without being one of its names: the slash of the root, or a dot. -/
def cutLead : List Char → List Char × List Char
  | '/' :: rest => (['/'], rest)
  | ['.'] => (['.'], [])
  | '.' :: '/' :: rest => (['.'], '/' :: rest)
  | cs => ([], cs)

/-- The piece names nothing. -/
def isFiller (piece : List Char) : Bool :=
  piece.isEmpty || piece == ['.']

/-- The pieces of a path after its lead, up to its last name. -/
def body (rest : List Char) : List (List Char) :=
  Text.dropEndWhile isFiller (Text.pieces (· == '/') rest)

/-- The path without its last name. The root and the empty path have no parent. -/
def parent? (path : String) : Option String :=
  let (lead, rest) := cutLead path.toList
  match body rest with
  | [] => if lead == ['.'] then some "" else none
  | names =>
      let kept := Text.dropEndWhile isFiller names.dropLast
      some (String.ofList (lead ++ List.intercalate ['/'] kept))

/-- The directory that a path lies in, which is the current one if the path does not say. -/
def directory (path : String) : String :=
  match parent? path with
  | none => "."
  | some dir => if dir.isEmpty then "." else dir

/-- The last name of a path, unless it leads upwards. -/
def fileName? (path : String) : Option (List Char) :=
  (body (cutLead path.toList).2).getLast?.filter fun name => name != ['.', '.']

/-- The part of the last name after its last dot. A dot in front starts no extension. -/
def extension? (path : String) : Option String := do
  let name ← fileName? path
  let (stem, extension) ← Text.cutLast? '.' name
  if stem.isEmpty then none else some (String.ofList extension)

end Widgetry.Path
