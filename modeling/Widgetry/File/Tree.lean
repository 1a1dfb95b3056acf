import Widgetry.File.Path
import Widgetry.Table
import Widgetry.Text.Utf8

/-!
# Files

A file tree has directories and files. A place in it is the list of the names that lead there from
the root. A path is followed piece by piece from the root or from the current directory; reading and
writing at a path fail for the reason of the first piece that cannot be followed. Names are texts,
but paths are bytes: a piece that is no text names nothing.
-/

namespace Widgetry

/-- Why a file cannot be read or written. -/
inductive FileFault where
  | notFound
  | notDirectory
  | isDirectory
  | nameTooLong
  | nulInName
  | notText
  | other (text : String)
  deriving Repr, DecidableEq, Inhabited

/-- The wording of a fault. -/
def FileFault.message : FileFault → String
  | .notFound => "No such file or directory (os error 2)"
  | .notDirectory => "Not a directory (os error 20)"
  | .isDirectory => "Is a directory (os error 21)"
  | .nameTooLong => "File name too long (os error 36)"
  | .nulInName => "file name contained an unexpected NUL byte"
  | .notText => "stream did not contain valid UTF-8"
  | .other text => text

/-- Read bytes as a text. -/
def FileFault.textOf (bytes : Text.Bytes) : Except FileFault String :=
  (Text.Utf8.decode bytes).mapError fun _ => .notText

/-- A file, or a directory with its entries by name. -/
inductive FileTree where
  | file (bytes : Text.Bytes)
  | directory (entries : List (String × FileTree))
  deriving Inhabited

namespace FileTree

/-- The empty directory. -/
def empty : FileTree :=
  .directory []

/-- What stands at a place. -/
def get? : List String → FileTree → Option FileTree
  | [], tree => some tree
  | _ :: _, .file _ => none
  | name :: rest, .directory entries => (Table.get? name entries).bind (get? rest)

/-- Put a tree at a place; missing directories on the way are made. Nothing is put below a file. -/
def put : List String → (tree new : FileTree) → FileTree
  | [], _, new => new
  | _ :: _, .file bytes, _ => .file bytes
  | name :: rest, .directory entries, new =>
      .directory (Table.insert name (put rest ((Table.get? name entries).getD empty) new) entries)

/-- The names in a path, without its fillers. -/
def placeOf (path : String) : List String :=
  (Path.pieces path).filter fun piece => !Path.isFiller piece.toList

/-- The tree with the given files below a place. A path that ends in a slash is a directory. -/
def ofFiles (place : List String) (files : List (String × Text.Bytes)) : FileTree :=
  files.foldl (fun root (path, bytes) =>
    root.put (place ++ placeOf path)
      (if path.toList.getLast? = some '/' then empty else .file bytes)) (empty.put place empty)

/-- The most bytes of a name. -/
def maxName : Nat := 255

/-- The most bytes of a path. -/
def maxPath : Nat := 4095

/-- The entries of the directory at a place. -/
def entriesAt (root : FileTree) (place : List String) :
    Except FileFault (List (String × FileTree)) :=
  match root.get? place with
  | none => .error .notFound
  | some (.file _) => .error .notDirectory
  | some (.directory entries) => .ok entries

/-- Follow one piece of a path from a place. -/
def step (root : FileTree) (place : List String) (piece : Text.Bytes) :
    Except FileFault (List String) := do
  let entries ← root.entriesAt place
  let name := (Text.Utf8.decode piece).toOption
  if name = some "" ∨ name = some "." then .ok place
  else if name = some ".." then .ok place.dropLast
  else if maxName < piece.length then .error .nameTooLong
  else
    match name.filter (Table.contains · entries) with
    | some name => .ok (place ++ [name])
    | none => .error .notFound

/-- Follow pieces from a place. -/
def walk (root : FileTree) (place : List String) (pieces : List Text.Bytes) :
    Except FileFault (List String) :=
  pieces.foldlM root.step place

end FileTree

/-- A file tree and the place of the current directory in it. -/
structure FileSystem where
  root : FileTree
  current : List String
  deriving Inhabited

namespace FileSystem

/-- The byte of a slash. -/
def slash : UInt8 := 0x2F

/-- Check a path. -/
def checkPath (path : Text.Bytes) : Except FileFault Unit :=
  if path.contains 0 then .error .nulInName
  else if path.isEmpty then .error .notFound
  else if FileTree.maxPath < path.length then .error .nameTooLong
  else .ok ()

/-- The place from which a path is followed. -/
def start (fs : FileSystem) (path : Text.Bytes) : List String :=
  if path.head? = some slash then [] else fs.current

/-- The bytes of the file at a path. -/
def read (fs : FileSystem) (path : Text.Bytes) : Except FileFault Text.Bytes := do
  checkPath path
  let place ← fs.root.walk (fs.start path) (Text.pieces (· == slash) path)
  match fs.root.get? place with
  | some (.file bytes) => .ok bytes
  | some (.directory _) => .error .isDirectory
  | none => .error .notFound

/-- The text of the file at a path. -/
def readText (fs : FileSystem) (path : String) : Except FileFault String := do
  FileFault.textOf (← fs.read (Text.Utf8.encode path))

/-- Write a file at a path, in place of the one that may be there. The directory must exist, and
the path must end in the name of the file. -/
def write (fs : FileSystem) (path : String) (bytes : Text.Bytes) : Except FileFault FileSystem := do
  checkPath (Text.Utf8.encode path)
  let pieces := Path.pieces path
  let name := pieces.getLast?.getD ""
  let names := (Text.dropEndWhile String.isEmpty pieces).dropLast
  let place ← fs.root.walk (fs.start (Text.Utf8.encode path)) (names.map Text.Utf8.encode)
  let _ ← fs.root.entriesAt place
  if name.isEmpty then .error .isDirectory
  else
    let target ← match fs.root.step place (Text.Utf8.encode name) with
      | .error .notFound => .ok (place ++ [name])
      | outcome => outcome
    match fs.root.get? target with
    | some (.directory _) => .error .isDirectory
    | _ => .ok { fs with root := fs.root.put target (.file bytes) }

end FileSystem

end Widgetry
