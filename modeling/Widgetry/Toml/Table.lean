import Widgetry.Datum

/-!
# Tables of a TOML document

A document fills its tables bit by bit. A table remembers how it came about: implicitly, as a part
of the path to another one, or by the dots of a key. No key is defined twice, a table has at most
one header, and dotted keys extend only tables that dotted keys have made.
-/

namespace Widgetry.Toml

/-- What a key stands for: a value, a table, or the tables that repeated headers have made. -/
inductive Item where
  | value (datum : Datum)
  | table (isImplicit isDotted : Bool) (entries : List (String × Item))
  | tables (elements : List (List (String × Item)))
  deriving Inhabited

/-- The entries of a table in the order of the text. -/
abbrev Entries := List (String × Item)

namespace Entries

/-- The item of a key. -/
def get? (entries : Entries) (key : String) : Option Item :=
  List.lookup key entries

/-- Replace the item of a key, or add it at the end. -/
def set (key : String) (item : Item) : Entries → Entries
  | [] => [(key, item)]
  | (name, old) :: rest =>
      if name = key then (key, item) :: rest else (name, old) :: set key item rest

/-- Remove a key. -/
def erase (key : String) (entries : Entries) : Entries :=
  entries.filter fun (name, _) => name ≠ key

/-- Change the table at a path. Tables that are missing on the way are made implicitly, and of
repeated tables the last one is meant. Dotted keys may pass implicit tables only. `f` also gets to
know whether dotted keys have made the table. -/
def changeAt {α : Type} (f : Bool → Entries → Option (Entries × α)) (byDots : Bool) :
    (path : List String) → (isDotted : Bool) → Entries → Option (Entries × α)
  | [], isDotted, entries => f isDotted entries
  | key :: path, _, entries =>
      match entries.get? key with
      | none => do
          let (inner, x) ← changeAt f byDots path byDots []
          some (entries ++ [(key, .table true byDots inner)], x)
      | some (.value _) => none
      | some (.table isImplicit isDotted inner) =>
          if byDots && !isImplicit then none
          else do
            let (inner, x) ← changeAt f byDots path isDotted inner
            some (entries.set key (.table isImplicit isDotted inner), x)
      | some (.tables elements) =>
          match elements.getLast? with
          | none => none
          | some last => do
              let (last, x) ← changeAt f byDots path false last
              some (entries.set key (.tables (elements.dropLast ++ [last])), x)

/-- Define a key in a table. Its path and the table must agree on whether there are dots. -/
def define (path : List String) (key : String) (datum : Datum) (entries : Entries) :
    Option Entries := do
  let add (isDotted : Bool) (entries : Entries) : Option (Entries × Unit) :=
    if isDotted = path.isEmpty || (entries.get? key).isSome then none
    else some (entries ++ [(key, .value datum)], ())
  let (entries, _) ← changeAt add true path false entries
  some entries

/-- Define a key given by all its parts. -/
def defineKey (parts : List String) (datum : Datum) (entries : Entries) : Option Entries :=
  match parts.getLast? with
  | some key => define parts.dropLast key datum entries
  | none => none

end Entries

mutual

/-- The data of an item. -/
def Item.datum : Item → Datum
  | .value datum => datum
  | .table _ _ entries => .table (entriesData entries)
  | .tables elements => .list (elementsData elements)

/-- The data of the entries of a table. -/
def entriesData : List (String × Item) → List (String × Datum)
  | [] => []
  | (key, item) :: rest => (key, item.datum) :: entriesData rest

/-- The data of repeated tables. -/
def elementsData : List (List (String × Item)) → List Datum
  | [] => []
  | entries :: rest => .table (entriesData entries) :: elementsData rest

end

/-- A document in the making: the finished tables, and the table that is being filled with the path
of its header. -/
structure Draft where
  root : Entries
  path : List String
  isRepeated : Bool
  current : Entries

namespace Draft

/-- A document without content. -/
def empty : Draft :=
  ⟨[], [], false, []⟩

/-- Put the finished table into its place. -/
def place (draft : Draft) (key : String) (parent : Entries) : Option (Entries × Unit) :=
  if draft.isRepeated then
    match parent.get? key with
    | none => some (parent ++ [(key, .tables [draft.current])], ())
    | some (.tables elements) =>
        some (parent.set key (.tables (elements ++ [draft.current])), ())
    | _ => none
  else
    match parent.get? key with
    | none => some (parent ++ [(key, .table false false draft.current)], ())
    | some (.table true _ _) => some (parent.set key (.table false false draft.current), ())
    | _ => none

/-- Finish the table that is being filled. -/
def finish (draft : Draft) : Option Entries :=
  match draft.path.getLast? with
  | none => some draft.current
  | some key => do
      let (root, _) ← Entries.changeAt (fun _ => draft.place key) false draft.path.dropLast false
        draft.root
      some root

/-- Take over the entries of a table that so far is only implicit. -/
def takeOver (key : String) (parent : Entries) : Option (Entries × Entries) :=
  match parent.get? key with
  | none => some (parent, [])
  | some (.table true false inner) => some (parent.erase key, inner)
  | _ => none

/-- Make room for another of several tables. -/
def makeRoom (key : String) (parent : Entries) : Option (Entries × Unit) :=
  match parent.get? key with
  | none => some (parent ++ [(key, .tables [])], ())
  | some (.tables _) => some (parent, ())
  | _ => none

/-- Start the table of a header. -/
def startTable (draft : Draft) (path : List String) : Option Draft := do
  let root ← draft.finish
  let key ← path.getLast?
  let (root, current) ← Entries.changeAt (fun _ => takeOver key) false path.dropLast false root
  some ⟨root, path, false, current⟩

/-- Start the table of a header that may be repeated. -/
def startRepeated (draft : Draft) (path : List String) : Option Draft := do
  let root ← draft.finish
  let key ← path.getLast?
  let (root, _) ← Entries.changeAt (fun _ => makeRoom key) false path.dropLast false root
  some ⟨root, path, true, []⟩

/-- Define a key in the table that is being filled. -/
def define (draft : Draft) (parts : List String) (datum : Datum) : Option Draft := do
  let current ← draft.current.defineKey parts datum
  some { draft with current := current }

/-- The data of the whole document. -/
def datum (draft : Draft) : Option Datum := do
  let root ← draft.finish
  some (.table (entriesData root))

end Draft

end Widgetry.Toml
