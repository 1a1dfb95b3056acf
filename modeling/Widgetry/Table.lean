/-!
# Ordered tables

A table is an association list in increasing order of its keys, which are texts compared by code
points; each key occurs once. `insert` and `erase` keep this order.
-/

namespace Widgetry.Table

variable {α : Type}

/-- Set the value of a key, keeping the order. -/
def insert (key : String) (value : α) : List (String × α) → List (String × α)
  | [] => [(key, value)]
  | (k, v) :: rest =>
      if key < k then (key, value) :: (k, v) :: rest
      else if key = k then (key, value) :: rest
      else (k, v) :: insert key value rest

/-- The value of a key. -/
def get? (key : String) : List (String × α) → Option α
  | [] => none
  | (k, v) :: rest => if key = k then some v else get? key rest

/-- Remove a key. -/
def erase (key : String) : List (String × α) → List (String × α)
  | [] => []
  | (k, v) :: rest => if key = k then rest else (k, v) :: erase key rest

/-- The key has a value. -/
def contains (key : String) (entries : List (String × α)) : Bool :=
  (get? key entries).isSome

/-- The table of a list of entries; of equal keys the last one wins. -/
def ofList (entries : List (String × α)) : List (String × α) :=
  entries.foldl (fun table (k, v) => insert k v table) []

end Widgetry.Table
