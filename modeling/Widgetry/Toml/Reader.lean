import Widgetry.Toml.Scalar
import Widgetry.Toml.Table

/-!
# Reading TOML text

`read?` gives the data of a whole TOML document. The entries of tables stand in the order of the
text.
-/

namespace Widgetry.Toml

/-- Read a fixed word. -/
def word? (word : List Char) (datum : Datum) (cs : List Char) : Option (Datum × List Char) :=
  if word.isPrefixOf cs then some (datum, cs.drop word.length) else none

mutual

/-- Read a value; `depth` counts the containers around it, and `fuel` bounds the recursion. -/
def value? : (fuel depth : Nat) → List Char → Option (Datum × List Char)
  | 0, _, _ => none
  | fuel + 1, depth, cs =>
      match cs with
      | [] => none
      | c :: rest =>
          if c = '"' || c = '\'' then
            (string? (c :: rest)).map fun (text, rest) => (.string (String.ofList text), rest)
          else if c = '[' then
            if depth + 1 < maxDepth then
              (items? fuel (depth + 1) rest).map fun (items, rest) => (.list items, rest)
            else none
          else if c = '{' then
            if depth + 1 < maxDepth then do
              let (entries, rest) ← match skipBlanks rest with
                | '}' :: rest => some ([], rest)
                | rest => entries? fuel (depth + 1) [] rest
              some (.table (entriesData entries), rest)
            else none
          else if c = 't' then word? "true".toList (.bool true) (c :: rest)
          else if c = 'f' then word? "false".toList (.bool false) (c :: rest)
          else numberOrDate? (c :: rest)

/-- Read the items of an array up to and including its closing bracket. A comma may follow the
last one. -/
def items? : (fuel depth : Nat) → List Char → Option (List Datum × List Char)
  | 0, _, _ => none
  | fuel + 1, depth, cs =>
      match skipLines cs.length cs with
      | ']' :: rest => some ([], rest)
      | cs => do
          let (item, rest) ← value? fuel depth cs
          match skipLines rest.length rest with
          | ',' :: rest => do
              let (items, rest) ← items? fuel depth rest
              some (item :: items, rest)
          | ']' :: rest => some ([item], rest)
          | _ => none

/-- Read the entries of an inline table up to and including its closing brace. -/
def entries? : (fuel depth : Nat) → Entries → List Char → Option (Entries × List Char)
  | 0, _, _, _ => none
  | fuel + 1, depth, entries, cs => do
      let (parts, rest) ← key? cs
      let rest ← char? '=' rest
      let (datum, rest) ← value? fuel depth (skipBlanks rest)
      let entries ← entries.defineKey parts datum
      match skipBlanks rest with
      | ',' :: rest => entries? fuel depth entries rest
      | '}' :: rest => some (entries, rest)
      | _ => none

end

/-- Read the rest of a header and start its table. -/
def header? (draft : Draft) : List Char → Option (Draft × List Char)
  | '[' :: rest => do
      let (path, rest) ← key? rest
      let rest ← (char? ']' rest).bind (char? ']')
      let draft ← draft.startRepeated path
      some (draft, rest)
  | cs => do
      let (path, rest) ← key? cs
      let rest ← char? ']' rest
      let draft ← draft.startTable path
      some (draft, rest)

/-- Read a key and its value. -/
def definition? (draft : Draft) (cs : List Char) : Option (Draft × List Char) := do
  let (parts, rest) ← key? cs
  let rest ← char? '=' rest
  let (datum, rest) ← value? (2 * rest.length + 2) 0 (skipBlanks rest)
  let draft ← draft.define parts datum
  some (draft, rest)

/-- Read the lines of a document. -/
def document? : (fuel : Nat) → Draft → List Char → Option Draft
  | 0, _, _ => none
  | fuel + 1, draft, cs =>
      match skipBlanks cs with
      | [] => some draft
      | '[' :: rest => do
          let (draft, rest) ← header? draft rest
          document? fuel draft (← lineEnd? rest)
      | c :: rest =>
          if c = '#' || c = '\n' || c = '\r' then do
            document? fuel draft (← lineEnd? (c :: rest))
          else do
            let (draft, rest) ← definition? draft (c :: rest)
            document? fuel draft (← lineEnd? rest)

/-- Drop a byte order mark. -/
def skipMark : List Char → List Char
  | '\ufeff' :: rest => rest
  | cs => cs

/-- The data of a document. -/
def read? (text : String) : Option Datum := do
  let cs := skipMark text.toList
  let draft ← document? (cs.length + 1) .empty cs
  draft.datum

end Widgetry.Toml
