import Widgetry.Json.Reader

/-!
# Lexical elements of TOML

Blanks, line ends and comments, the four kinds of strings, and keys. Every reader takes the
characters that remain and gives what it has read with the characters after it.
-/

namespace Widgetry.Toml

/-- A blank within a line. -/
def isBlank (c : Char) : Bool :=
  c = ' ' || c = '\t'

/-- A character of a line: a tab or no control character. -/
def isText (c : Char) : Bool :=
  c = '\t' || (0x20 ≤ c.toNat && c.toNat ≠ 0x7F)

/-- Drop blanks. -/
def skipBlanks (cs : List Char) : List Char :=
  cs.dropWhile isBlank

/-- Read a line end. -/
def newline? : List Char → Option (List Char)
  | '\n' :: rest => some rest
  | '\r' :: '\n' :: rest => some rest
  | _ => none

/-- Drop a comment. -/
def skipComment : List Char → List Char
  | '#' :: rest => rest.dropWhile isText
  | cs => cs

/-- Read the end of a line: blanks, a comment, and a line end unless the text ends. -/
def lineEnd? (cs : List Char) : Option (List Char) :=
  match skipComment (skipBlanks cs) with
  | [] => some []
  | cs => newline? cs

/-- Drop blanks, comments and line ends. -/
def skipLines : (fuel : Nat) → List Char → List Char
  | 0, cs => cs
  | fuel + 1, cs =>
      match newline? (skipComment (skipBlanks cs)) with
      | some rest => skipLines fuel rest
      | none => skipBlanks cs

/-- Drop blanks and line ends. -/
def skipSpace : (fuel : Nat) → List Char → List Char
  | 0, cs => cs
  | fuel + 1, cs =>
      match newline? (skipBlanks cs) with
      | some rest => skipSpace fuel rest
      | none => skipBlanks cs

/-! ## Strings -/

/-- The character that a one-letter escape stands for. -/
def escape? (c : Char) : Option Char :=
  if c = '/' then none else Json.escape? c

/-- The character with a code point written in hexadecimal. -/
def charOf? (digits : List Char) : Option Char := do
  let values ← digits.mapM Json.hexValue?
  let n := values.foldl (fun n d => 16 * n + d) 0
  if n.isValidChar then some (Char.ofNat n) else none

/-- Read an escape after its backslash. -/
def escaped? : List Char → Option (Char × List Char)
  | 'u' :: rest =>
      if rest.length < 4 then none
      else (charOf? (rest.take 4)).map fun c => (c, rest.drop 4)
  | 'U' :: rest =>
      if rest.length < 8 then none
      else (charOf? (rest.take 8)).map fun c => (c, rest.drop 8)
  | c :: rest => (escape? c).map fun c => (c, rest)
  | [] => none

/-- Read a string of one line up to and including its closing quote. In a basic string a backslash
starts an escape. -/
def line? (quote : Char) (isBasic : Bool) :
    (fuel : Nat) → List Char → Option (List Char × List Char)
  | 0, _ => none
  | _ + 1, [] => none
  | fuel + 1, c :: rest =>
      if c = quote then some ([], rest)
      else if c = '\\' && isBasic then do
        let (c, rest) ← escaped? rest
        let (cs, rest) ← line? quote isBasic fuel rest
        some (c :: cs, rest)
      else if isText c then do
        let (cs, rest) ← line? quote isBasic fuel rest
        some (c :: cs, rest)
      else none

/-- Read a string of several lines up to and including its closing quotes. One or two quotes are
part of the text; of up to five at its end the last three close it. In a basic string a backslash at
the end of a line drops the blanks and line ends that follow. -/
def lines? (quote : Char) (isBasic : Bool) :
    (fuel : Nat) → List Char → Option (List Char × List Char)
  | 0, _ => none
  | _ + 1, [] => none
  | fuel + 1, c :: rest =>
      if c = quote then
        let run := (c :: rest).takeWhile (· = quote)
        let after := (c :: rest).dropWhile (· = quote)
        if run.length < 3 then do
          let (cs, rest) ← lines? quote isBasic fuel after
          some (run ++ cs, rest)
        else if run.length ≤ 5 then some (run.drop 3, after)
        else none
      else if c = '\\' && isBasic then
        match newline? (skipBlanks rest) with
        | some rest => lines? quote isBasic fuel (skipSpace rest.length rest)
        | none => do
            let (c, rest) ← escaped? rest
            let (cs, rest) ← lines? quote isBasic fuel rest
            some (c :: cs, rest)
      else if isText c then do
        let (cs, rest) ← lines? quote isBasic fuel rest
        some (c :: cs, rest)
      else
        match newline? (c :: rest) with
        | some rest => do
            let (cs, rest) ← lines? quote isBasic fuel rest
            some ('\n' :: cs, rest)
        | none => none

/-- Read a string from its opening quote on. A line end right after three opening quotes is
dropped. -/
def string? : List Char → Option (List Char × List Char)
  | '"' :: '"' :: '"' :: rest =>
      lines? '"' true (rest.length + 1) ((newline? rest).getD rest)
  | '\'' :: '\'' :: '\'' :: rest =>
      lines? '\'' false (rest.length + 1) ((newline? rest).getD rest)
  | '"' :: rest => line? '"' true (rest.length + 1) rest
  | '\'' :: rest => line? '\'' false (rest.length + 1) rest
  | _ => none

/-! ## Keys -/

/-- A character of a bare key. -/
def isBare (c : Char) : Bool :=
  c.isAlphanum || c = '_' || c = '-'

/-- Read a part of a key: a quoted string of one line or a bare word. -/
def simpleKey? : List Char → Option (String × List Char)
  | '"' :: rest =>
      (line? '"' true (rest.length + 1) rest).map fun (cs, rest) => (String.ofList cs, rest)
  | '\'' :: rest =>
      (line? '\'' false (rest.length + 1) rest).map fun (cs, rest) => (String.ofList cs, rest)
  | cs =>
      match cs.takeWhile isBare with
      | [] => none
      | word => some (String.ofList word, cs.dropWhile isBare)

/-- Nesting and keys stay below this depth. -/
def maxDepth : Nat := 80

/-- Read the parts of a key with the dots between them. -/
def keyParts? : (fuel : Nat) → List Char → Option (List String × List Char)
  | 0, _ => none
  | fuel + 1, cs => do
      let (part, rest) ← simpleKey? (skipBlanks cs)
      match skipBlanks rest with
      | '.' :: rest => do
          let (parts, rest) ← keyParts? fuel rest
          some (part :: parts, rest)
      | rest => some ([part], rest)

/-- Read a key, which has at least one part. -/
def key? (cs : List Char) : Option (List String × List Char) := do
  let (parts, rest) ← keyParts? (cs.length + 1) cs
  if parts.length < maxDepth then some (parts, rest) else none

end Widgetry.Toml
