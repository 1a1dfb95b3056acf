import Widgetry.Fetch.Host
import Widgetry.Text.Basic

/-!
# Absolute URLs

A URL starts with a scheme. Only what decides about its fetch is read of it: of a file its host and
the segments of its path, of any other URL its scheme, provided that its authority is in order. A
text that is no absolute URL has no reading.
-/

namespace Widgetry

/-- An absolute URL: a file on this machine or on another host, or something else. -/
inductive Url where
  | file (host : Option (List Char)) (segments : List (List Char))
  | other (scheme : String)
  deriving Repr, DecidableEq, Inhabited

namespace Url

/-- The character is passed over at the ends of a URL. -/
def isMargin (c : Char) : Bool :=
  c.toNat ≤ 0x20

/-- The character is passed over anywhere in a URL. -/
def isBreak (c : Char) : Bool :=
  c == '\t' || c == '\n' || c == '\r'

/-- A text without the characters that are passed over at its ends. -/
def withoutMargins (s : String) : List Char :=
  Text.dropEndWhile isMargin (s.toList.dropWhile isMargin)

/-- A text without the characters that are passed over anywhere. -/
def withoutBreaks (cs : List Char) : List Char :=
  cs.filter fun c => !isBreak c

/-- The character may stand in a scheme. -/
def isSchemeChar (c : Char) : Bool :=
  c.isAlphanum || c == '+' || c == '-' || c == '.'

/-- Cut off the scheme, in lower case. -/
def cutScheme? (cs : List Char) : Option (String × List Char) :=
  match Text.cutFirst? ':' cs with
  | none => none
  | some (scheme, rest) =>
      let scheme := withoutBreaks scheme
      if scheme.head?.any Char.isAlpha && scheme.all isSchemeChar then
        some (String.ofList (scheme.map Char.toLower), rest)
      else none

/-- The schemes of the web, whose URLs always have a host. -/
def specialSchemes : List String := ["http", "https", "ws", "wss", "ftp"]

/-- The character divides segments of a path. -/
def isDivider (special : Bool) (c : Char) : Bool :=
  c == '/' || (special && c == '\\')

/-- The character ends the authority of a URL. -/
def endsAuthority (special : Bool) (c : Char) : Bool :=
  isDivider special c || c == '?' || c == '#'

/-- The number of characters before the colon that ends the host. Colons in brackets do not
count. -/
def hostLength : (bracketed : Bool) → List Char → Nat
  | _, [] => 0
  | bracketed, c :: rest =>
      if c == ':' && !bracketed then 0
      else hostLength (if c == '[' then true else if c == ']' then false else bracketed) rest + 1

/-- The largest number of an endpoint. -/
def maxEndpoint : Nat := 65535

/-- The text after the colon numbers an endpoint of the host. It may be empty, and a backslash ends
it. -/
def isEndpoint (cs : List Char) : Bool :=
  (Text.readDigits 0 (cs.takeWhile (· ≠ '\\'))).any (· ≤ maxEndpoint)

/-- A host, with the number of an endpoint after a colon if there is one, is in order. Only other
schemes admit an empty host, and only without colon and without credentials. -/
def isHost (special credentials : Bool) (cs : List Char) : Bool :=
  let host := cs.take (hostLength false cs)
  let endpoint := cs.drop host.length
  (if host.isEmpty then !special && !credentials && endpoint.isEmpty
    else Host.isValid special host) && isEndpoint (endpoint.drop 1)

/-- The authority at the head of a text is in order: credentials up to the last `@`, then the
host. -/
def isAuthority (special : Bool) (cs : List Char) : Bool :=
  let authority := cs.takeWhile fun c => !endsAuthority special c
  match Text.cutLast? '@' authority with
  | none => isHost special false authority
  -- An `@` alone stands for an empty host, but only at the end of the text.
  | some ([], []) => authority.length == cs.length && isHost special false []
  | some (credentials, host) =>
      isHost special (!credentials.isEmpty && credentials != [':']) host

/-- The segment is a drive letter. -/
def isDrive : List Char → Bool
  | [letter, mark] => letter.isAlpha && (mark == ':' || mark == '|')
  | _ => false

/-- The segment stands for the directory itself. -/
def isDot (segment : List Char) : Bool :=
  [".", "%2e"].contains (Text.lower (String.ofList segment))

/-- The segment stands for the directory above. -/
def isDoubleDot (segment : List Char) : Bool :=
  ["..", ".%2e", "%2e.", "%2e%2e"].contains (Text.lower (String.ofList segment))

/-- The drive letter with a colon that is cut off from the characters after it by a break. -/
def cutDrive? (cs : List Char) : Option (List Char × List Char) :=
  match cs.dropWhile isBreak with
  | [] => none
  | letter :: rest =>
      match rest.dropWhile isBreak with
      | ':' :: mark :: more =>
          let remainder := withoutBreaks more
          if letter.isAlpha && isBreak mark && !remainder.isEmpty then
            some ([letter, ':'], remainder)
          else none
      | _ => none

/-- The segments of a path that have been taken, and whether they start with a drive. -/
structure Route where
  segments : List (List Char)
  onDrive : Bool

namespace Route

/-- No segments. -/
def empty : Route :=
  ⟨[], false⟩

/-- Go up from the last of the segments; a drive stays. -/
def up (route : Route) : Route :=
  if route.segments.getLast?.any isDrive then route
  else { route with segments := route.segments.dropLast }

/-- Add a segment. A drive letter in front is spelled with a colon. -/
def add (route : Route) (segment : List Char) : Route :=
  if route.segments.isEmpty && isDrive segment then ⟨[segment.take 1 ++ [':']], true⟩
  else { route with segments := route.segments ++ [segment] }

/-- Follow a segment as it is written. Dots are resolved. A drive letter that a break cuts off is a
segment of its own. -/
def follow (route : Route) (written : List Char) : Route :=
  let segment := withoutBreaks written
  match cutDrive? written with
  | some (drive, rest) =>
      if route.segments.isEmpty then { route with segments := [drive, rest] }
      else route.add segment
  | none =>
      if isDoubleDot segment then route.up
      else if isDot segment then route
      else route.add segment

/-- Follow the last segment of a path. A path that ends in dots ends in an empty segment. -/
def finish (route : Route) (written : List Char) : Route :=
  let segment := withoutBreaks written
  let last := route.follow written
  if isDoubleDot segment || isDot segment then
    { last with segments := last.segments ++ [[]] }
  else last

/-- Follow the segments of a path to its end. -/
def followAll : Route → List (List Char) → Route
  | route, [] => route
  | route, [last] => route.finish last
  | route, segment :: rest => followAll (route.follow segment) rest

/-- The route of the path of a file. The first divider only leads the path. -/
def ofPath (cs : List Char) : Route :=
  let path := cs.takeWhile fun c => c ≠ '?' && c ≠ '#'
  empty.followAll (match Text.pieces (isDivider true) path with
    | lead :: first :: more =>
        if (withoutBreaks lead).isEmpty then first :: more else lead :: first :: more
    | segments => segments)

/-- The segments of a path, without empty ones in front. -/
def path (route : Route) : List (List Char) :=
  match route.segments.dropWhile List.isEmpty with
  | [] => [[]]
  | segments => segments

end Route

/-- A file with the given path on a host. A path on a drive is always on this machine. -/
def ofFile (host : Option (List Char)) (path : List Char) : Url :=
  let route := Route.ofPath path
  .file (if route.onDrive then none else host) route.path

/-- The name of this machine. -/
def thisHost : List Char := "localhost".toList

/-- Cut off a divider at the head of a text. -/
def cutDivider? (cs : List Char) : Option (List Char) :=
  match cs.dropWhile isBreak with
  | c :: rest => if isDivider true c then some rest else none
  | [] => none

/-- Read a file URL after its scheme. After two slashes there is a host, which may be empty. -/
def readFile? (cs : List Char) : Option Url :=
  match (cutDivider? cs).bind cutDivider? with
  | none => some (ofFile none cs)
  | some rest =>
      let written := rest.takeWhile fun c => !endsAuthority true c
      let path := rest.drop written.length
      let host := withoutBreaks written
      -- A drive letter in place of the host begins the path.
      if isDrive host then some (ofFile none rest)
      else if host.isEmpty then some (ofFile none path)
      else
        match Host.name? host with
        | none => none
        | some name => some (ofFile (if name = thisHost then none else some name) path)

/-- Read a text as an absolute URL. -/
def read? (s : String) : Option Url := do
  let (scheme, rest) ← cutScheme? (withoutMargins s)
  if scheme = "file" then readFile? rest
  else if specialSchemes.contains scheme then
    -- Any number of slashes may stand before the authority, also none.
    if isAuthority true ((withoutBreaks rest).dropWhile (isDivider true)) then some (.other scheme)
    else none
  else
    match withoutBreaks rest with
    | '/' :: '/' :: rest => if isAuthority false rest then some (.other scheme) else none
    | _ => some (.other scheme)

/-- The bytes end in a drive letter after some other byte. -/
def endsInDrive (bytes : Text.Bytes) : Bool :=
  2 < bytes.length &&
    isDrive ((bytes.drop (bytes.length - 2)).map fun byte => Char.ofNat byte.toNat)

/-- The path that the segments of a file URL stand for. A drive letter at its end is followed by a
slash. -/
def filePath (segments : List (List Char)) : Text.Bytes :=
  let bytes := segments.flatMap fun segment => 0x2F :: Text.Percent.decode segment
  if endsInDrive bytes then bytes ++ [0x2F] else bytes

end Url

end Widgetry
