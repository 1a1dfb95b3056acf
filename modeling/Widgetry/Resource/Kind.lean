import Widgetry.Text.Basic

/-!
# Content kinds

The content kind of a resource is the media type that the transport reports, without parameters
and in lower case. Where the transport reports nothing usable, the extension of the URL decides.
`Family.support` tells whether a family of media can play a content kind.
-/

namespace Widgetry

namespace ContentKind

/-- The kind of content about which nothing is known. -/
def unknown : String := "application/octet-stream"

/-- The kinds that belong to extensions. -/
def extensions : List (String × String) := [
  ("png", "image/png"), ("jpg", "image/jpeg"), ("jpeg", "image/jpeg"), ("gif", "image/gif"),
  ("webp", "image/webp"), ("avif", "image/avif"), ("bmp", "image/bmp"), ("ico", "image/x-icon"),
  ("svg", "image/svg+xml"), ("mp3", "audio/mpeg"), ("wav", "audio/wav"), ("oga", "audio/ogg"),
  ("flac", "audio/flac"), ("aac", "audio/aac"), ("m4a", "audio/mp4"), ("opus", "audio/opus"),
  ("mp4", "video/mp4"), ("m4v", "video/mp4"), ("webm", "video/webm"), ("ogv", "video/ogg"),
  ("ogg", "video/ogg"), ("mov", "video/quicktime"), ("css", "text/css"),
  ("js", "text/javascript"), ("mjs", "text/javascript"), ("json", "application/json"),
  ("html", "text/html"), ("txt", "text/plain")]

/-- The kind that a reported media type stands for, unless it says nothing. -/
def declared? (type : String) : Option String :=
  let kind := String.ofList ((Text.trimmed (type.toList.takeWhile (· ≠ ';'))).map Char.toLower)
  if kind.isEmpty || kind = unknown then none else some kind

/-- The file name of a URL: what follows the last slash before the query and the fragment. -/
def fileName (url : List Char) : List Char :=
  let path := url.takeWhile fun c => c ≠ '?' && c ≠ '#'
  match Text.cutLast? '/' path with
  | some (_, file) => file
  | none => path

/-- The kind that belongs to the extension of a URL (`sniff_extension`). -/
def ofExtension? (url : String) : Option String :=
  match Text.cutLast? '.' (fileName url.toList) with
  | some (_, extension) => extensions.lookup (String.ofList (extension.map Char.toLower))
  | none => none

/-- The content kind of a resource (`content_kind`). -/
def detect (url : String) (type : Option String) : String :=
  ((type.bind declared?).or (ofExtension? url)).getD unknown

end ContentKind

/-- The families of media (`MediaFamily`). -/
inductive Family where
  | image
  | audio
  | video
  deriving Repr, DecidableEq, Inhabited

/-- Whether a content kind can be played. -/
inductive Playability where
  | probably
  | maybe
  | no
  deriving Repr, DecidableEq, Inhabited

namespace Family

/-- The name of a family. -/
def name : Family → String
  | .image => "image"
  | .audio => "audio"
  | .video => "video"

/-- The kinds that a family plays for certain. -/
def known : Family → List String
  | .image => ["image/png", "image/jpeg", "image/gif", "image/webp", "image/avif", "image/bmp",
      "image/x-icon", "image/svg+xml"]
  | .audio => ["audio/mpeg", "audio/mp3", "audio/wav", "audio/wave", "audio/x-wav", "audio/ogg",
      "audio/opus", "audio/flac", "audio/aac", "audio/mp4", "audio/webm"]
  | .video => ["video/mp4", "video/webm", "video/ogg"]

/-- The kinds that a family may be able to play: the others of its own name, and for audio the
known kinds of video, which often carry sound only. -/
def mayPlay (family : Family) (kind : String) : Bool :=
  (family.name ++ "/").toList.isPrefixOf kind.toList ||
    (family = .audio && Family.video.known.contains kind)

/-- Whether a family plays a content kind (`StaticMediaSupport::can_play`). -/
def support (family : Family) (kind : String) : Playability :=
  let kind := Text.lower (Text.trim kind)
  if family.known.contains kind then .probably
  else if family.mayPlay kind then .maybe
  else .no

end Family

/-- A judgement of content kinds by family (`MediaSupport::can_play`). -/
abbrev MediaSupport := Family → String → Playability

end Widgetry
