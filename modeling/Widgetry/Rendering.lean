import Widgetry.Resource.Loads
import Widgetry.Widget.Draw

/-!
# Rendering

To render a widget, all its media are loaded at once through the session's cache, and the widget is
drawn when they have arrived. The loads are polled in document order, round after round. A failure
is a failed load, or a medium that its family cannot play. It ends the rendering of the widgets
around it, and those of their loads that are still under way are given up.

Where a widget has only a few children, the first failure among them counts at once. The results of
a long row of children are taken in order: a failure counts when everything before it has arrived,
and until then the children after it go on.
-/

namespace Widgetry

/-- A medium that a widget needs. -/
structure MediaRequest where
  family : Family
  source : String
  deriving Repr, DecidableEq, Inhabited

/-- The medium that a frame needs. -/
def Frame.request? : Frame → Option MediaRequest
  | .image source _ => some ⟨.image, source⟩
  | .video source _ => some ⟨.video, source⟩
  | .audio source => some ⟨.audio, source⟩
  | _ => none

/-- How far the media of a widget have come: all have arrived, one has failed, a medium is under
way, or several parts are. -/
inductive Loading where
  | arrived
  | failed (e : Error)
  | medium (client : Client) (request : MediaRequest)
  | row (parts : List Loading)

namespace Widget

mutual

/-- All media of a widget, before any has arrived. Loads are numbered in document order from a
given number on; the answer has the next number. -/
def loading (position : Nat) : Widget → Nat × Loading
  | node frame children =>
      match frame.request? with
      | some request => (position + 1, .medium (Client.awaited position) request)
      | none =>
          let (position, parts) := loadings position children
          (position, .row parts)

/-- All media of a list of widgets, before any has arrived. -/
def loadings (position : Nat) : List Widget → Nat × List Loading
  | [] => (position, [])
  | widget :: rest =>
      let (position, part) := loading position widget
      let (position, parts) := loadings position rest
      (position, part :: parts)

end

end Widget

namespace Session

/-- Judge whether an arrived medium can be played (`load_playable`). -/
def accept (support : MediaSupport) (s : Session) (request : MediaRequest) (resource : Resource) :
    Session × Except Error Unit :=
  match support request.family resource.kind with
  | .probably => (s, .ok ())
  | .maybe => (s.note (.uncertainMedia request.family request.source resource.kind), .ok ())
  | .no => (s, .error (.resource (.unsupportedMedia request.family.name resource.kind)))

/-- Poll the load of a medium. -/
def pollMedium (transport : Transport) (support : MediaSupport) (s : Session) (client : Client)
    (request : MediaRequest) : Session × Loading :=
  match s.poll transport client request.source with
  | (s, none) => (s, .medium client request)
  | (s, some (.error e)) => (s, .failed (.resource e))
  | (s, some (.ok resource)) =>
      match s.accept support request resource with
      | (s, .ok ()) => (s, .arrived)
      | (s, .error e) => (s, .failed e)

end Session

namespace Loading

/-- Everything has arrived. -/
def isArrived : Loading → Bool
  | .arrived => true
  | _ => false

/-- Something has failed. -/
def isFailed : Loading → Bool
  | .failed _ => true
  | _ => false

/-- The part that decides about a row of parts: the first failure, or, if results are taken in
order, the first part that has not arrived. -/
def decisive? (inOrder : Bool) (parts : List Loading) : Option Loading :=
  parts.find? fun part => if inOrder then !part.isArrived else part.isFailed

/-- A row of parts, as far as it has come. -/
def gather (inOrder : Bool) (parts : List Loading) : Loading :=
  match decisive? inOrder parts with
  | some (.failed e) => .failed e
  | _ => if parts.all isArrived then .arrived else .row parts

/-- The results of a row of parts are taken in order. -/
def isInOrder (parts : List Loading) : Bool :=
  shortLimit < parts.length

mutual

/-- The loads that are under way. -/
def loads : Loading → List (Client × String)
  | .arrived => []
  | .failed _ => []
  | .medium client request => [(client, request.source)]
  | .row parts => loadsOf parts

/-- The loads of parts that are under way. -/
def loadsOf : List Loading → List (Client × String)
  | [] => []
  | part :: rest => loads part ++ loadsOf rest

end

/-- A row of parts after a poll. When it has failed, the loads of its parts are given up. -/
def conclude (inOrder : Bool) (s : Session) (parts : List Loading) : Session × Loading :=
  match gather inOrder parts with
  | .failed e => (s.release (loadsOf parts), .failed e)
  | loading => (s, loading)

mutual

/-- Poll what is under way, long rows backward if they are turned (`render_children`). -/
def poll (transport : Transport) (support : MediaSupport) (turned : Bool) (s : Session) :
    Loading → Session × Loading
  | .arrived => (s, .arrived)
  | .failed e => (s, .failed e)
  | .medium client request => s.pollMedium transport support client request
  | .row parts =>
      let inOrder := isInOrder parts
      let (s, parts) :=
        if inOrder && turned then pollBackward transport support turned s parts
        else pollForward transport support turned inOrder true s parts
      conclude inOrder s parts

/-- Poll parts from the first to the last, up to a failure that counts. The flag `clear` tells that
everything before has arrived. -/
def pollForward (transport : Transport) (support : MediaSupport) (turned inOrder clear : Bool)
    (s : Session) : List Loading → Session × List Loading
  | [] => (s, [])
  | part :: rest =>
      let (s, part) := poll transport support turned s part
      if part.isFailed && (clear || !inOrder) then (s, part :: rest)
      else
        let (s, rest) :=
          pollForward transport support turned inOrder (clear && part.isArrived) s rest
        (s, part :: rest)

/-- Poll parts from the last to the first. -/
def pollBackward (transport : Transport) (support : MediaSupport) (turned : Bool)
    (s : Session) : List Loading → Session × List Loading
  | [] => (s, [])
  | part :: rest =>
      let (s, rest) := pollBackward transport support turned s rest
      let (s, part) := poll transport support turned s part
      (s, part :: rest)

end

end Loading

namespace Session

/-- Poll media in a round. After a pass over turned rows, a second pass picks up the loads that
waited for one of the same URL. -/
def pollMedia (transport : Transport) (support : MediaSupport) (turned : Bool) (s : Session)
    (loading : Loading) : Session × Loading :=
  let (s, loading) := loading.poll transport support turned s
  if turned then loading.poll transport support false s else (s, loading)

/-- Poll media in every round in which something can change, until all have arrived or one has
failed. There is no answer if a load hangs. -/
def awaitMedia (transport : Transport) (support : MediaSupport) (start : Nat) :
    (fuel : Nat) → Session → Loading → Session × Option (Except Error Unit)
  | 0, s, _ => (s, none)
  | fuel + 1, s, loading =>
      match s.pollMedia transport support (s.isTurned start) loading with
      | (s, .arrived) => (s, some (.ok ()))
      | (s, .failed e) => (s, some (.error e))
      | (s, loading) =>
          match s.nextDue loading.loads with
          | some round => awaitMedia transport support start fuel (s.advanceTo round) loading
          | none => (s, none)

/-- The media of loaded sources, addressed by their handles. -/
def media (s : Session) : Media := fun source =>
  (s.cache.loaded? source).map fun resource => ⟨resource.handleUrl, resource.kind⟩

/-- Load the media of a widget and draw it (`ConfiguredWidget::render`). -/
def render (transport : Transport) (support : MediaSupport) (s : Session) (widget : Widget) :
    Session × Option (Except Error Node) :=
  let loading := (widget.loading 0).2
  -- No load takes more than three steps.
  match s.awaitMedia transport support s.now (3 * loading.loads.length + 2) loading with
  | (s, some (.ok ())) => (s, some (.ok (widget.draw s.media)))
  | (s, some (.error e)) => (s.release loading.loads, some (.error e))
  | (s, none) => (s, none)

end Session

end Widgetry
