import Widgetry.Dialog.Actions
import Widgetry.Html.Node

/-!
# The dialog arbiter

Callers show dialogs, and a frontend receives them one after another and lets the user choose. At
most one dialog is open: showing one cancels the one before. A caller waits for the outcome of its
dialog by polling it. Once it has an outcome, or gives up, its dialog is cancelled.
-/

namespace Widgetry

/-- What the frontend has answered: nothing yet, a label, or that no answer will come. -/
inductive Response where
  | pending
  | chosen (label : String)
  | closed
  deriving Repr, DecidableEq, Inhabited

/-- A dialog that was shown (`DialogRequest`). -/
structure Dialog where
  title : Option String
  content : Node
  actions : List String
  response : Response
  isCancelled : Bool
  deriving Inhabited

namespace Dialog

/-- The title without the blanks around it, unless nothing is left. -/
def titleOf (title : Option String) : Option String :=
  (title.map Text.trim).filter fun title => !title.isEmpty

/-- Cancel a dialog. -/
def cancel (dialog : Dialog) : Dialog :=
  { dialog with isCancelled := true }

/-- Close a dialog without a choice, unless there was a choice. -/
def dismiss (dialog : Dialog) : Dialog :=
  match dialog.response with
  | .pending => { dialog with response := .closed }
  | _ => dialog

/-- Choose a label (`DialogRequest::choose`). -/
def choose (dialog : Dialog) (label : String) : Except DialogError Dialog :=
  if !dialog.actions.contains label then .error (.unknownAction label)
  else if dialog.isCancelled then .error .superseded
  else
    match dialog.response with
    | .pending => .ok { dialog with response := .chosen label }
    | _ => .error .dismissed

/-- The outcome for the caller, if there is one yet (`PendingDialog::outcome`). A choice counts even
if the dialog was cancelled later. -/
def outcome? (dialog : Dialog) : Option (Except DialogError String) :=
  match dialog.response with
  | .chosen label => some (.ok label)
  | .closed => some (.error (if dialog.isCancelled then .superseded else .dismissed))
  | .pending => if dialog.isCancelled then some (.error .superseded) else none

/-- The node of a dialog: its title, its content, and a button for each action
(`DialogRequest::to_node`). -/
def toNode (dialog : Dialog) : Node :=
  let heading := match dialog.title with
    | some title => [(Node.ofKind .heading).withText title]
    | none => []
  let buttons := dialog.actions.map fun action =>
    ((Node.ofKind .button).withText action).withAttribute "data-action" action
  (((Node.tagged .dialog "dialog").withAttribute "closedby" "closerequest").withAttribute
    "open" "").withChildren
      (heading ++ [dialog.content, (Node.ofKind .block).withChildren buttons])

end Dialog

/-- Where the session in force belongs: to no dialog yet, to a dialog, or to a dialog that could
not be shown. -/
inductive Focus where
  | untouched
  | on (dialog : Nat)
  | lost
  deriving Repr, DecidableEq, Inhabited

/-- The dialogs in the order in which they were shown, those that the frontend has yet to receive,
the session in force, and whether there is a frontend (`DialogArbiter`). -/
structure Arbiter where
  dialogs : List Dialog
  queue : List Nat
  focus : Focus
  hasFrontend : Bool
  deriving Inhabited

namespace Arbiter

/-- An arbiter that has shown nothing (`DialogArbiter::channel`). -/
def empty : Arbiter :=
  ⟨[], [], .untouched, true⟩

/-- A dialog by its number. -/
def dialog? (a : Arbiter) (n : Nat) : Option Dialog :=
  a.dialogs[n]?

/-- Change a dialog. -/
def modify (a : Arbiter) (n : Nat) (f : Dialog → Dialog) : Arbiter :=
  { a with dialogs := a.dialogs.modify n f }

/-- The session in force is not cancelled (`DialogArbiter::has_active`). Before any dialog is shown
there is such a session. -/
def hasActive (a : Arbiter) : Bool :=
  match a.focus with
  | .untouched => true
  | .on n =>
      match a.dialog? n with
      | some dialog => !dialog.isCancelled
      | none => false
  | .lost => false

/-- Cancel the session in force. -/
def cancelActive (a : Arbiter) : Arbiter :=
  match a.focus with
  | .on n => a.modify n Dialog.cancel
  | _ => a

/-- Show a dialog and cancel the one before (`DialogArbiter::show`). The answer is the number of the
dialog. Invalid actions change nothing. -/
def present (a : Arbiter) (title : Option String) (content : Node) (actions : List String) :
    Arbiter × Except DialogError Nat :=
  match Dialog.validateActions actions with
  | .error e => (a, .error e)
  | .ok () =>
      let a := a.cancelActive
      if a.hasFrontend then
        let n := a.dialogs.length
        let dialog := ⟨Dialog.titleOf title, content, actions, .pending, false⟩
        ({ a with dialogs := a.dialogs ++ [dialog], queue := a.queue ++ [n], focus := .on n },
          .ok n)
      else ({ a with focus := .lost }, .error .unavailable)

/-- The content of an alert or a question. -/
def messageContent (message : String) : Node :=
  (Node.ofKind .paragraph).withText message

/-- Show a message that can only be closed (`DialogArbiter::alert`). -/
def showAlert (a : Arbiter) (message : String) : Arbiter × Except DialogError Nat :=
  a.present none (messageContent message) [Dialog.closeAction]

/-- Show a question that can be closed or confirmed (`DialogArbiter::confirm`). -/
def showConfirm (a : Arbiter) (message : String) : Arbiter × Except DialogError Nat :=
  a.present none (messageContent message) [Dialog.closeAction, Dialog.confirmAction]

/-- The caller of a dialog gives up. -/
def abandon (a : Arbiter) (n : Nat) : Arbiter :=
  a.modify n Dialog.cancel

/-- The caller of a dialog looks for the outcome. With an outcome the dialog is over. -/
def poll (a : Arbiter) (n : Nat) : Arbiter × Option (Except DialogError String) :=
  match (a.dialog? n).bind Dialog.outcome? with
  | some outcome => (a.abandon n, some outcome)
  | none => (a, none)

/-- The frontend receives the next dialog. -/
def receive (a : Arbiter) : Arbiter × Option Nat :=
  match a.queue with
  | [] => (a, none)
  | n :: queue => ({ a with queue := queue }, some n)

/-- The frontend chooses a label of a dialog. -/
def choose (a : Arbiter) (n : Nat) (label : String) : Arbiter × Except DialogError Unit :=
  match a.dialog? n with
  | none => (a, .error .dismissed)
  | some dialog =>
      match dialog.choose label with
      | .error e => (a, .error e)
      | .ok dialog => (a.modify n fun _ => dialog, .ok ())

/-- The frontend closes a dialog without a choice (`DialogRequest::dismiss`). -/
def dismiss (a : Arbiter) (n : Nat) : Arbiter :=
  a.modify n Dialog.dismiss

/-- The frontend goes away, and with it all dialogs that it has yet to receive. -/
def dropFrontend (a : Arbiter) : Arbiter :=
  let a := a.queue.foldl dismiss a
  { a with queue := [], hasFrontend := false }

end Arbiter

end Widgetry
