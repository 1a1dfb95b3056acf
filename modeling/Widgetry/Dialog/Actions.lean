import Widgetry.Text.Basic

/-!
# Dialog actions

The actions of a dialog are labels to choose from. There is at least one, none is blank, and no two
are equal.
-/

namespace Widgetry

/-- Why a list of labels cannot be the actions of a dialog. -/
inductive ActionFault where
  | missing
  | blank
  | repeated (label : String)
  deriving Repr, DecidableEq, Inhabited

/-- The wording of a fault. -/
def ActionFault.message : ActionFault → String
  | .missing => "a dialog requires actions"
  | .blank => "a dialog action cannot be empty"
  | .repeated label => "a dialog requires unique actions; \"" ++ label ++ "\" is repeated"

/-- Errors of dialogs. -/
inductive DialogError where
  | invalidActions (fault : ActionFault)
  | superseded
  | dismissed
  | unavailable
  | unknownAction (label : String)
  deriving Repr, DecidableEq, Inhabited

/-- The wording of a dialog error. -/
def DialogError.message : DialogError → String
  | .invalidActions fault => "invalid dialog actions: " ++ fault.message
  | .superseded => "dialog was superseded by a newer dialog"
  | .dismissed => "dialog was closed without an action"
  | .unavailable => "dialog frontend is unavailable"
  | .unknownAction label => "\"" ++ label ++ "\" is not an action of this dialog"

namespace Dialog

/-- The first fault among labels that follow the labels `seen`. -/
def firstFault? (seen : List String) : List String → Option ActionFault
  | [] => none
  | label :: rest =>
      if Text.isBlankText label then some .blank
      else if seen.contains label then some (.repeated label)
      else firstFault? (label :: seen) rest

/-- The fault of a list of labels. -/
def actionFault? : List String → Option ActionFault
  | [] => some .missing
  | actions => firstFault? [] actions

/-- Check the actions of a dialog (`validate_actions`). -/
def validateActions (actions : List String) : Except DialogError Unit :=
  match actionFault? actions with
  | some fault => .error (.invalidActions fault)
  | none => .ok ()

/-- The label that closes a dialog. -/
def closeAction : String := "Close"

/-- The label that confirms a question. -/
def confirmAction : String := "Confirm"

end Dialog

end Widgetry
