import FlagBoard.Feed.Connection
import FlagBoard.Html.Piece
import FlagBoard.Page.Label
import FlagBoard.Submission.ActionStatus
import FlagBoard.Submission.FlagForm

/-!
The parts that pages are put together from. An element names its classes last. A text that is empty
is shown as one space, so that it keeps its place in the page.
-/

namespace FlagBoard.Page

open FlagBoard.Html (Attribute Piece element)

def textNode (text : String) : Piece := .text (if text.isEmpty then [' '] else text.toList)

def classed (tag classes : String) (content : List Piece) : List Piece :=
  element tag [.ofText "class" classes] content

def classedWith (tag : String) (attributes : List Attribute) (classes : String)
    (content : List Piece) : List Piece :=
  element tag (attributes ++ [.ofText "class" classes]) content

def withClass (classes more : String) (condition : Bool) : String :=
  if condition then classes ++ " " ++ more else classes

def switch (name : String) (condition : Bool) : List Attribute :=
  if condition then [⟨name, none⟩] else []

def dotClass : Status → String
  | .connected => "live-dot live-dot--connected"
  | .connecting => "live-dot live-dot--connecting"
  | .disconnected => "live-dot live-dot--disconnected"

def dotLabel : Status → String
  | .connected => "Live"
  | .connecting => "Connecting…"
  | .disconnected => "Offline, reconnecting"

def connectionDot (status : Status) : List Piece :=
  classedWith "span" [.ofText "title" (dotLabel status)] (dotClass status) []

def message (classes : String) : Option String → List Piece
  | some text => classed "p" classes [textNode text]
  | none => []

/-- The form for a flag; `pending` while the last one is being checked. -/
def flagForm (form : FlagForm) (pending : Bool) : List Piece :=
  let input := Piece.single "input"
    [.ofText "type" "text", .ofText "placeholder" "flag\x7b...\x7d", .ofText "autocomplete" "off",
      .ofText "class" "flag-checker__input"] false
  let submit := classedWith "button" (.ofText "type" "submit" :: switch "disabled" pending)
    "btn flag-checker__submit" [textNode (if pending then "Checking…" else "Submit")]
  classed "form" "flag-checker"
    (classed "div" "flag-checker__row" (input :: submit) ++
      message "flag-checker__message flag-checker__message--error" form.error ++
      message "flag-checker__message flag-checker__message--success" form.success)

def actionButton (classes caption : String) (status : ActionStatus) : List Piece :=
  classedWith "button" (switch "disabled" status.busy) classes [textNode caption]

def actionMessage (status : ActionStatus) : List Piece :=
  message (withClass "action-message" "action-message--error" status.isError) status.message

end FlagBoard.Page
