import FlagBoard.Json.Schema

/-!
The VPN slots of a team, the file a slot's configuration is saved in, and the menu that shows them.
-/

namespace FlagBoard

structure VpnSlot where
  id : String
  status : String
  deriving DecidableEq, Repr

def afterUnderscore (id : List Char) : Option (List Char) :=
  match id.dropWhile (· != '_') with
  | [] => none
  | _ :: rest => some rest

def readByte (text : List Char) : Option Nat :=
  let digits := match text with
    | '+' :: rest => rest
    | other => other
  if digits.isEmpty || !digits.all Json.isDigit then none
  else
    let number := digits.foldl (fun number c => number * 10 + Json.digitValue c) 0
    if number ≤ 255 then some number else none

def configFileName (id : String) : Option String := do
  let number ← readByte (← afterUnderscore id.toList)
  some ("conn_" ++ toString number ++ ".conf")

namespace VpnSlot

@[reducible] def fields : Json.Fields :=
  .field "vpnConnID" [] true .text <|
  .field "status" [] false .text .nil

@[reducible] def schema : Json.Schema := .record "VpnConnection" fields

def ofValue : schema.Value → VpnSlot
  | (id, status, ()) => ⟨id, status⟩

def readList (text : String) : Except Json.ReadError (List VpnSlot) :=
  ((Json.Schema.list schema).readText text).map fun slots => slots.map ofValue

def isUsed (slot : VpnSlot) : Bool := slot.status == "USED"

def fileName (slot : VpnSlot) : Option String := configFileName slot.id

def label (slot : VpnSlot) : String :=
  "Connection " ++ ((afterUnderscore slot.id.toList).elim slot.id String.ofList)

def statusLabel (slot : VpnSlot) : String := if slot.isUsed then "In use" else "Available"

end VpnSlot

structure VpnMenu where
  isOpen : Bool
  loading : Bool
  slots : List VpnSlot
  error : Option String
  deriving DecidableEq, Repr

namespace VpnMenu

def closed : VpnMenu := ⟨false, false, [], none⟩

/-- Opens or closes the menu. Opening starts a refresh. -/
def toggle (menu : VpnMenu) : VpnMenu :=
  if menu.isOpen then { menu with isOpen := false }
  else { menu with isOpen := true, loading := true, error := none }

/-- Takes the result of a refresh. One that failed leaves the slots as they were. -/
def load (menu : VpnMenu) : Except String (List VpnSlot) → VpnMenu
  | .ok slots => { menu with loading := false, slots, error := none }
  | .error message => { menu with loading := false, error := some message }

def usedCount (menu : VpnMenu) : Nat := menu.slots.countP VpnSlot.isUsed

/-- The caption of the menu's button. It counts the slots once there are any. -/
def label (menu : VpnMenu) : String :=
  if menu.slots.isEmpty then "VPN"
  else
    "VPN (" ++ toString menu.usedCount ++ "/" ++ toString menu.slots.length ++ " in use)"

inductive Step
  | toggle
  | load (result : Except String (List VpnSlot))

/-- The menu after a step; for a toggle also whether it asks for a refresh. -/
def step (menu : VpnMenu) : Step → VpnMenu × Option Bool
  | .toggle => (menu.toggle, some menu.toggle.isOpen)
  | .load result => (menu.load result, none)

end VpnMenu

end FlagBoard
