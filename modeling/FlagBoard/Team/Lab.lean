import FlagBoard.Json.Schema

/-!
The lab network of a team. Its mode is zero for access by browser alone, one for VPN alone, and any
other number for both.
-/

namespace FlagBoard

structure Lab where
  mode : Int32
  subnet : String
  deriving DecidableEq, Repr

namespace Lab

@[reducible] def fields : Json.Fields :=
  .field "isVPN" [] false .integer <|
  .field "labSubnet" [] false .text .nil

@[reducible] def schema : Json.Schema := .record "LabInfo" fields

def ofValue : schema.Value → Lab
  | (mode, subnet, ()) => ⟨mode, subnet⟩

def read (text : String) : Except Json.ReadError Lab := (schema.readText text).map ofValue

def hasVpn (lab : Lab) : Bool := lab.mode != 0

def modeLabel (lab : Lab) : String :=
  if lab.mode = 0 then "Browser access"
  else if lab.mode = 1 then "VPN access"
  else "Browser and VPN access"

end Lab

end FlagBoard
