import FlagBoard.Json.Number

/-!
JSON values. What is read from a text keeps the members of an object in the order of their keys,
each key once; what is written keeps the order in which the members are given.
-/

namespace FlagBoard

inductive Json
  | null
  | bool (b : Bool)
  | num (n : Json.Number)
  | str (s : String)
  | arr (items : List Json)
  | obj (members : List (String × Json))
  deriving Repr, BEq

namespace Json

/-- Puts a member among members that are in the order of their keys, in place of the one that has
its key. -/
def putMember (key : String) (value : Json) : List (String × Json) → List (String × Json)
  | [] => [(key, value)]
  | member :: rest =>
      if key < member.1 then (key, value) :: member :: rest
      else if key = member.1 then (key, value) :: rest
      else member :: putMember key value rest

end Json

end FlagBoard
