/-!
Sets of characters given by ranges of code points, the form in which the tables of Unicode
properties are written down.
-/

namespace FlagBoard.Text

/-- Ranges of code points, both ends included, in ascending order and without overlap. -/
abbrev Ranges := List (Nat × Nat)

def Ranges.has (ranges : Ranges) (c : Char) : Bool :=
  ranges.any fun range => range.1 ≤ c.toNat && c.toNat ≤ range.2

end FlagBoard.Text
