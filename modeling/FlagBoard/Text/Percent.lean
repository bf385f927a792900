import FlagBoard.Text.Utf8

/-!
Characters written by the numbers of their bytes, as in `%C3%A9`.
-/

namespace FlagBoard.Text.Percent

def digit (value : Nat) : Char :=
  Char.ofNat (if value < 10 then '0'.toNat + value else 'A'.toNat + (value - 10))

def encodeByte (byte : UInt8) : List Char :=
  ['%', digit (byte.toNat / 16), digit (byte.toNat % 16)]

def encodeChar (c : Char) : List Char := (Utf8.encodeChar c).flatMap encodeByte

/-- A character as it is, or by the numbers of its bytes if it is not plain ASCII or one of those
given. -/
def encodeBut (marks : List Char) (c : Char) : List Char :=
  if 32 ≤ c.toNat ∧ c.toNat < 127 ∧ c ∉ marks then [c] else encodeChar c

end FlagBoard.Text.Percent
