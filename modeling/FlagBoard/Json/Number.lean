import FlagBoard.Json.Binary64

/-!
Numbers of a JSON text. A whole number that fits 64 bits stays whole; every other number, and minus
zero, is a floating-point number. Its digits are taken into 64 bits as far as they fit and are then
scaled by one power of ten, so the last bit may differ from that of the nearest number.
-/

namespace FlagBoard.Json

/-- A number: whole from zero on, the absolute value of a whole one below zero, or floating. -/
inductive Number
  | natural (n : Nat)
  | negative (n : Nat)
  | floating (x : Binary64)
  deriving DecidableEq, Repr

namespace Number

/-- The parts of a number as it stands in a text; digits as their values. -/
structure Parts where
  negative : Bool
  whole : List Nat
  fraction : List Nat
  exponent : Int
  /-- Whether the text has a fraction or an exponent. -/
  scientific : Bool
  deriving DecidableEq, Repr

/-- Takes digits into a number as long as it stays below 2 ^ 64. The second result is the number
of digits that are left. -/
def absorb (number : Nat) : List Nat → Nat × Nat
  | [] => (number, 0)
  | digit :: rest =>
      if number * 10 + digit < 0x10000000000000000 then absorb (number * 10 + digit) rest
      else (number, rest.length + 1)

/-- Scales by a power of ten. Past 10 ^ -308 it goes in two steps. -/
def scale (start : Binary64) (power : Int) : Option Binary64 := do
  let ten (n : Nat) := Binary64.ofNat (Nat.pow 10 n)
  if start.isZero then some start
  else if 308 < power then none
  else if 0 ≤ power then start.mul (← ten power.toNat)
  else if -308 ≤ power then start.div (← ten power.natAbs)
  else if -616 ≤ power then (← start.div (← ten 308)).div (← ten (power.natAbs - 308))
  else some ⟨false, 0, 0⟩

/-- The number that the parts stand for. There is none where it would not be finite. -/
def ofParts (parts : Parts) : Option Number :=
  let (taken, left) := absorb 0 parts.whole
  if parts.scientific || left ≠ 0 then do
    let (digits, dropped) := absorb taken parts.fraction
    let power := (left : Int) - ((parts.fraction.length - dropped : Nat) : Int) + parts.exponent
    let size ← scale (← Binary64.ofNat digits) power
    some (.floating (if parts.negative then size.negate else size))
  else if parts.negative then
    if 0 < taken ∧ taken ≤ 0x8000000000000000 then some (.negative taken)
    else (Binary64.ofNat taken).map fun size => .floating size.negate
  else some (.natural taken)

def text : Number → String
  | .natural n => toString n
  | .negative n => "-" ++ toString n
  | .floating x => x.text

end Number

end FlagBoard.Json
