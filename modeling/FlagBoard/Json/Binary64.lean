/-!
Floating-point numbers of 64 bits, in exact arithmetic: a finite number is a sign, a mantissa below
2 ^ 53 and a power of two. Products and quotients are rounded to the nearest number, a tie to the
even mantissa. The shortest digits of a number are the fewest that are rounded back to it.
-/

namespace FlagBoard.Json

structure Binary64 where
  negative : Bool
  mantissa : Nat
  exponent : Int
  deriving DecidableEq, Repr

namespace Binary64

structure Ratio where
  above : Nat
  below : Nat
  deriving DecidableEq, Repr

def Ratio.scale (ratio : Ratio) (base : Nat) (power : Int) : Ratio :=
  if power < 0 then ⟨ratio.above, ratio.below * base.pow power.natAbs⟩
  else ⟨ratio.above * base.pow power.natAbs, ratio.below⟩

def Ratio.nearest (ratio : Ratio) : Nat :=
  let whole := ratio.above / ratio.below
  let twice := 2 * (ratio.above % ratio.below)
  if twice < ratio.below then whole
  else if ratio.below < twice then whole + 1
  else if whole % 2 = 0 then whole else whole + 1

/-- The power of two that belongs to the last bit of a number near the fraction. -/
def lastBit (ratio : Ratio) : Int :=
  let guess : Int := (ratio.above.log2 : Int) - (ratio.below.log2 : Int) - 52
  let scaled := ratio.scale 2 (-guess)
  max (if scaled.above < scaled.below * 0x10000000000000 then guess - 1 else guess) (-1074)

/-- Rounds a fraction. There is no result where it would not be finite. -/
def round (negative : Bool) (ratio : Ratio) : Option Binary64 :=
  if ratio.above = 0 then some ⟨negative, 0, 0⟩
  else
    let power := lastBit ratio
    let bits := (ratio.scale 2 (-power)).nearest
    if bits = 0 then some ⟨negative, 0, 0⟩
    else if bits = 0x20000000000000 then
      if 971 < power + 1 then none else some ⟨negative, 0x10000000000000, power + 1⟩
    else if 971 < power then none
    else some ⟨negative, bits, power⟩

def ratio (number : Binary64) : Ratio := Ratio.scale ⟨number.mantissa, 1⟩ 2 number.exponent

def ofNat (n : Nat) : Option Binary64 := round false ⟨n, 1⟩

def negate (number : Binary64) : Binary64 := { number with negative := !number.negative }

def isZero (number : Binary64) : Bool := number.mantissa == 0

def mul (left right : Binary64) : Option Binary64 :=
  round false ⟨left.ratio.above * right.ratio.above, left.ratio.below * right.ratio.below⟩

def div (left right : Binary64) : Option Binary64 :=
  round false ⟨left.ratio.above * right.ratio.below, left.ratio.below * right.ratio.above⟩

/-- A decimal number: whole digits times a power of ten. -/
structure Decimal where
  digits : Nat
  power : Int
  deriving DecidableEq, Repr

def firstPlace (ratio : Ratio) : Int :=
  let length (n : Nat) : Int := (Nat.toDigits 10 n).length
  let guess := length ratio.above - length ratio.below
  let scaled := ratio.scale 10 (-guess)
  if scaled.below ≤ scaled.above then guess else guess - 1

/-- The decimals with digits down to a given place that lie next to the number and are rounded
back to it, the nearer one first. -/
def neighbours (number : Binary64) (place : Int) : List Decimal :=
  let scaled := number.ratio.scale 10 (-place)
  let down := scaled.above / scaled.below
  let candidates := if scaled.nearest = down then [down, down + 1] else [down + 1, down]
  (candidates.map fun digits => Decimal.mk digits place).filter fun decimal =>
    round number.negative (Ratio.scale ⟨decimal.digits, 1⟩ 10 decimal.power) = some number

def shortest (number : Binary64) : Decimal :=
  let first := firstPlace number.ratio
  let found := (List.range 17).findSome? fun (more : Nat) =>
    (neighbours number (first - (more : Int))).head?
  found.getD ⟨0, 0⟩

/-- How numbers are written: in plain notation where the first digit stands in one of `least` to
`most` places, else with an exponent that has a sign and at least `exponentDigits` digits. -/
structure Format where
  least : Int
  most : Int
  exponentDigits : Nat
  deriving DecidableEq, Repr

def format : Format := ⟨-5, 15, 2⟩

def padZeros (length : Nat) (digits : List Char) : List Char :=
  List.replicate (length - digits.length) '0' ++ digits

def plain (digits : List Char) (first : Int) : List Char :=
  if first < 0 then
    ['0', '.'] ++ List.replicate (first.natAbs - 1) '0' ++ digits
  else
    let whole := first.toNat + 1
    let padded := digits ++ List.replicate (whole - digits.length) '0'
    let rest := padded.drop whole
    padded.take whole ++ ['.'] ++ (if rest.isEmpty then ['0'] else rest)

def scientific (digits : List Char) (first : Int) : List Char :=
  let rest := digits.drop 1
  digits.take 1 ++ (if rest.isEmpty then [] else '.' :: rest) ++
    ['e', if first < 0 then '-' else '+'] ++
    padZeros format.exponentDigits (Nat.toDigits 10 first.natAbs)

def text (number : Binary64) : String :=
  let sign := if number.negative then ['-'] else []
  if number.isZero then String.ofList (sign ++ ['0', '.', '0'])
  else
    let decimal := number.shortest
    let all := Nat.toDigits 10 decimal.digits
    let first := decimal.power + (all.length : Int) - 1
    let digits := (all.reverse.dropWhile (· == '0')).reverse
    String.ofList <| sign ++
      if format.least ≤ first ∧ first ≤ format.most then plain digits first
      else scientific digits first

end Binary64

end FlagBoard.Json
