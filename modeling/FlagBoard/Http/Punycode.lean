/-!
Names of hosts in plain ASCII. A part with other characters is written as its ASCII characters and,
behind them, where the others belong: for each the number of steps from the one before, in digits of
base thirty-six whose weights adapt as the part is written.
-/

namespace FlagBoard.Http.Punycode

def digit (value : Nat) : Char :=
  Char.ofNat (if value < 26 then 'a'.toNat + value else '0'.toNat + (value - 26))

def threshold (place bias : Nat) : Nat := min 26 (max 1 (place - bias))

/-- The digits of a number from a place on, the least first, in as many steps as are given. -/
def digits (bias : Nat) : Nat → Nat → Nat → List Char
  | 0, _, _ => []
  | steps + 1, place, number =>
      let least := threshold place bias
      if number < least then [digit number]
      else
        digit (least + (number - least) % (36 - least)) ::
          digits bias steps (place + 36) ((number - least) / (36 - least))

def shrink : Nat → Nat → Nat → Nat
  | 0, place, _ => place
  | steps + 1, place, number =>
      if 455 < number then shrink steps (place + 36) (number / 35)
      else place + 36 * number / (number + 38)

/-- The bias behind a number, given how many characters are written and whether it is the first. -/
def adapt (number written : Nat) (first : Bool) : Nat :=
  let scaled := number / if first then 700 else 2
  shrink scaled 0 (scaled + scaled / written)

structure Writing where
  output : List Char
  steps : Nat
  bias : Nat
  written : Nat
  first : Bool
  deriving DecidableEq, Repr

/-- Passes a character of the part while those of one code point are written. -/
def Writing.pass (point : Nat) (writing : Writing) (c : Char) : Writing :=
  if c.toNat < point then { writing with steps := writing.steps + 1 }
  else if c.toNat = point then
    ⟨writing.output ++ digits writing.bias (writing.steps + 1) 36 writing.steps, 0,
      adapt writing.steps (writing.written + 1) writing.first, writing.written + 1, false⟩
  else writing

/-- Writes the characters of the given code points, which are in order; all below `next` are
written. -/
def writePoints (part : List Char) : Nat → Writing → List Nat → List Char
  | _, writing, [] => writing.output
  | next, writing, point :: rest =>
      let steps := writing.steps + (point - next) * (writing.written + 1)
      let skipped := { writing with steps }
      let passed := part.foldl (Writing.pass point) skipped
      writePoints part (point + 1) { passed with steps := passed.steps + 1 } rest

def encode (part : List Char) : List Char :=
  let plain := part.filter fun c => c.toNat < 128
  let points := ((part.filter fun c => 128 ≤ c.toNat).map Char.toNat).eraseDups.mergeSort
  let start := if plain.isEmpty then [] else plain ++ ['-']
  writePoints part 128 ⟨start, 0, 72, plain.length, true⟩ points

def digitValue (c : Char) : Option Nat :=
  if c.isDigit then some (c.toNat - '0'.toNat + 26)
  else if c.isAlpha then some (c.toLower.toNat - 'a'.toNat)
  else none

structure Reading where
  output : List Char
  point : Nat
  /-- Where the next character goes. -/
  place : Nat
  bias : Nat
  first : Bool
  deriving DecidableEq, Repr

def Reading.insert (reading : Reading) (steps : Nat) : Option Reading :=
  let length := reading.output.length + 1
  let point := reading.point + (reading.place + steps) / length
  let place := (reading.place + steps) % length
  if point.isValidChar then
    some ⟨reading.output.insertIdx place (Char.ofNat point), point, place + 1,
      adapt steps length reading.first, false⟩
  else none

/-- Reads digits. So far those of one number have come to `steps`, and its next digit has the given
place and weight; at its start that place is the first. -/
def readDigits : Reading → Nat → Nat → Nat → List Char → Option (List Char)
  | reading, place, _, _, [] => if place = 36 then some reading.output else none
  | reading, place, weight, steps, c :: rest => do
      let value ← digitValue c
      let least := threshold place reading.bias
      if value < least then
        readDigits (← reading.insert (steps + value * weight)) 36 1 0 rest
      else
        readDigits reading (place + 36) (weight * (36 - least)) (steps + value * weight) rest

/-- The part of a plain form. Its ASCII characters stand before the last hyphen, if there are
any. -/
def decode? (text : List Char) : Option (List Char) :=
  let plain := ((text.reverse.dropWhile (· != '-')).drop 1).reverse
  let behind := if plain.isEmpty then text else text.drop (plain.length + 1)
  readDigits ⟨plain, 128, 0, 72, true⟩ 36 1 0 behind

end FlagBoard.Http.Punycode
