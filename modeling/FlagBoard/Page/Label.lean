import FlagBoard.Text.Utf8

/-!
Short texts for points, solves and times.
-/

namespace FlagBoard

def pointsLabel (points : UInt32) : String :=
  if points = 1 then "1 pt" else toString points.toNat ++ " pts"

def solvedLabel (solved total : Nat) : String :=
  toString solved ++ "/" ++ toString total ++ " solved"

def solvesLabel (solves : Nat) : String :=
  if solves = 0 then "No solves yet"
  else if solves = 1 then "1 team solved"
  else toString solves ++ " teams solved"

namespace Timestamp

/-- The start of a text that takes a number of bytes, and the rest, unless a character is cut. -/
def cut : Nat → List Char → Option (List Char × List Char)
  | bytes, text =>
      if bytes = 0 then some ([], text)
      else
        match text with
        | [] => none
        | c :: rest =>
            let width := Text.Utf8.charSize c
            if bytes < width then none
            else (cut (bytes - width) rest).map fun (start, left) => (c :: start, left)

def hasAt (text : List Char) (offset : Nat) (c : Char) : Bool :=
  (Text.Utf8.encode text)[offset]? == some c.toNat.toUInt8

def looksTimed (text : List Char) : Bool :=
  decide (16 ≤ Text.Utf8.size text) && hasAt text 4 '-' && hasAt text 7 '-' &&
    (hasAt text 10 'T' || hasAt text 10 ' ') && hasAt text 13 ':'

def shorten (text : List Char) : Option (List Char) :=
  if looksTimed text then do
    let (date, afterDate) ← cut 10 text
    let (_, afterMark) ← cut 1 afterDate
    let (time, _) ← cut 5 afterMark
    some (date ++ ' ' :: time)
  else none

end Timestamp

/-- A time as `2021-03-04 12:34`. A text that does not begin with a date and time stays as it is. -/
def shortTimestamp (text : String) : String :=
  match Timestamp.shorten text.toList with
  | some short => String.ofList short
  | none => text

end FlagBoard
