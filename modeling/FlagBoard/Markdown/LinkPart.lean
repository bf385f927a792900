import FlagBoard.Markdown.Reference
import FlagBoard.Text.Fold
import FlagBoard.Text.Utf8

/-!
The parts that links and definitions have in common: a destination, and a label, by which a
definition is found.
-/

namespace FlagBoard.Markdown

structure Definition where
  label : List Char
  destination : List Char
  title : List Char
  deriving DecidableEq, Repr

/-- What a label stands for. The first definition counts. -/
def findDefinition (definitions : List Definition) (label : List Char) : Option Definition :=
  definitions.find? fun definition => definition.label == label

namespace Source

/-- Finds the end of a destination in angle brackets, in as many steps as are given. -/
def passPointed (source : Source) : Nat → Nat → Option Nat
  | 0, _ => none
  | steps + 1, place => do
      let c ← source[place]?
      if isBreak c || c == '<' then none
      else if c = '>' then some place
      else passPointed source steps (if source.isEscape place then place + 2 else place + 1)

/-- Finds the end of a destination without angle brackets, in as many steps as are given. It ends at
a space or control, or at a closing parenthesis that has no partner inside. None opens inside more
parentheses than are allowed. -/
def passBare (source : Source) (allowed : Nat) : Nat → Nat → Nat → Option Nat
  | 0, _, _ => none
  | steps + 1, nesting, place =>
      let stop : Option Nat := if nesting = 0 then some place else none
      match source[place]? with
      | none => stop
      | some c =>
          if c.toNat ≤ 0x20 then stop
          else if c = '(' then
            if allowed < nesting then none
            else passBare source allowed steps (nesting + 1) (place + 1)
          else if c = ')' then
            if nesting = 0 then stop else passBare source allowed steps (nesting - 1) (place + 1)
          else
            passBare source allowed steps nesting
              (if source.isEscape place then place + 2 else place + 1)

/-- Reads a destination as it is written, and gives the place behind it. A parenthesis may open
inside so many others. -/
def readDestination (source : Source) (allowed place : Nat) : Option (List Char × Nat) :=
  if source[place]? = some '<' then
    (source.passPointed (source.size + 1) (place + 1)).map fun stop =>
      (source.slice (place + 1) stop, stop + 1)
  else
    (source.passBare allowed (source.size + 1) 0 place).map fun stop =>
      (source.slice place stop, stop)

/-- Greatest size of a label. Plain letters do not count. -/
def longestLabel : Nat := 1000

/-- How a label goes on in the next line: the place to go on at, by the place where the line begins,
if it goes on at all. -/
abbrev LabelBreak := Nat → Option Nat

/-- Passes white space in a label with one line break at most, in as many steps as are given. -/
def passLabelSpace (source : Source) (onBreak : LabelBreak) : Nat → Bool → Nat → Option Nat
  | 0, _, place => some place
  | steps + 1, broken, place =>
      match source[place]? with
      | some c =>
          if isBreak c then
            if broken then none
            else do passLabelSpace source onBreak steps true (← onBreak (← source.pastBreak place))
          else if isGap c then passLabelSpace source onBreak steps broken (place + 1)
          else some place
      | none => some place

/-- Reads on in a label, in as many steps as are given: the text, whether there is more to it than
white space and escapes, and the place behind the closing bracket. Every run of white space becomes
one space. -/
def readLabelFrom (source : Source) (inCell : Bool) (onBreak : LabelBreak) :
    Nat → Nat → Nat → Option (List Char × Bool × Nat)
  | 0, _, _ => none
  | steps + 1, size, place => do
      let c ← source[place]?
      let keep (chars : List Char) (solid : Bool) (weight next : Nat) :
          Option (List Char × Bool × Nat) :=
        (readLabelFrom source inCell onBreak steps (size + weight) next).map
          fun (text, isSolid, stop) => (chars ++ text, solid || isSolid, stop)
      if longestLabel ≤ size ∨ c = '[' then none
      else if c = ']' then some ([], false, place + 1)
      else if inCell && source.isPipePair place then keep ['|'] false 2 (place + 3)
      else if inCell && source.holdsAt ['\\', '|'] place then keep ['|'] false 1 (place + 2)
      else if source.isEscape place then keep (source.slice place (place + 2)) false 2 (place + 2)
      else if isGapOrBreak c then
        let next ← source.passLabelSpace onBreak source.size false place
        keep [' '] false (next - place) next
      else keep [c] true (if c.toNat < 0x80 then 0 else (Text.Utf8.encodeChar c).length) (place + 1)

/-- A label as labels are compared: without white space around it, and whatever its case. -/
def normalLabel (label : List Char) : List Char :=
  let inner := label.dropWhile (· == ' ')
  Text.foldCase (inner.reverse.dropWhile (· == ' ')).reverse

/-- Reads the label whose opening bracket stands at a place, and gives the place behind it. One with
nothing but white space and escapes is none. -/
def readLabel (source : Source) (inCell : Bool) (onBreak : LabelBreak) (place : Nat) :
    Option (List Char × Nat) :=
  if source[place]? = some '[' then
    match source.readLabelFrom inCell onBreak (source.size + 1) 0 (place + 1) with
    | some (label, true, next) => some (normalLabel label, next)
    | _ => none
  else none

end Source

end FlagBoard.Markdown
