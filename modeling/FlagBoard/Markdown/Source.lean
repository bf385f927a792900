import FlagBoard.Markdown.Character

/-!
The text of a document and its places. A place is the number of characters before it. Line feed,
carriage return, and both together end a line, and so does the end of the text.
-/

namespace FlagBoard.Markdown

abbrev Source := Array Char

namespace Source

/-- The first place from a given one on where a test fails, or the one after so many steps. -/
def passWithin (source : Source) (test : Char → Bool) : Nat → Nat → Nat
  | 0, place => place
  | steps + 1, place =>
      if source[place]?.any test then passWithin source test steps (place + 1) else place

def passWhile (source : Source) (test : Char → Bool) (place : Nat) : Nat :=
  source.passWithin test (source.size - place) place

def countMark (source : Source) (mark : Char) (place : Nat) : Nat :=
  source.passWhile (· == mark) place - place

/-- Number of characters before a place that pass a test, in a row and not before a given place. -/
def countBefore (source : Source) (test : Char → Bool) (low : Nat) : Nat → Nat
  | 0 => 0
  | place + 1 =>
      if low ≤ place ∧ source[place]?.any test then countBefore source test low place + 1 else 0

def slice (source : Source) (start stop : Nat) : List Char := (source.extract start stop).toList

def upTo (source : Source) (stop : Nat) : Source := source.extract 0 stop

def holdsAt (source : Source) (word : List Char) (place : Nat) : Bool :=
  source.slice place (place + word.length) == word

/-- The place behind the first occurrence of a word from a place on, within so many steps. -/
def findWithin (source : Source) (word : List Char) : Nat → Nat → Option Nat
  | 0, _ => none
  | steps + 1, place =>
      if source.holdsAt word place then some (place + word.length)
      else findWithin source word steps (place + 1)

def findPast (source : Source) (word : List Char) (place : Nat) : Option Nat :=
  source.findWithin word (source.size - place) place

def pastBreak (source : Source) (place : Nat) : Option Nat :=
  match source[place]? with
  | none => some place
  | some c =>
      if c = '\n' then some (place + 1)
      else if c = '\r' then some (if source[place + 1]? = some '\n' then place + 2 else place + 1)
      else none

def endsLine (source : Source) (place : Nat) : Bool := (source.pastBreak place).isSome

def pastBlank (source : Source) (place : Nat) : Option Nat :=
  source.pastBreak (source.passWhile isGap place)

def isBlank (source : Source) (place : Nat) : Bool := (source.pastBlank place).isSome

/-- The place behind the next line feed. Text that is taken as it is written has no other ends of
lines. -/
def pastFeed (source : Source) (place : Nat) : Nat :=
  min source.size (source.passWhile (· != '\n') place + 1)

end Source

end FlagBoard.Markdown
