import FlagBoard.Http.NameMapping
import FlagBoard.Http.Punycode
import FlagBoard.Text.Composition
import FlagBoard.Text.Direction
import FlagBoard.Text.Joining

/-!
Names of hosts. A name is a list of labels between full stops, in small letters and composed; to a
host it is sent in ASCII alone, with every other label in its plain form behind a mark.
-/

namespace FlagBoard.Http

def cutAt (mark : Char) : List Char → List (List Char)
  | [] => [[]]
  | c :: rest =>
      if c = mark then [] :: cutAt mark rest
      else
        match cutAt mark rest with
        | part :: others => (c :: part) :: others
        | [] => [[c]]

namespace Name

def plainMark : List Char := "xn--".toList

def isAscii (text : List Char) : Bool := text.all fun c => c.toNat < 128

def vowelKiller : Nat := 9

/-- Whether a joiner fits between the characters before it, of which the last is given first, and
those behind it. One that keeps letters apart must else stand between two that would be joined. -/
def isJoinerInPlace (joiner : Char) (before behind : List Char) : Bool :=
  before.head?.any (fun c => Text.combiningClass c == vowelKiller) ||
    (joiner == '\u200c' &&
      (before.dropWhile Text.isJoinedAcross).head?.any Text.joinsBehind &&
      (behind.dropWhile Text.isJoinedAcross).head?.any Text.joinsBefore)

/-- Whether all joiners of a label are in their place; the characters before are given the last
first. -/
def hasJoinersInPlace : List Char → List Char → Bool
  | _, [] => true
  | before, c :: rest =>
      (!NameMapping.isJoiner c || isJoinerInPlace c before rest) &&
        hasJoinersInPlace (c :: before) rest

/-- Whether a character makes its name one with a direction to the left in it. -/
def isLeftward (c : Char) : Bool :=
  match Text.Direction.of c with
  | .leftward | .leftwardNumber => true
  | _ => false

/-- Whether a label has one direction: it begins with a letter, has only letters of that direction,
ends in one or in a number, and its numbers are of one kind. -/
def hasDirection (label : List Char) : Bool :=
  let directions := label.map Text.Direction.of
  let last := (directions.reverse.dropWhile (· == .mark)).head?
  match directions with
  | [] => true
  | .rightward :: _ =>
      directions.all (fun direction => direction != .leftward && direction != .leftwardNumber) &&
        (last == some .rightward || last == some .number)
  | .leftward :: _ =>
      directions.all (· != .rightward) && last != some .neutral &&
        !(directions.contains .number && directions.contains .leftwardNumber)
  | _ => false

/-- Reads a label in plain form. It must be the form of a label that could stand for itself. -/
def readPlain (label : List Char) : Option (List Char) := do
  let text ← Punycode.decode? (label.drop plainMark.length)
  let standsForItself := text.all fun c => NameMapping.map c == some [c]
  if isAscii text || !standsForItself || Text.Composition.normalize text != text then none
  else some text

def readLabel (label : List Char) : Option (List Char) := do
  let text ← if plainMark.isPrefixOf label then readPlain label else some label
  if text.head?.any Text.isMark || !hasJoinersInPlace [] text then none else some text

def writeLabel (text : List Char) : List Char :=
  if isAscii text then text else plainMark ++ Punycode.encode text

def read? (text : List Char) : Option (List Char) := do
  let mapped ← text.mapM NameMapping.map
  let labels ← (cutAt '.' (Text.Composition.normalize mapped.flatten)).mapM readLabel
  if labels.any (·.any isLeftward) && !labels.all hasDirection then none
  else some ((labels.map writeLabel).intersperse ['.']).flatten

end Name

end FlagBoard.Http
