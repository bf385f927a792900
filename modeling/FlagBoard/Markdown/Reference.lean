import FlagBoard.Markdown.NamedCharacter
import FlagBoard.Markdown.Source

/-!
Characters that are not written as themselves: by a reference between an ampersand and a semicolon,
or behind a backslash.
-/

namespace FlagBoard.Markdown

def replacement : Char := Char.ofNat 0xfffd

def numberedCharacter (point : Nat) : Char :=
  if point ≠ 0 ∧ point.isValidChar then Char.ofNat point else replacement

namespace Source

def readNumber (source : Source) (base most place : Nat) : Option (List Char × Nat) :=
  let digits := (source.slice place (place + most)).takeWhile fun c => (digitTo base c).isSome
  let stop := place + digits.length
  if digits.isEmpty || source[stop]? != some ';' then none
  else some ([numberedCharacter (numberTo base digits)], stop + 1)

/-- Reads the reference whose ampersand stands at a place: its characters, and the place behind
it. -/
def readReference (source : Source) (place : Nat) : Option (List Char × Nat) :=
  if source[place + 1]? = some '#' then
    if source[place + 2]? = some 'x' ∨ source[place + 2]? = some 'X' then
      source.readNumber 16 6 (place + 3)
    else source.readNumber 10 7 (place + 2)
  else
    let stop := source.passWhile isAlphanumeric (place + 1)
    if source[stop]? = some ';' then
      (namedCharacters (String.ofList (source.slice (place + 1) stop))).map fun chars =>
        (chars, stop + 1)
    else none

/-- Whether two backslashes and a pipe stand at a place. In a cell this is a pipe. -/
def isPipePair (source : Source) (place : Nat) : Bool := source.holdsAt ['\\', '\\', '|'] place

def isEscape (source : Source) (place : Nat) : Bool :=
  source[place]? == some '\\' && source[place + 1]?.any isMark

def unescapeFrom (source : Source) (inCell : Bool) : Nat → Nat → List Char
  | 0, _ => []
  | steps + 1, place =>
      match source[place]? with
      | none => []
      | some c =>
          if inCell && source.isPipePair place then
            '|' :: unescapeFrom source inCell steps (place + 3)
          else if source.isEscape place then
            source.slice (place + 1) (place + 2) ++ unescapeFrom source inCell steps (place + 2)
          else if c = '\r' then unescapeFrom source inCell steps (place + 1)
          else
            match if c = '&' then source.readReference place else none with
            | some (chars, next) => chars ++ unescapeFrom source inCell steps next
            | none => c :: unescapeFrom source inCell steps (place + 1)

end Source

/-- What a text means that has escapes and references. Carriage returns are left out. -/
def unescape (inCell : Bool) (text : List Char) : List Char :=
  Source.unescapeFrom text.toArray inCell text.length 0

end FlagBoard.Markdown
