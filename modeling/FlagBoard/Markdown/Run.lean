import FlagBoard.Text.Blank
import FlagBoard.Text.Punctuation

/-!
Runs of stars, underscores and tildes. Whether one may open or close a span of emphasis depends on
the characters around it.
-/

namespace FlagBoard.Markdown

structure Surroundings where
  /-- The character before it, unless it begins the document. -/
  before : Option Char
  /-- The character behind it, unless it ends the document. -/
  after : Option Char
  /-- Whether it stands in a cell of a table. -/
  inCell : Bool
  /-- Whether the character before it is a pipe without a backslash. -/
  behindPipe : Bool
  deriving DecidableEq, Repr

namespace Surroundings

def isPunctuation (c : Char) : Bool := Text.punctuation.has c

def mayOpen (around : Surroundings) (mark : Char) (count : Nat) : Bool :=
  match around.after with
  | none => false
  | some next =>
      if Text.isBlank next then false
      else
        match around.before with
        | none => true
        | some previous =>
            if around.inCell && around.behindPipe then true
            else if around.inCell && next == '|' then false
            else
              (mark == '*' && !isPunctuation next) || (mark == '~' && 1 < count) ||
                (mark == '~' && previous == '~' && !isPunctuation next) ||
                Text.isBlank previous || isPunctuation previous

def mayClose (around : Surroundings) (mark : Char) (count : Nat) : Bool :=
  match around.before with
  | none => false
  | some previous =>
      if Text.isBlank previous then false
      else
        match around.after with
        | none => true
        | some next =>
            if around.inCell && around.behindPipe then false
            else if around.inCell && next == '|' then true
            else
              ((mark == '*' || (mark == '~' && 1 < count)) && !isPunctuation previous) ||
                (mark == '~' && previous == '~') || Text.isBlank next || isPunctuation next

end Surroundings

end FlagBoard.Markdown
