import FlagBoard.Markdown.Source

/-!
The start of a line. A tab reaches to the next stop, and the stops count from the last tab, so that
a part of it may be left when columns are passed; that part is owed. The containers of a line begin
it, each with its own mark or indentation.
-/

namespace FlagBoard.Markdown

structure Cursor where
  place : Nat
  /-- Where the columns are counted from. -/
  origin : Nat
  /-- Columns of a tab that are not passed yet. -/
  owed : Nat
  deriving DecidableEq, Repr

namespace Cursor

def start (place : Nat) : Cursor := ⟨place, place, 0⟩

/-- Passes columns of white space, as many as there are up to a number and in as many steps as are
given. The first result is how many were missing. -/
def passIn (source : Source) : Nat → Nat → Cursor → Nat × Cursor
  | 0, wanted, cursor => (wanted, cursor)
  | steps + 1, wanted, cursor =>
      if wanted = 0 then (0, cursor)
      else
        match source[cursor.place]? with
        | some ' ' => passIn source steps (wanted - 1) { cursor with place := cursor.place + 1 }
        | some '\t' =>
            let width := 4 - (cursor.place - cursor.origin) % 4
            let next := cursor.place + 1
            passIn source steps (wanted - width) ⟨next, next, width - wanted⟩
        | _ => (wanted, cursor)

/-- Passes columns of white space, those owed first. The first result is how many were missing. -/
def pass (source : Source) (wanted : Nat) (cursor : Cursor) : Nat × Cursor :=
  passIn source wanted (wanted - cursor.owed) { cursor with owed := cursor.owed - wanted }

/-- Passes a number of columns at most. The first result is how many there were. -/
def passUpTo (source : Source) (most : Nat) (cursor : Cursor) : Nat × Cursor :=
  let (missing, next) := cursor.pass source most
  (most - missing, next)

def passAll (source : Source) (cursor : Cursor) : Cursor :=
  { cursor with place := source.passWhile (fun c => c == ' ' || c == '\t') cursor.place, owed := 0 }

def skip (count : Nat) (cursor : Cursor) : Cursor := { cursor with place := cursor.place + count }

def endsLine (source : Source) (cursor : Cursor) : Bool := source.endsLine cursor.place

def passQuote (source : Source) (cursor : Cursor) : Option Cursor :=
  if source[cursor.place]? = some '>' then some ((cursor.skip 1).pass source 1).2 else none

end Cursor

inductive Container
  | quote
  /-- A list: whether it is still tight, its mark and the number it starts with. -/
  | list (tight : Bool) (mark : Char) (start : Option Nat)
  /-- An item and the columns that its content is indented by. -/
  | item (indent : Nat)
  deriving DecidableEq, Repr

def Container.match? (source : Source) (container : Container) (cursor : Cursor) : Option Cursor :=
  match container with
  | .quote => (cursor.pass source 3).2.passQuote source
  | .item indent =>
      let (missing, inner) := cursor.pass source indent
      if missing = 0 ∨ inner.endsLine source then some inner else none
  | .list _ _ _ => some cursor

/-- Matches the start of a line against containers, the outermost first. The first result is how
many of them go on. -/
def matchContainers (source : Source) : List Container → Cursor → Nat × Cursor
  | [], cursor => (0, cursor)
  | container :: rest, cursor =>
      match container.match? source cursor with
      | none => (0, cursor)
      | some inner =>
          let (count, last) := matchContainers source rest inner
          (count + 1, last)

/-- Whether a line that begins at a place goes on with all containers, and the place behind their
marks. -/
def matchLine (source : Source) (containers : List Container) (place : Nat) : Bool × Cursor :=
  let (count, cursor) := matchContainers source containers (.start place)
  (count == containers.length, cursor)

def pastMarks (source : Source) (containers : List Container) (place : Nat) : Nat :=
  (matchContainers source containers (.start place)).2.place

end FlagBoard.Markdown
