import FlagBoard.Markdown.LinkPart
import FlagBoard.Markdown.Line

/-!
Definitions of what labels stand for. They stand where a paragraph could begin: a label in brackets,
a colon, a destination and perhaps a title. They may go over several lines, as long as none of these
lines would end a paragraph.
-/

namespace FlagBoard.Markdown.Source

def resumeDefinition (source : Source) (containers : List Container) (place : Nat) : Option Nat :=
  let (current, cursor) := matchLine source containers place
  let (missing, inner) := cursor.pass source 4
  if missing ≠ 0 ∧
      (interrupts source containers current inner.place ||
        (source.readUnderline inner.place).isSome) then
    none
  else some inner.place

/-- Passes gaps and one line break at most. The second result tells whether there was one. -/
def passDefinitionSpace (source : Source) (containers : List Container) (place : Nat) :
    Option (Nat × Bool) :=
  let first := source.passWhile isGap place
  match source.pastBreak first with
  | none => some (first, false)
  | some line => do
      let resumed ← source.resumeDefinition containers line
      let next := source.passWhile isGap resumed
      if source.endsLine next then none else some (next, true)

/-- Reads a title from behind its opening mark, as it is written but without the white space that
begins its lines, in as many steps as are given. -/
def readTitleFrom (source : Source) (containers : List Container) (opening closing : Char) :
    Nat → Nat → Option (List Char × Nat)
  | 0, _ => none
  | steps + 1, place => do
      let c ← source[place]?
      let keep (chars : List Char) (next : Nat) : Option (List Char × Nat) :=
        (readTitleFrom source containers opening closing steps next).map
          fun (text, stop) => (chars ++ text, stop)
      if c = closing then some ([], place + 1)
      else if c = opening then none
      else if isBreak c then
        let resumed ← source.resumeDefinition containers (← source.pastBreak place)
        keep ['\n'] (source.passWhile (fun d => d == ' ' || d == '\t') resumed)
      else if source.isEscape place then keep (source.slice place (place + 2)) (place + 2)
      else keep [c] (place + 1)

def readTitle (source : Source) (containers : List Container) (place : Nat) :
    Option (List Char × Nat) := do
  let opening ← source[place]?
  if opening = '"' ∨ opening = '\'' ∨ opening = '(' then
    source.readTitleFrom containers opening (if opening = '(' then ')' else opening) source.size
      (place + 1)
  else none

/-- Most parentheses that another may open inside in the destination of a definition. -/
def definitionNesting : Nat := 1

/-- Reads the definition at a place, and gives the place behind it. A title that does not end its
line is none, and then the destination must end its own. -/
def readDefinition (source : Source) (containers : List Container) (place : Nat) :
    Option (Definition × Nat) := do
  let (label, colon) ← source.readLabel false (source.resumeDefinition containers) place
  if source[colon]? ≠ some ':' then none
  else
    let (start, _) ← source.passDefinitionSpace containers (colon + 1)
    let (destination, stop) ← source.readDestination definitionNesting start
    let plain : Definition := ⟨label, unescape false destination, []⟩
    if stop = start then none
    else
      match source.passDefinitionSpace containers stop with
      | none => some (plain, stop)
      | some (titleStart, broken) =>
          let untitled : Option (Definition × Nat) := if broken then some (plain, stop) else none
          if titleStart = stop then none
          else
            match source.readTitle containers titleStart with
            | some (title, titleStop) =>
                if source.isBlank titleStop then
                  some ({ plain with title := unescape false title }, titleStop)
                else untitled
            | none => untitled

end FlagBoard.Markdown.Source
