import FlagBoard.Markdown.Node
import FlagBoard.Markdown.Reference
import FlagBoard.Markdown.Run

/-!
Cutting a line of text into tokens.
-/

namespace FlagBoard.Markdown

inductive Ending
  /-- With the text, or with a cell. -/
  | none
  | softBreak (start : Nat)
  | hardBreak (start : Nat)
  /-- With a backslash, which breaks the line if there is a next. -/
  | backslash (start : Nat)
  deriving DecidableEq, Repr

def Ending.nodes (ending : Ending) (next : Nat) : List Node :=
  match ending with
  | .none => []
  | .softBreak start => [.token start next .softBreak]
  | .hardBreak start => [.token start next .hardBreak]
  | .backslash start => [.token start next .hardBreak]

def Ending.remains (ending : Ending) : List Node :=
  match ending with
  | .backslash start => Node.text start (start + 1)
  | _ => []

/-- A line of text: its tokens, its end, and the place behind that. -/
structure TextLine where
  parts : List Node
  ending : Ending
  next : Nat
  deriving Repr

namespace Source

/-- The end of a line of text at a place, given where the last text began and the tokens before
that, the last first. -/
def endLine (source : Source) (inCell : Bool) (textStart place : Nat) (parts : List Node) :
    TextLine :=
  let upTo (stop : Nat) : List Node := (Node.text textStart stop ++ parts).reverse
  let next := (source.pastBreak place).getD place
  if inCell || source.size ≤ place then
    ⟨upTo (place - source.countBefore isGap textStart place), .none, place⟩
  else if source.countBefore (· == '\\') 0 place % 2 = 1 ∧ next < source.size then
    ⟨upTo (place - 1), .backslash (place - 1), next⟩
  else
    let gaps := source.countBefore isGap 0 place
    let start := place - gaps
    ⟨upTo start, if 2 ≤ gaps then .hardBreak start else .softBreak start, next⟩

/-- The run of a mark of emphasis at a place, if it may open or close a span. -/
def readRun (source : Source) (inCell : Bool) (mark : Char) (place : Nat) : Option Token :=
  let count := source.countMark mark place
  let around : Surroundings :=
    { before := if place = 0 then none else source[place - 1]?
      after := source[place + count]?
      inCell
      behindPipe := 1 ≤ place && source[place - 1]? == some '|' &&
        !(2 ≤ place && source[place - 2]? == some '\\') }
  let opens := around.mayOpen mark count
  let closes := around.mayClose mark count
  if (opens || closes) && (mark != '~' || count ≤ 2) then some (.run mark count opens closes)
  else none

/-- Cuts on from a place, in as many steps as are given. The last text began at `textStart`; the
tokens before that are given the last first. -/
def readLineFrom (source : Source) (inCell : Bool) : Nat → Nat → Nat → List Node → TextLine
  | 0, textStart, place, parts => source.endLine inCell textStart place parts
  | steps + 1, textStart, place, parts =>
      let onTo (textStart place : Nat) (parts : List Node) : TextLine :=
        readLineFrom source inCell steps textStart place parts
      let before := Node.text textStart place ++ parts
      let token (count : Nat) (token : Token) : TextLine :=
        onTo (place + count) (place + count) (.token place (place + count) token :: before)
      let next := source[place + 1]?
      match source[place]? with
      | none => source.endLine inCell textStart place parts
      | some c =>
          if isBreak c then source.endLine inCell textStart place parts
          else if c = '\\' then
            if !source.isEscape place then onTo textStart (place + 1) parts
            else if next = some '\x60' then
              let ticks := source.countMark '\x60' (place + 1)
              let stop := place + 1 + ticks
              onTo stop stop (.token (place + 1) stop (.ticks ticks true) :: before)
            else if inCell && source.isPipePair place then onTo (place + 2) (place + 3) before
            else onTo (place + 1) (place + 2) before
          else if c = '*' ∨ c = '_' ∨ c = '~' then
            let count := source.countMark c place
            match source.readRun inCell c place with
            | some run => token count run
            | none => onTo textStart (place + count) parts
          else if c = '\x60' then
            let ticks := source.countMark c place
            token ticks (.ticks ticks false)
          else if c = '<' ∧ next ≠ some '\\' then token 1 .angle
          else if c = '!' ∧ next = some '[' then token 2 (.opening true)
          else if c = '[' then token 1 (.opening false)
          else if c = ']' then token 1 (.closing true)
          else if c = '|' ∧ inCell ∧ source[place - 1]? ≠ some '\\' then
            source.endLine inCell textStart place parts
          else
            match if c = '&' then source.readReference place else none with
            | some (chars, stop) => onTo stop stop (.token place stop (.meant chars) :: before)
            | none => onTo textStart (place + 1) parts

def readLine (source : Source) (inCell : Bool) (place : Nat) : TextLine :=
  source.readLineFrom inCell (source.size + 1) place place []

end Source

end FlagBoard.Markdown
