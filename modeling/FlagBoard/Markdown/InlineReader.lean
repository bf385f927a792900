import FlagBoard.Markdown.Autolink
import FlagBoard.Markdown.BlockReader
import FlagBoard.Markdown.Emphasis

/-!
Reading what the tokens of a block mean. They are taken from the first to the last: addresses and
raw HTML, code, and brackets on a stack until they are closed; then emphasis, inside each link and
around it apart. In a tight list texts and blocks stand side by side, and all but code may begin
before a block and end behind it.
-/

namespace FlagBoard.Markdown

inductive Sibling
  | token (start stop : Nat) (part : Token)
  | block (start stop : Nat) (element : Element)
  deriving Repr

namespace Sibling

def start : Sibling → Nat
  | .token start _ _ => start
  | .block start _ _ => start

def stop : Sibling → Nat
  | .token _ stop _ => stop
  | .block _ stop _ => stop

def startFrom (place : Nat) : Sibling → Sibling
  | .token start stop part => .token (max start place) stop part
  | .block start stop element => .block (max start place) stop element

def reaching (place : Nat) (siblings : List Sibling) : List Sibling :=
  siblings.dropWhile fun sibling => sibling.stop ≤ place

def behind (place : Nat) (siblings : List Sibling) : List Sibling :=
  match reaching place siblings with
  | [] => []
  | first :: rest => first.startFrom place :: rest

end Sibling

structure Setting where
  /-- The document up to the end of the block. -/
  source : Source
  definitions : List Definition
  /-- The containers around the text, the outermost first. -/
  containers : List Container
  inCell : Bool
  deriving Repr

structure Bracket where
  image : Bool
  /-- How it is written. -/
  text : List Char
  /-- Whether it may still become a link. -/
  active : Bool
  /-- Where the bracket stands. -/
  place : Nat
  /-- The parts before it, the last first. -/
  outer : List Part
  deriving Repr

structure Reading where
  /-- The parts so far, behind the innermost bracket, the last first. -/
  parts : List Part
  /-- The open brackets, the innermost first. -/
  brackets : List Bracket
  deriving Repr

namespace Reading

def push (reading : Reading) (element : Element) : Reading :=
  { reading with parts := .element element :: reading.parts }

def flat (reading : Reading) : List Part :=
  reading.brackets.foldl
    (fun parts bracket => parts ++ .element (.text bracket.text) :: bracket.outer) reading.parts

/-- Turns the innermost bracket into text, together with the one that closes it. -/
def dropBracket (reading : Reading) (bracket : Bracket) (rest : List Bracket)
    (closing : Element) : Reading :=
  ⟨.element closing :: reading.parts ++ .element (.text bracket.text) :: bracket.outer, rest⟩

/-- Turns the innermost bracket into a link or image. Brackets around a link cannot become links
themselves. -/
def closeBracket (reading : Reading) (bracket : Bracket) (rest : List Bracket)
    (destination title : List Char) : Reading :=
  let content := emphasise reading.parts.reverse
  let element :=
    if bracket.image then Element.image destination title content
    else Element.link false destination title content
  let brackets :=
    if bracket.image then rest
    else rest.map fun outer => if outer.image then outer else { outer with active := false }
  ⟨.element element :: bracket.outer, brackets⟩

end Reading

namespace Setting

/-- The place behind the marks of containers on a line that begins at a place. -/
def resume (setting : Setting) (line : Nat) : Nat :=
  pastMarks setting.source setting.containers line

/-- Code from a place on as it is written, less the marks of containers, in as many steps as are
given. Each character of a line break is a space. -/
def codeFrom (setting : Setting) : Nat → Nat → List Char
  | 0, _ => []
  | steps + 1, place =>
      match setting.source[place]? with
      | none => []
      | some c =>
          if isBreak c then ' ' :: codeFrom setting steps (setting.resume (place + 1))
          else if setting.inCell && setting.source.holdsAt ['\\', '|'] place then
            '|' :: codeFrom setting steps (place + 2)
          else c :: codeFrom setting steps (place + 1)

/-- Code between two places. One space is dropped at both ends if both have one and there is more
than spaces. -/
def code (setting : Setting) (start stop : Nat) : List Char :=
  let inner := { setting with source := setting.source.upTo stop }
  let chars := inner.codeFrom (stop - start) start
  if chars.head? = some ' ' ∧ chars.getLast? = some ' ' ∧ !chars.all (· == ' ') then
    (chars.drop 1).dropLast
  else chars

def passSeparator (setting : Setting) (place : Nat) : Nat :=
  let next := setting.source.passWhile isGap place
  match setting.source.pastBreak next with
  | some line => setting.source.passWhile isGap (setting.resume line)
  | none => next

/-- Reads a title from behind its opening mark as it is meant, in as many steps as are given. The
next line begins with its first token. -/
def readTitleFrom (setting : Setting) (opening closing : Char) (rest : List Sibling) :
    Nat → Nat → Option (List Char × Nat)
  | 0, _ => none
  | steps + 1, place => do
      let c ← setting.source[place]?
      let keep (chars : List Char) (next : Nat) : Option (List Char × Nat) :=
        (readTitleFrom setting opening closing rest steps next).map
          fun (text, stop) => (chars ++ text, stop)
      let line :=
        (Sibling.reaching (place + 1) rest).head?.filter fun first => place < first.start
      if c = closing then some ([], place + 1)
      else if c = opening then none
      else
        match if isBreak c then line else none with
        | some first => keep ['\n'] first.start
        | none =>
            match if c = '&' then setting.source.readReference place else none with
            | some (chars, next) => keep chars next
            | none =>
                if setting.inCell && setting.source.isPipePair place then keep ['|'] (place + 3)
                else if setting.source.isEscape place then
                  keep (setting.source.slice (place + 1) (place + 2)) (place + 2)
                else keep [c] (place + 1)

def readTitle (setting : Setting) (rest : List Sibling) (place : Nat) :
    Option (List Char × Nat) := do
  let opening ← setting.source[place]?
  if opening = '"' ∨ opening = '\'' ∨ opening = '(' then
    setting.readTitleFrom opening (if opening = '(' then ')' else opening) rest
      setting.source.size (place + 1)
  else none

/-- Most parentheses that another may open inside in the destination of a link. -/
def linkNesting : Nat := 32

/-- Reads the destination and title of a link in parentheses at a place, and gives the place behind
them. -/
def readTarget (setting : Setting) (rest : List Sibling) (place : Nat) :
    Option (List Char × List Char × Nat) := do
  if setting.source[place]? ≠ some '(' then none
  else
    let start := setting.passSeparator (place + 1)
    let (destination, stop) ← setting.source.readDestination linkNesting start
    let titleStart := setting.passSeparator stop
    let (title, last) :=
      match setting.readTitle rest titleStart with
      | some (title, titleStop) => (title, setting.passSeparator titleStop)
      | none => ([], titleStart)
    if setting.source[last]? = some ')' then
      some (unescape setting.inCell destination, title, last + 1)
    else none

def readLabel (setting : Setting) (place : Nat) : Option (List Char × Nat) :=
  setting.source.readLabel setting.inCell (fun line => some (setting.resume line)) place

def ownDefinition (setting : Setting) (bracket : Bracket) (stop : Nat) : Option Definition :=
  match { setting with source := setting.source.upTo stop }.readLabel bracket.place with
  | some (label, next) =>
      if next = stop then findDefinition setting.definitions label else none
  | none => none

/-- The definition that a bracket closed before a place refers to, with the parts behind the
reference. Where that is none, these are the parts behind the bracket; the end of a label that was
tried is then no end of a reference by itself. -/
def readReference (setting : Setting) (bracket : Bracket) (free : Bool) (stop : Nat)
    (rest : List Sibling) : Option Definition × List Sibling :=
  let own (behind : List Sibling) : Option Definition × List Sibling :=
    match if free then setting.ownDefinition bracket stop else none with
    | some definition => (some definition, behind)
    | none => (none, rest)
  match rest with
  | [] => own []
  | next :: _ =>
      if setting.source.holdsAt ['[', ']'] next.start then own (rest.drop 2)
      else
        match setting.readLabel next.start with
        | none => own rest
        | some (label, labelStop) =>
            match Sibling.reaching (labelStop - 1) rest with
            | [] => (none, rest)
            | last :: behind =>
                match findDefinition setting.definitions label with
                | some definition => (some definition, behind)
                | none =>
                    let inside := rest.take (rest.length - behind.length - 1)
                    (none, inside ++ .token last.start last.stop (.closing false) :: behind)

def readClosing (setting : Setting) (reading : Reading) (free : Bool) (start stop : Nat)
    (rest : List Sibling) : Reading × List Sibling :=
  let closing := Element.text (setting.source.slice start stop)
  match reading.brackets with
  | [] => (reading.push closing, rest)
  | bracket :: outer =>
      if !bracket.active then (reading.dropBracket bracket outer closing, rest)
      else
        match setting.readTarget rest stop with
        | some (destination, title, next) =>
            (reading.closeBracket bracket outer destination title, Sibling.behind next rest)
        | none =>
            match setting.readReference bracket free stop rest with
            | (some definition, behind) =>
                (reading.closeBracket bracket outer definition.destination definition.title, behind)
            | (none, behind) => (reading.dropBracket bracket outer closing, behind)

def readAngle (setting : Setting) (reading : Reading) (start stop : Nat) (rest : List Sibling) :
    Reading × List Sibling :=
  let next := rest.head?.map Sibling.start
  match next.bind (Autolink.read setting.source) with
  | some found =>
      let shown := Element.text (setting.source.slice (start + 1) (found.next - 1))
      (reading.push (.link found.mail found.address [] [shown]), Sibling.behind found.next rest)
  | none =>
      match next.bind (RawHtml.passInline setting.source setting.resume) with
      | some last => (reading.push .rawHtml, Sibling.behind last rest)
      | none => (reading.push (.text (setting.source.slice start stop)), rest)

/-- The parts from the run of backticks on that closes code, before any block. -/
def closeTicks (count : Nat) : List Sibling → Option (Nat × List Sibling)
  | .token start _ (.ticks found _) :: rest =>
      if found = count then some (start, rest) else closeTicks count rest
  | .token _ _ _ :: rest => closeTicks count rest
  | _ => none

/-- Reads a run of backticks. Of one behind a backslash the first is text. -/
def readTicks (setting : Setting) (reading : Reading) (count : Nat) (escaped : Bool)
    (start stop : Nat) (rest : List Sibling) : Reading × List Sibling :=
  let width := if escaped then count - 1 else count
  match if width = 0 then none else closeTicks width rest with
  | some (close, behind) =>
      let before := if escaped then reading.push (.text ['\x60']) else reading
      (before.push (.code (setting.code stop close)), behind)
  | none => (reading.push (.text (setting.source.slice start stop)), rest)

def readPart (setting : Setting) (reading : Reading) (part : Sibling) (rest : List Sibling) :
    Reading × List Sibling :=
  match part with
  | .block _ _ element => (reading.push element, rest)
  | .token start stop what =>
      match what with
      | .text => (reading.push (.text (setting.source.slice start stop)), rest)
      | .meant chars => (reading.push (.text chars), rest)
      | .softBreak => (reading.push .softBreak, rest)
      | .hardBreak => (reading.push .hardBreak, rest)
      | .run mark count opens closes =>
          let space := setting.source.slice (start + count) stop
          ({ reading with parts := .run mark count space opens closes :: reading.parts }, rest)
      | .ticks count escaped => setting.readTicks reading count escaped start stop rest
      | .angle => setting.readAngle reading start stop rest
      | .opening image =>
          let text := setting.source.slice start stop
          (⟨[], ⟨image, text, true, stop - 1, reading.parts⟩ :: reading.brackets⟩, rest)
      | .closing free => setting.readClosing reading free start stop rest

def readParts (setting : Setting) : Nat → Reading → List Sibling → Reading
  | 0, reading, _ => reading
  | _, reading, [] => reading
  | steps + 1, reading, part :: rest =>
      let (next, behind) := setting.readPart reading part rest
      readParts setting steps next behind

def read (setting : Setting) (siblings : List Sibling) : List Element :=
  emphasise (setting.readParts siblings.length ⟨[], []⟩ siblings).flat.reverse

def within (setting : Setting) (stop : Nat) (kind : Kind) : Setting :=
  let inner := { setting with source := setting.source.upTo stop }
  match kind with
  | .quote => { inner with containers := setting.containers ++ [.quote] }
  | .item indent => { inner with containers := setting.containers ++ [.item indent] }
  | .cell _ _ => { inner with inCell := true }
  | _ => inner

end Setting

mutual

def Node.read (setting : Setting) : Node → Sibling
  | .token start stop part => .token start stop part
  | .block start stop kind parts =>
      let inner := setting.within stop kind
      .block start stop (.block kind (inner.read (readNodes inner parts)))

def readNodes (setting : Setting) : List Node → List Sibling
  | [] => []
  | node :: rest => node.read setting :: readNodes setting rest

end

def readDocument (text : List Char) : List Element :=
  let (nodes, definitions) := Reader.readAll text.toArray
  let setting : Setting := ⟨text.toArray, definitions, [], false⟩
  setting.read (readNodes setting nodes)

end FlagBoard.Markdown
