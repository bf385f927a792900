import FlagBoard.Markdown.DefinitionReader
import FlagBoard.Markdown.LineReader

/-!
Reading the blocks of a document from the first to the last. Each begins on a line of its own; the
line is matched against the containers that are open (quotes, lists and their items), which closes
those that it does not go on with, and may open others. The block then takes all lines that belong
to it.
-/

namespace FlagBoard.Markdown

structure Opened where
  container : Container
  start : Nat
  parts : List Node
  deriving Repr

structure Reader where
  /-- The open containers, the innermost first. -/
  spine : List Opened
  /-- The blocks outside all containers, the last first. -/
  blocks : List Node
  /-- Whether a blank line came last. -/
  blank : Bool
  /-- The place behind the first line of an item that has nothing in it yet. -/
  bare : Option Nat
  definitions : List Definition
  deriving Repr

namespace Reader

def start : Reader := ⟨[], [], false, none, []⟩

def containers (reader : Reader) : List Container :=
  (reader.spine.map Opened.container).reverse

def push (reader : Reader) (block : Node) : Reader :=
  match reader.spine with
  | [] => { reader with blocks := block :: reader.blocks }
  | opened :: outer =>
      { reader with spine := { opened with parts := block :: opened.parts } :: outer }

def close (stop : Nat) (opened : Opened) : Node :=
  let parts := opened.parts.reverse
  match opened.container with
  | .quote => .block opened.start stop .quote parts
  | .item indent => .block opened.start stop (.item indent) parts
  | .list tight _ start =>
      .block opened.start stop (.list start) (if tight then parts.map Node.tighten else parts)

def pop (stop : Nat) (reader : Reader) : Reader :=
  match reader.spine with
  | [] => reader
  | opened :: outer =>
      let bare := match opened.container with
        | .list true _ _ => none
        | _ => reader.bare
      push { reader with spine := outer, bare } (close stop opened)

def popTo (stop depth : Nat) (reader : Reader) : Reader :=
  (List.range (reader.spine.length - depth)).foldl (fun reader _ => reader.pop stop) reader

def enter (container : Container) (start : Nat) (reader : Reader) : Reader :=
  { reader with spine := ⟨container, start, []⟩ :: reader.spine }

def loosenOuter (reader : Reader) : Reader :=
  match reader.spine with
  | inner :: ⟨.list _ mark first, start, parts⟩ :: outer =>
      { reader with spine := inner :: ⟨.list false mark first, start, parts⟩ :: outer }
  | _ => reader

def finishBareItem (reader : Reader) : Reader :=
  let next :=
    match reader.bare, reader.blank, reader.spine with
    | some stop, true, ⟨.item _, _, _⟩ :: _ => reader.pop stop
    | _, _, _ => reader
  { next with bare := none }

/-- Closes a list, so that a block can follow it. A blank line before that block makes the list
loose that the block is in. -/
def finishList (stop : Nat) (reader : Reader) : Reader :=
  let next := reader.finishBareItem
  let next := match next.spine with
    | ⟨.list _ _ _, _, _⟩ :: _ => next.pop stop
    | _ => next
  if next.blank then { next.loosenOuter with blank := false } else next

def continueList (mark : ListMark) (place : Nat) (reader : Reader) : Reader :=
  let next := reader.finishBareItem
  let fresh (reader : Reader) : Reader :=
    { reader.enter (.list true mark.mark mark.start) place with blank := false }
  match next.spine with
  | ⟨.list tight existing first, start, parts⟩ :: outer =>
      if existing = mark.mark then
        { next with
            spine := ⟨.list (tight && !next.blank) existing first, start, parts⟩ :: outer
            blank := false }
      else fresh (next.finishList place)
  | _ :: _ => fresh (next.finishList place)
  | [] => fresh next

def takeBlank (reader : Reader) : Reader :=
  match reader.spine with
  | ⟨.quote, _, _⟩ :: _ => reader
  | ⟨.item indent, start, parts⟩ :: outer =>
      let indent := if reader.bare.isSome then 0 else indent
      { reader with spine := ⟨.item indent, start, parts⟩ :: outer, blank := true }
  | _ => { reader with blank := true }

/-- The text of a line of code up to a place. A carriage return before its last character is left
out. -/
def codeText (source : Source) (start stop : Nat) : List Char :=
  let isNarrow := source[stop - 1]?.any fun c => c.toNat < 0x80
  if 2 ≤ stop ∧ source[stop - 2]? = some '\r' ∧ isNarrow then
    source.slice start (stop - 2) ++ source.slice (stop - 1) stop
  else source.slice start stop

def owedText (owed : Nat) : List Char := List.replicate owed ' '

/-- The lines of indented code from a place on, in as many steps as are given: of each whether it is
blank, its text, and its end. -/
def indentedLines (source : Source) (containers : List Container) :
    Nat → Bool → Nat → Nat → List (Bool × List Char × Nat)
  | 0, _, _, _ => []
  | steps + 1, blank, owed, place =>
      let next := source.pastFeed place
      let line := (blank, owedText owed ++ codeText source place next, next)
      let (current, cursor) := matchLine source containers next
      let (missing, inner) := cursor.pass source 4
      if !current || (missing != 0 && !inner.endsLine source) || inner.place == source.size then
        [line]
      else
        line :: indentedLines source containers steps (source.isBlank inner.place) inner.owed
          inner.place

/-- Reads indented code. The blank lines at its end do not belong to it. -/
def readIndented (source : Source) (reader : Reader) (owed place : Nat) : Reader × Nat :=
  let lines := indentedLines source reader.containers (source.size + 1) false owed place
  let solid := (lines.reverse.dropWhile Prod.fst).reverse
  let stopOf (lines : List (Bool × List Char × Nat)) : Nat :=
    lines.getLast?.elim place fun line => line.2.2
  let text := solid.flatMap fun line => line.2.1
  let next := reader.push (.block place (stopOf solid) (.code none text) [])
  ({ next with blank := solid.length != lines.length }, stopOf lines)

/-- The text of code between fences from a line on, in as many steps as are given, the end of the
code and the place to go on at. A line that leaves the containers ends the code and is read again,
even if it is blank. -/
def fencedText (source : Source) (containers : List Container) (mark : Char) (count indent : Nat) :
    Nat → Nat → List Char × Nat × Nat
  | 0, place => ([], place, place)
  | steps + 1, place =>
      let (current, cursor) := matchLine source containers place
      if !current then ([], place, place)
      else
        let (_, inner) := cursor.pass source indent
        let (missing, atFence) := inner.pass source (4 - indent)
        match if missing = 0 then none else source.closeFence mark count atFence.place with
        | some stop => ([], stop, (source.pastBlank stop).getD stop)
        | none =>
            let next := source.pastFeed inner.place
            let (text, ends) := fencedText source containers mark count indent steps next
            (owedText inner.owed ++ codeText source inner.place next ++ text, ends)

def readFenced (source : Source) (reader : Reader) (mark : Char) (count indent place : Nat) :
    Reader × Nat :=
  let infoStart := source.passWhile isGap (place + count)
  let next := source.pastFeed infoStart
  let info := ((source.slice infoStart next).reverse.dropWhile isGapOrBreak).reverse
  let (text, stop, resume) :=
    fencedText source reader.containers mark count indent (source.size + 1) next
  (reader.push (.block place stop (.code (some (unescape false info)) text) []), resume)

/-- The indentation of raw HTML on lines from a place on, in as many steps as are given, the end of
the HTML and the place to go on at. It ends behind a line with its own ending or, where it has
none, before a blank line. -/
def htmlSpaces (source : Source) (containers : List Container) (ending : Option (List Char)) :
    Nat → Nat → Nat → List Char × Nat × Nat
  | 0, _, place => ([], place, place)
  | steps + 1, owed, place =>
      let next := source.pastFeed place
      let (current, cursor) := matchLine source containers next
      let endsHere : Bool :=
        match ending with
        | some word => ((source.upTo next).findPast word place).isSome
        | none => cursor.endsLine source
      let endsBelow : Bool :=
        cursor.place == source.size || (ending.isNone && source.isBlank cursor.place)
      if !current || endsHere then (owedText owed, next, next)
      else if endsBelow then (owedText owed, cursor.place, next)
      else
        let (spaces, stop, resume) :=
          htmlSpaces source containers ending steps cursor.owed cursor.place
        (owedText owed ++ spaces, stop, resume)

def readHtml (source : Source) (reader : Reader) (ending : Option (List Char)) (owed place : Nat) :
    Reader × Nat :=
  let (spaces, stop, next) :=
    htmlSpaces source reader.containers ending (source.size + 1) owed place
  (reader.push (.block place stop (.html spaces) []), next)

/-- The ending of the block of raw HTML that begins at a place, if one does. -/
def htmlEnding? (source : Source) (place : Nat) : Option (Option (List Char)) :=
  if source[place]? = some '<' then
    match RawHtml.blockEnding source (place + 1) with
    | some ending => some (some ending)
    | none =>
        if RawHtml.startsBlockTag source (place + 1) || RawHtml.isLoneTag source (place + 1) then
          some none
        else none
  else none

/-- Length of the text of a heading without the number signs that may close it. -/
def headingLength (text : List Char) : Nat :=
  let trimmed := text.reverse.dropWhile fun c => c == ' ' || isBreak c
  let behind := trimmed.dropWhile (· == '#')
  match behind with
  | [] => 0
  | last :: _ => if last = ' ' then (behind.dropWhile (· == ' ')).length else trimmed.length

def readHeading (source : Source) (reader : Reader) (level place : Nat) : Reader × Nat :=
  let behind := place + level
  match source.pastBreak behind with
  | some next => (reader.push (.block place next (.heading level) []), next)
  | none =>
      let start := source.passWhile isGap behind
      let line := source.readLine false start
      let remains := match line.ending with
        | .backslash breakStart => Node.text breakStart line.next
        | _ => []
      let limit := start + headingLength (source.slice start line.next)
      let parts := match (line.parts ++ remains).reverse with
        | [] => []
        | last :: before => (last.stopAt limit :: before).reverse
      (reader.push (.block place line.next (.heading level) parts), line.next)

/-- The cells of a row from a place on, in as many steps as are given, and the place behind the
row. -/
def readCells (source : Source) : Nat → Nat → List (Nat × Nat × List Node) × Nat
  | 0, place => ([], place)
  | steps + 1, place =>
      let cellStart := if source[place]? = some '|' then place + 1 else place
      let textStart := source.passWhile isGap cellStart
      match source.pastBreak textStart with
      | some next => ([], next)
      | none =>
          let line := source.readLine true textStart
          let (cells, stop) := readCells source steps line.next
          ((cellStart, line.next, line.parts) :: cells, stop)

/-- Reads a row, brought to the columns of its table. Without any cell it is none. -/
def readRow (source : Source) (header : Bool) (columns : List Alignment) (place : Nat) :
    Option (Node × Nat) :=
  let (cells, next) := readCells source (source.size + 1) place
  let missing := List.replicate (columns.length - cells.length) (next, next, ([] : List Node))
  let nodes := (columns.zip (cells ++ missing)).map fun (alignment, start, stop, parts) =>
    Node.block start stop (.cell header alignment) parts
  if cells.isEmpty && !header then none else some (.block place next (.row header) nodes, next)

/-- The rows of a table from a place on, in as many steps as are given, and the place behind
them. -/
def readRows (source : Source) (containers : List Container) (columns : List Alignment) :
    Nat → Nat → List Node × Nat
  | 0, place => ([], place)
  | steps + 1, place =>
      let (current, cursor) := matchLine source containers place
      let start := (cursor.passAll source).place
      if !current || source.breaksIn true true start then ([], place)
      else
        match readRow source false columns start with
        | none => ([], place)
        | some (row, next) =>
            let (rows, stop) := readRows source containers columns steps next
            (row :: rows, stop)

def readTable (source : Source) (reader : Reader) (columns : List Alignment) (place body : Nat) :
    Reader × Nat :=
  let header := (readRow source true columns place).toList.map Prod.fst
  let (rows, next) := readRows source reader.containers columns (source.size + 1) body
  (reader.push (.block place next .table (header ++ rows)), next)

/-- The lines of a paragraph from a place on, in as many steps as are given: its tokens, the level
of the heading that it turns out to be, if it is underlined, and the place behind it. -/
def readLines (source : Source) (containers : List Container) :
    Nat → Nat → List Node × Option Nat × Nat
  | 0, place => ([], none, place)
  | steps + 1, place =>
      let line := source.readLine false place
      let (current, cursor) := matchLine source containers line.next
      let (missing, inner) := cursor.pass source 4
      let here := line.parts ++ line.ending.remains
      let stops := missing ≠ 0 ∧ interrupts source containers current inner.place
      let underline :=
        if missing ≠ 0 ∧ current then source.readUnderline inner.place else none
      match underline with
      | some (level, next) => (here, some level, next)
      | none =>
          let resume := inner.passAll source
          if stops ∨ resume.endsLine source then (here, none, line.next)
          else
            let (more, level, next) := readLines source containers steps resume.place
            (line.parts ++ line.ending.nodes line.next ++ more, level, next)

def readParagraph (source : Source) (reader : Reader) (place : Nat) : Reader × Nat :=
  let head := match (source.readLine false place).ending with
    | .backslash _ => none
    | _ => Table.readHead source reader.containers place
  match head with
  | some (columns, body) => readTable source reader columns place body
  | none =>
      let (parts, level, next) := readLines source reader.containers (source.size + 1) place
      let kind := level.elim Kind.paragraph Kind.heading
      (reader.push (.block place next kind parts), next)

/-- Reads definitions, in as many steps as are given, and the paragraph behind them. -/
def readText (source : Source) : Nat → Reader → Nat → Reader × Nat
  | 0, reader, place => readParagraph source reader place
  | steps + 1, reader, place =>
      match source.readDefinition reader.containers place with
      | none => readParagraph source reader place
      | some (definition, stop) =>
          let reader := { reader with definitions := reader.definitions ++ [definition] }
          let next := (source.pastBlank stop).getD stop
          let (current, cursor) := matchLine source reader.containers next
          let (missing, inner) := cursor.pass source 4
          if missing ≠ 0 ∧ interrupts source reader.containers current inner.place then
            (reader, next)
          else readText source steps reader inner.place

/-- Reads the block that begins behind the marks of its containers, on a line that begins at a
place. -/
def readLeaf (source : Source) (lineStart : Nat) (reader : Reader) (cursor : Cursor) :
    Reader × Nat :=
  match source.pastBlank cursor.place with
  | some next => (reader.takeBlank, next)
  | none =>
      let next := reader.finishList lineStart
      let (indent, inner) := cursor.passUpTo source 4
      let place := inner.place
      if indent = 4 then readIndented source next inner.owed place
      else
        match htmlEnding? source place with
        | some ending => readHtml source next ending (max cursor.owed indent) place
        | none =>
            if source.isRule place then
              let stop := source.passWhile (fun c => !isBreak c) place
              let behind := (source.pastBreak stop).getD stop
              (next.push (.block place behind .rule []), behind)
            else
              match source.headingLevel place, source.readFence place with
              | some level, _ => readHeading source next level place
              | none, some (mark, count) => readFenced source next mark count indent place
              | none, none => readText source (source.size + 1) next place

/-- Opens the containers that a line begins, in as many steps as are given, and then reads a
block. -/
def openContainers (source : Source) (lineStart : Nat) : Nat → Reader → Cursor → Reader × Nat
  | 0, reader, cursor => readLeaf source lineStart reader cursor
  | steps + 1, reader, cursor =>
      let (indent, inner) := cursor.passUpTo source 4
      if 4 ≤ indent then readLeaf source lineStart reader cursor
      else
        match inner.passListMark source indent with
        | some (mark, width, behind) =>
            let next := (reader.continueList mark inner.place).enter (.item width) inner.place
            match source.pastBlank behind.place with
            | some stop => ({ next with bare := some stop }, stop)
            | none => openContainers source lineStart steps next behind
        | none =>
            match inner.passQuote source with
            | some behind =>
                let next := (reader.finishList lineStart).enter .quote inner.place
                openContainers source lineStart steps next behind
            | none => readLeaf source lineStart reader cursor

/-- Reads the block on the line that begins at a place. The result has the place to go on at. -/
def readBlock (source : Source) (reader : Reader) (place : Nat) : Reader × Nat :=
  let (count, cursor) := matchContainers source reader.containers (.start place)
  openContainers source place (source.size + 1) (reader.popTo place count) cursor

def readBlocks (source : Source) : Nat → Reader → Nat → Reader
  | 0, reader, _ => reader
  | steps + 1, reader, place =>
      if source.size ≤ place then reader
      else
        let (next, resume) := readBlock source reader place
        readBlocks source steps next resume

def readAll (source : Source) : List Node × List Definition :=
  let last := (readBlocks source (source.size + 1) start 0).popTo source.size 0
  (last.blocks.reverse, last.definitions)

end Reader

end FlagBoard.Markdown
