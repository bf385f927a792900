import FlagBoard.Markdown.Cursor
import FlagBoard.Markdown.RawHtml

/-!
What a line can be by itself: a rule, a heading, a fence, the start of a list item, the delimiter
row of a table. Places are behind the marks of the containers and the indentation. Some lines end a
paragraph.
-/

namespace FlagBoard.Markdown

inductive Alignment
  | none
  | left
  | center
  | right
  deriving DecidableEq, Repr

/-- The mark of a list item: its last character, the number before it, and its length. -/
structure ListMark where
  mark : Char
  number : Nat
  length : Nat
  deriving DecidableEq, Repr

namespace ListMark

def isBullet (mark : ListMark) : Bool := mark.mark == '-' || mark.mark == '+' || mark.mark == '*'

def start (mark : ListMark) : Option Nat := if mark.isBullet then none else some mark.number

end ListMark

namespace Source

/-- Whether a line is a rule: three or more of one mark, and gaps. -/
def isRule (source : Source) (place : Nat) : Bool :=
  match source[place]? with
  | some mark =>
      let stop := source.passWhile (fun c => c == mark || c == ' ' || c == '\t') place
      (mark == '*' || mark == '-' || mark == '_') && source.endsLine stop &&
        3 ≤ (source.slice place stop).count mark
  | none => false

def headingLevel (source : Source) (place : Nat) : Option Nat :=
  let level := source.countMark '#' place
  if 1 ≤ level ∧ level ≤ 6 ∧ source[place + level]?.all isGapOrBreak then some level else none

/-- The level that a line under a paragraph gives it as a heading, and the place behind the line. -/
def readUnderline (source : Source) (place : Nat) : Option (Nat × Nat) :=
  let under (mark : Char) (level : Nat) : Option (Nat × Nat) :=
    (source.pastBlank (source.passWhile (· == mark) place)).map fun next => (level, next)
  if source[place]? = some '=' then under '=' 1
  else if source[place]? = some '-' then under '-' 2
  else none

def readFence (source : Source) (place : Nat) : Option (Char × Nat) := do
  let mark ← source[place]?
  let count := source.countMark mark place
  let behind := source.slice (place + count) (source.pastFeed (place + count))
  if (mark = '~' ∨ mark = '\x60' ∧ '\x60' ∉ behind) ∧ 3 ≤ count then some (mark, count) else none

/-- Closes a code fence. Only spaces may follow the marks, and the end of the text needs none. The
result is the place behind the spaces. -/
def closeFence (source : Source) (mark : Char) (count place : Nat) : Option Nat :=
  if source.size ≤ place then some place
  else
    let found := source.countMark mark place
    let stop := source.passWhile (· == ' ') (place + found)
    if count ≤ found ∧ source.endsLine stop then some stop else none

def mostDigits : Nat := 9

/-- Reads the mark of a list item. A point or parenthesis without a number before it counts as one
with the number zero. -/
def readListMark (source : Source) (place : Nat) : Option ListMark := do
  let c ← source[place]?
  if c = '-' ∨ c = '+' ∨ c = '*' then some ⟨c, 0, 1⟩
  else
    let digits := (source.slice place (place + mostDigits)).takeWhile isDigit
    let mark ← source[place + digits.length]?
    if mark = '.' ∨ mark = ')' then some ⟨mark, numberTo 10 digits, digits.length + 1⟩ else none

/-- Whether a line that goes on with its containers in full, or not, would begin a list item here.
An item that is empty, or has another number than one, does not break into a paragraph. -/
def startsItem (source : Source) (current inTable : Bool) (place : Nat) : Bool :=
  match source.readListMark place with
  | some mark =>
      let behind := place + mark.length
      source[behind]?.all (fun c => c == ' ' || c == '\t' || isBreak c) &&
        (!current || inTable ||
          ((mark.isBullet || mark.number == 1) && !source.isBlank behind))
  | none => false

def breaksIn (source : Source) (current inTable : Bool) (place : Nat) : Bool :=
  source.endsLine place || source.isRule place || (source.headingLevel place).isSome ||
    (source.readFence place).isSome || source[place]? == some '>' ||
    source.startsItem current inTable place ||
    (source[place]? == some '<' &&
      ((RawHtml.blockEnding source (place + 1)).isSome ||
        RawHtml.startsBlockTag source (place + 1)))

end Source

/-- Passes the mark of a list item and the white space behind it. The result has the columns that
the content of the item is indented by, counted from the indentation of the mark. -/
def Cursor.passListMark (source : Source) (indent : Nat) (cursor : Cursor) :
    Option (ListMark × Nat × Cursor) := do
  let mark ← source.readListMark cursor.place
  if mark.length = 1 && (!mark.isBullet || source.isRule cursor.place) then none
  else
    let (missing, next) := (cursor.skip mark.length).pass source 1
    if missing = 0 ∨ next.endsLine source then
      let width := indent + mark.length + 1
      if source.isBlank next.place then some (mark, width, next)
      else
        let (more, inner) := next.passUpTo source 4
        if more < 4 then some (mark, width + more, inner) else some (mark, width, next)
    else none

namespace Table

structure Delimiters where
  /-- The columns that are done, the last first. -/
  columns : List Alignment
  column : Alignment
  /-- Whether nothing but spaces has been read of the column. -/
  fresh : Bool
  /-- Whether the column has a dash. -/
  dashed : Bool
  hasPipe : Bool
  hasDash : Bool
  deriving DecidableEq, Repr

/-- Takes the next character of a delimiter row. A colon at the start of a column aligns it to the
left, one after that to the right; a pipe ends a column that has a dash. -/
def Delimiters.take (row : Delimiters) (c : Char) : Option Delimiters :=
  if c = ' ' then some row
  else if c = '-' then some { row with fresh := false, dashed := true, hasDash := true }
  else if c = ':' then
    let column : Alignment :=
      match row.fresh, row.column with
      | true, .none => .left
      | false, .left => .center
      | false, .none => .right
      | _, column => column
    some { row with column, fresh := false }
  else if c = '|' ∧ row.dashed then
    some ⟨row.column :: row.columns, .none, true, false, true, row.hasDash⟩
  else none

def readDelimiters (source : Source) (place : Nat) : Option (List Alignment × Nat) := do
  let inner := source.passWhile (· == ' ') place
  let opened := source[inner]? == some '|'
  let start := if opened then inner + 1 else inner
  let stop := source.passWhile (fun c => !isBreak c) start
  let row ← (source.slice start stop).foldlM Delimiters.take ⟨[], .none, true, false, opened, false⟩
  let columns := if row.fresh then row.columns else row.column :: row.columns
  if 3 < inner - place ∨ !row.hasPipe ∨ !row.hasDash then none
  else some (columns.reverse, (source.pastBreak stop).getD stop)

/-- Number of pipes in a line, less those right behind a backslash, and the place of the last. -/
def countPipes (source : Source) (place : Nat) : Nat × Nat :=
  let stop := source.passWhile (fun c => !isBreak c) place
  (List.range (stop - place)).foldl (fun (count, last) offset =>
    let next := place + offset
    let isEscaped := 0 < offset && source[next - 1]? == some '\\'
    if source[next]? = some '|' ∧ !isEscaped then (count + 1, next) else (count, last)) (0, place)

/-- The columns of the table whose header is the line at a place, and the place behind its delimiter
row. The header has as many cells; a pipe at either end of it divides nothing. -/
def readHead (source : Source) (containers : List Container) (place : Nat) :
    Option (List Alignment × Nat) := do
  let (pipes, last) := countPipes source place
  let below ← source.pastBreak (source.passWhile (fun c => !isBreak c) place)
  let (current, cursor) := matchLine source containers below
  if pipes = 0 ∨ source.size ≤ below ∨ !current then none
  else
    let (columns, next) ← readDelimiters source cursor.place
    let leading := if source[source.passWhile isGap place]? = some '|' then 1 else 0
    let trailing := if source.isBlank (last + 1) then 1 else 0
    if columns.length = pipes + 1 - leading - trailing then some (columns, next) else none

end Table

/-- Whether a line ends a paragraph, by itself or together with the next as the head of a table. -/
def interrupts (source : Source) (containers : List Container) (current : Bool) (place : Nat) :
    Bool :=
  source.breaksIn current false place ||
    (source[place]? == some '|' && (Table.readHead source containers place).isSome)

end FlagBoard.Markdown
