import FlagBoard.Markdown.Element

/-!
Emphasis. Runs of stars, underscores and tildes open and close spans. A closing run takes the
nearest opening run it fits; runs between the two become text, and so does what stays open.
-/

namespace FlagBoard.Markdown

inductive Part
  | element (element : Element)
  /-- A run of so many marks. Where one of them is left as text, it brings white space with it. -/
  | run (mark : Char) (count : Nat) (space : List Char) (opens closes : Bool)
  deriving Repr

structure Opening where
  mark : Char
  /-- How many of its marks are left, and how many it had. -/
  left : Nat
  length : Nat
  /-- The white space that belongs to its last mark. -/
  space : List Char
  /-- Whether it might also have closed a span. -/
  both : Bool
  /-- What stands behind it so far, the last first. -/
  inside : List Element
  deriving Repr

structure Spans where
  /-- Open runs, the innermost first. -/
  openings : List Opening
  /-- What stands before them, the last first. -/
  outside : List Element
  /-- Number of outer runs that no tilde can close any more: one has been tried in vain. -/
  settled : Nat
  deriving Repr

namespace Spans

def runText (mark : Char) (count : Nat) (space : List Char) : Element :=
  .text (List.replicate count mark ++ space)

def push (spans : Spans) (elements : List Element) : Spans :=
  match spans.openings with
  | [] => { spans with outside := elements ++ spans.outside }
  | opening :: rest =>
      { spans with openings := { opening with inside := elements ++ opening.inside } :: rest }

/-- What open runs and the elements behind them are as text, the last first. -/
def dissolve (openings : List Opening) : List Element :=
  openings.flatMap fun opening =>
    opening.inside ++ [runText opening.mark opening.left opening.space]

def finish (spans : Spans) : List Element := dissolve spans.openings ++ spans.outside

/-- Whether a closing run takes an opening one. Tildes need the same length. Of runs that could do
both, the lengths must not add up to a multiple of three, unless each is one. -/
def fits (mark : Char) (length : Nat) (both : Bool) (opening : Opening) : Bool :=
  opening.mark == mark && (mark != '~' || opening.length == length) &&
    ((!both && !opening.both) || (length + opening.length) % 3 != 0 || length % 3 == 0)

def depth? (mark : Char) (length : Nat) (both : Bool) (spans : Spans) : Option Nat :=
  let reach := spans.openings.length - if mark = '~' then spans.settled else 0
  (spans.openings.take reach).findIdx? (fits mark length both)

def wrap (mark : Char) : Nat → List Element → List Element
  | 0, content => content
  | 1, content => [if mark = '~' then .struck content else .emphasis content]
  | count + 2, content => wrap mark count [if mark = '~' then .struck content else .strong content]

/-- Closes spans by a run of a given length, of which some marks are left, in as many steps as are
given. The second result is how many are left in the end. -/
def close (mark : Char) (length : Nat) (both : Bool) : Nat → Nat → Spans → Spans × Nat
  | 0, left, spans => (spans, left)
  | steps + 1, left, spans =>
      if left = 0 then (spans, 0)
      else
        match spans.depth? mark length both with
        | none =>
            let settled := if mark = '~' then spans.openings.length else spans.settled
            ({ spans with settled }, left)
        | some depth =>
            match spans.openings.drop depth with
            | [] => (spans, left)
            | opening :: rest =>
                let count := min left opening.left
                let content := (dissolve (spans.openings.take depth) ++ opening.inside).reverse
                let openings :=
                  if count < opening.left then
                    { opening with left := opening.left - count, inside := [] } :: rest
                  else rest
                let below : Spans := ⟨openings, spans.outside, min spans.settled rest.length⟩
                close mark length both steps (left - count)
                  (below.push (wrap opening.mark count content).reverse)

def add (spans : Spans) : Part → Spans
  | .element element => spans.push [element]
  | .run mark count space opens closes =>
      let both := opens && closes
      let (closed, left) :=
        if closes then close mark count both count count spans else (spans, count)
      if left = 0 then closed
      else if opens then
        { closed with openings := ⟨mark, left, count, space, both, []⟩ :: closed.openings }
      else closed.push [runText mark left space]

end Spans

def emphasise (parts : List Part) : List Element :=
  (parts.foldl Spans.add ⟨[], [], 0⟩).finish.reverse

end FlagBoard.Markdown
