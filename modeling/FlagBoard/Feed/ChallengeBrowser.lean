import FlagBoard.Feed.View

/-!
The challenge browser. Its challenges are given once and grouped by category, the categories in the
order in which they first appear; the stream only replaces the live rows.
-/

namespace FlagBoard

structure Group where
  category : String
  challenges : List Challenge
  deriving DecidableEq, Repr

namespace Group

/-- Adds a challenge to the group of its category, or as a new group at the end. -/
def add (challenge : Challenge) : List Group → List Group
  | [] => [⟨challenge.category, [challenge]⟩]
  | group :: rest =>
      if group.category = challenge.category then
        { group with challenges := group.challenges ++ [challenge] } :: rest
      else group :: add challenge rest

def ofChallenges (challenges : List Challenge) : List Group :=
  challenges.foldl (fun groups challenge => add challenge groups) []

end Group

structure ChallengeBrowser where
  groups : List Group
  rows : List LiveRow
  deriving DecidableEq, Repr

namespace ChallengeBrowser

def empty : ChallengeBrowser := ⟨[], []⟩

def ofChallenges (challenges : List Challenge) : ChallengeBrowser :=
  ⟨Group.ofChallenges challenges, []⟩

/-- Live rows replace those shown; teams and challenges are ignored. -/
def accept (browser : ChallengeBrowser) : Message → Option ChallengeBrowser
  | .rows rows => some { browser with rows }
  | .teams _ => none
  | .challenges _ => none

instance : View ChallengeBrowser := ⟨empty, accept⟩

def isSolved (browser : ChallengeBrowser) (tag : String) : Bool :=
  browser.rows.any fun row => row.challenge.tag == tag && row.solvedByOwn

/-- Number of teams that have solved a challenge, by the first live row for it. -/
def solvesOf (browser : ChallengeBrowser) (tag : String) : Nat :=
  match browser.rows.find? fun row => row.challenge.tag == tag with
  | some row => row.solves.length
  | none => 0

end ChallengeBrowser

end FlagBoard
