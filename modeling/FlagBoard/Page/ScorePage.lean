import FlagBoard.Feed.Live
import FlagBoard.Page.ScoreTable
import FlagBoard.Page.Widget

/-!
The pages that show the scoreboard: the ranking of all teams, and the progress of the viewer's own.
-/

namespace FlagBoard.Page

open FlagBoard.Html (Attribute Piece element)

def scoreCell : Option String → List Piece
  | some time =>
      classedWith "td" [.ofText "title" time] "scoreboard__cell scoreboard__cell--solved"
        [textNode "✓"]
  | none => classed "td" "scoreboard__cell" []

def scoreRow (row : ScoreRow) : List Piece :=
  classed "tr" (withClass "scoreboard__row" "scoreboard__row--own" row.isOwn)
    (element "td" [] [textNode (toString row.rank)] ++
      element "td" [] [textNode row.name] ++
      element "td" [] [textNode (pointsLabel row.points)] ++ row.cells.flatMap scoreCell)

def challengeHead (challenge : Challenge) : List Piece :=
  classedWith "th" [.ofText "title" challenge.name] "scoreboard__challenge"
    [textNode challenge.tag]

def scoreTable (board : Scoreboard) : List Piece :=
  let head := ["#", "Team", "Points"].flatMap fun title => element "th" [] [textNode title]
  classed "table" "scoreboard__table"
    (element "thead" [] (element "tr" [] (head ++ board.challenges.flatMap challengeHead)) ++
      element "tbody" [] (board.rows.flatMap scoreRow))

def scoreboardPage (live : Live Scoreboard) : List Piece :=
  let title := classed "h2" "scoreboard__title" [textNode "Scoreboard"]
  let content :=
    if live.view.teams.isEmpty then classed "div" "scoreboard__empty" [textNode "No teams yet"]
    else scoreTable live.view
  classed "div" "scoreboard"
    (classed "div" "scoreboard__header" (title ++ connectionDot live.status) ++ content)

def progressItem (entry : ProgressEntry) : List Piece :=
  classed "li"
    (withClass "team-page__challenge" "team-page__challenge--solved" entry.solvedAt.isSome)
    (classed "span" "team-page__challenge-name" [textNode entry.name] ++
      classed "span" "team-page__challenge-category" [textNode entry.category] ++
      classed "span" "team-page__challenge-points" [textNode (pointsLabel entry.points)] ++
      classed "span" "team-page__challenge-time" [textNode (entry.solvedAt.getD "")])

def progressReport (progress : Progress) : List Piece :=
  let standing := "Rank " ++ toString progress.rank ++ " of " ++ toString progress.teams
  classed "h2" "team-page__name" [textNode progress.name] ++
    classed "div" "team-page__summary"
      (element "span" [] [textNode standing] ++
        element "span" [] [textNode (pointsLabel progress.points)] ++
        element "span" [] [textNode (solvedLabel progress.solved progress.entries.length)]) ++
    classed "ul" "team-page__challenges" (progress.entries.flatMap progressItem)

def teamPage (live : Live Scoreboard) : List Piece :=
  let content := match live.view.progress with
    | some progress => progressReport progress
    | none => classed "div" "team-page__empty" [textNode "Waiting for team data…"]
  classed "div" "team-page"
    (classed "div" "team-page__header" (connectionDot live.status) ++ content)

end FlagBoard.Page
