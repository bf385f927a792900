import FlagBoard.Feed.ChallengeBrowser
import FlagBoard.Feed.Live
import FlagBoard.Markdown.Page
import FlagBoard.Page.Widget

/-!
The page of the challenges: a card for each, grouped by category, and the live rows below. A card
shows what its own challenge says and nothing else, since all its text is escaped and its
description brings only tags that it closes itself.
-/

namespace FlagBoard.Page

open FlagBoard.Html (Piece element)

def challengeCard (browser : ChallengeBrowser) (challenge : Challenge) : List Piece :=
  let heading :=
    classed "h4" "challenge-card__name" [textNode challenge.name] ++
      classed "span" "challenge-card__points" [textNode (pointsLabel challenge.points)]
  let actions :=
    actionButton "btn" "Reset" .idle ++ actionButton "btn" "Start/Stop" .idle
  classed "article"
    (withClass "challenge-card" "challenge-card--solved" (browser.isSolved challenge.tag))
    (classed "header" "challenge-card__header" heading ++
      classed "div" "challenge-card__solves"
        [textNode (solvesLabel (browser.solvesOf challenge.tag))] ++
      classed "div" "challenge-card__description" (Markdown.pieces challenge.description.toList) ++
      flagForm .empty false ++ classed "div" "challenge-card__actions" actions ++
      actionMessage .idle ++ actionMessage .idle)

def categorySection (browser : ChallengeBrowser) (group : Group) : List Piece :=
  classed "section" "challenges__category"
    (classed "h3" "challenges__category-title" [textNode group.category] ++
      classed "div" "challenges__grid" (group.challenges.flatMap (challengeCard browser)))

def liveItem (row : LiveRow) : List Piece :=
  element "li" []
    [textNode row.challenge.tag, textNode " · ",
      textNode (if row.solvedByOwn then "solved" else "open"), textNode " · ",
      textNode (solvesLabel row.solves.length)]

def challengePage (live : Live ChallengeBrowser) : List Piece :=
  let content :=
    if live.view.groups.isEmpty then
      classed "div" "challenges__empty" [textNode "No challenges available"]
    else live.view.groups.flatMap (categorySection live.view)
  let rows :=
    element "summary" [] [textNode "Live challenge data"] ++
      element "ul" [] (live.view.rows.flatMap liveItem)
  classed "div" "challenges"
    (classed "div" "challenges__header" (connectionDot live.status) ++ content ++
      classed "details" "challenges__live" rows)

end FlagBoard.Page
