import FlagBoard.Markdown.Node

/-!
A document as it is meant: blocks, and in them text with emphasis, links and the like.
-/

namespace FlagBoard.Markdown

inductive Element
  | text (chars : List Char)
  | code (chars : List Char)
  | softBreak
  | hardBreak
  | emphasis (content : List Element)
  | strong (content : List Element)
  | struck (content : List Element)
  /-- A link; `mail` tells that the destination is a mail address. -/
  | link (mail : Bool) (destination title : List Char) (content : List Element)
  | image (destination title : List Char) (content : List Element)
  /-- A span of raw HTML, of which nothing is kept. -/
  | rawHtml
  | block (kind : Kind) (content : List Element)
  deriving Repr

end FlagBoard.Markdown
