import FlagBoard.Html.Piece
import FlagBoard.Markdown.InlineReader
import FlagBoard.Text.Percent

/-!
A Markdown document as HTML. Only the tags that belong to Markdown are written: of raw HTML nothing
but its indentation is left, and all other text is escaped. A block begins on a line of its own.
-/

namespace FlagBoard.Markdown

open FlagBoard.Html (Attribute Piece)

def breakPiece : Piece := .text ['\n']

/-- Whether the output is at the start of a line behind some pieces; `fresh` tells it for the place
before them. -/
def endsLine (fresh : Bool) (pieces : List Piece) : Bool :=
  match pieces.getLast? with
  | none => fresh
  | some (.text chars) => chars.getLast? == some '\n'
  | some _ => false

def onNewLine (fresh : Bool) (pieces : List Piece) : List Piece :=
  if fresh then pieces else breakPiece :: pieces

def isPlainInAddress (c : Char) : Bool :=
  c.isAlphanum || "!#$%()*+,-./:;=?@^_~".toList.contains c

/-- A character of a destination. Bytes outside the plain ones are written by their number. -/
def escapeAddress (c : Char) : List Char :=
  if isPlainInAddress c then [c]
  else if c = '&' then "&amp;".toList
  else if c = '\'' then "&#x27;".toList
  else Text.Percent.encodeChar c

/-- A character of a title, of the language of code, or of the text that stands for an image. -/
def escapeQuoted (c : Char) : List Char :=
  if c = '\'' then "&#39;".toList else Html.escapeValue c

mutual

/-- The text that stands for an image: its content without tags, on one line. -/
def plainText : Element → List Char
  | .text chars => chars
  | .code chars => chars
  | .softBreak => [' ']
  | .hardBreak => [' ']
  | .emphasis content => plainTexts content
  | .strong content => plainTexts content
  | .struck content => plainTexts content
  | .link _ _ _ content => plainTexts content
  | .image _ _ content => plainTexts content
  | .rawHtml => []
  | .block kind content =>
      match kind with
      | .rule => [' ']
      | .code _ text => text
      | .html spaces => spaces
      | _ => plainTexts content

def plainTexts : List Element → List Char
  | [] => []
  | element :: rest => plainText element ++ plainTexts rest

end

def titleAttribute (title : List Char) : List Attribute :=
  if title.isEmpty then [] else [⟨"title", some (title.flatMap escapeQuoted)⟩]

def linkAttributes (mail : Bool) (destination title : List Char) : List Attribute :=
  let address := (if mail then "mailto:".toList else []) ++ destination.flatMap escapeAddress
  ⟨"href", some address⟩ :: titleAttribute title

def imageAttributes (destination title : List Char) (content : List Element) : List Attribute :=
  ⟨"src", some (destination.flatMap escapeAddress)⟩ ::
    ⟨"alt", some ((plainTexts content).flatMap escapeQuoted)⟩ :: titleAttribute title

/-- The attribute that tells the language of code: the first word behind its fence. -/
def languageAttribute (info : Option (List Char)) : List Attribute :=
  let word := (info.getD []).takeWhile (· != ' ')
  if word.isEmpty then []
  else [⟨"class", some ("language-".toList ++ word.flatMap escapeQuoted)⟩]

def alignmentAttribute : Alignment → List Attribute
  | .none => []
  | .left => [.ofText "style" "text-align: left"]
  | .center => [.ofText "style" "text-align: center"]
  | .right => [.ofText "style" "text-align: right"]

/-- The attribute of a list. One that begins with the number one does not tell so. -/
def startAttribute : Option Nat → List Attribute
  | none => []
  | some 1 => []
  | some first => [.ofText "start" (toString first)]

def listTag (start : Option Nat) : String := if start.isSome then "ol" else "ul"

mutual

/-- The pieces of an element; `fresh` tells whether it begins at the start of a line. A table, its
rows and cells do not begin on a line of their own. -/
def elementPieces (fresh : Bool) : Element → List Piece
  | .text chars => [.text chars]
  | .code chars => [.start "code" [], .text chars, .stop "code"]
  | .softBreak => [breakPiece]
  | .hardBreak => [.single "br" [] true, breakPiece]
  | .emphasis content => .start "em" [] :: elementsPieces false content ++ [.stop "em"]
  | .strong content => .start "strong" [] :: elementsPieces false content ++ [.stop "strong"]
  | .struck content => .start "del" [] :: elementsPieces false content ++ [.stop "del"]
  | .link mail destination title content =>
      .start "a" (linkAttributes mail destination title) ::
        elementsPieces false content ++ [.stop "a"]
  | .image destination title content =>
      [.single "img" (imageAttributes destination title content) true]
  | .rawHtml => []
  | .block kind content =>
      match kind with
      | .paragraph =>
          onNewLine fresh (.start "p" [] :: elementsPieces false content ++ [.stop "p", breakPiece])
      | .heading level =>
          let tag := "h" ++ toString level
          onNewLine fresh
            (.start tag [] :: elementsPieces false content ++ [.stop tag, breakPiece])
      | .rule => onNewLine fresh [.single "hr" [] true, breakPiece]
      | .code info text =>
          onNewLine fresh [.start "pre" [], .start "code" (languageAttribute info), .text text,
            .stop "code", .stop "pre", breakPiece]
      | .html spaces => if spaces.isEmpty then [] else [.text spaces]
      | .quote =>
          onNewLine fresh (.start "blockquote" [] :: breakPiece :: elementsPieces true content ++
            [.stop "blockquote", breakPiece])
      | .list start =>
          onNewLine fresh (.start (listTag start) (startAttribute start) :: breakPiece ::
            elementsPieces true content ++ [.stop (listTag start), breakPiece])
      | .item _ =>
          onNewLine fresh
            (.start "li" [] :: elementsPieces false content ++ [.stop "li", breakPiece])
      | .table =>
          match content with
          | [] => []
          | header :: rows =>
              .start "table" [] :: elementPieces false header ++
                .start "tbody" [] :: breakPiece :: elementsPieces true rows ++
                [.stop "tbody", .stop "table", breakPiece]
      | .row true =>
          .start "thead" [] :: .start "tr" [] :: elementsPieces false content ++
            [.stop "tr", .stop "thead"]
      | .row false =>
          .start "tr" [] :: elementsPieces false content ++ [.stop "tr", breakPiece]
      | .cell header alignment =>
          let tag := if header then "th" else "td"
          .start tag (alignmentAttribute alignment) :: elementsPieces false content ++ [.stop tag]

def elementsPieces (fresh : Bool) : List Element → List Piece
  | [] => []
  | element :: rest =>
      let pieces := elementPieces fresh element
      pieces ++ elementsPieces (endsLine fresh pieces) rest

end

def pieces (text : List Char) : List Piece := elementsPieces true (readDocument text)

end FlagBoard.Markdown
