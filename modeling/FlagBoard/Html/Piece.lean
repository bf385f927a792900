/-!
HTML as a sequence of pieces: start and end tags, tags that stand alone, and text. Text is escaped
when it is printed, so only the pieces that are tags put tags into the output.
-/

namespace FlagBoard.Html

/-- An attribute. The value is kept as it stands between the quotes; one without a value is only
named. -/
structure Attribute where
  name : String
  value : Option (List Char)
  deriving DecidableEq, Repr

inductive Piece
  | start (tag : String) (attributes : List Attribute)
  | stop (tag : String)
  /-- A tag without end tag, perhaps closed by a slash. -/
  | single (tag : String) (attributes : List Attribute) (slash : Bool)
  | text (chars : List Char)
  deriving DecidableEq, Repr

def escapeText (c : Char) : List Char :=
  if c = '&' then "&amp;".toList
  else if c = '<' then "&lt;".toList
  else if c = '>' then "&gt;".toList
  else [c]

def escapeValue (c : Char) : List Char := if c = '"' then "&quot;".toList else escapeText c

def Attribute.ofText (name value : String) : Attribute :=
  ⟨name, some (value.toList.flatMap escapeValue)⟩

def Attribute.print (given : Attribute) : List Char :=
  ' ' :: given.name.toList ++
    match given.value with
    | some value => "=\"".toList ++ value ++ ['"']
    | none => []

def Piece.print : Piece → List Char
  | .start tag attributes =>
      '<' :: tag.toList ++ attributes.flatMap Attribute.print ++ ['>']
  | .stop tag => '<' :: '/' :: tag.toList ++ ['>']
  | .single tag attributes slash =>
      '<' :: tag.toList ++ attributes.flatMap Attribute.print ++
        (if slash then [' ', '/', '>'] else ['>'])
  | .text chars => chars.flatMap escapeText

def render (pieces : List Piece) : String := String.ofList (pieces.flatMap Piece.print)

def element (tag : String) (attributes : List Attribute) (content : List Piece) : List Piece :=
  .start tag attributes :: content ++ [.stop tag]

end FlagBoard.Html
