import FlagBoard.Markdown.Line

/-!
A document as it is first read: blocks in blocks, with the text of the innermost cut into tokens.
Every node knows the places that it reaches from and to. White space behind the last token of a
heading can belong to that token, so its place to reach to says nothing about its marks.
-/

namespace FlagBoard.Markdown

inductive Token
  | text
  /-- Characters that a reference stands for. -/
  | meant (chars : List Char)
  /-- A run of so many backticks; `escaped` tells that a backslash stands before it. -/
  | ticks (count : Nat) (escaped : Bool)
  /-- An opening angle bracket. -/
  | angle
  /-- A bracket that may begin a link or, behind an exclamation mark, an image. -/
  | opening (image : Bool)
  /-- A bracket that may end a link; `free` tells that what stands before it may still be the
  label of one. -/
  | closing (free : Bool)
  /-- A run of so many marks of emphasis. -/
  | run (mark : Char) (count : Nat) (opens closes : Bool)
  | softBreak
  | hardBreak
  deriving DecidableEq, Repr

inductive Kind
  | paragraph
  | heading (level : Nat)
  | rule
  /-- Code, with the text behind its fence if it has one. -/
  | code (info : Option (List Char)) (text : List Char)
  /-- A block of raw HTML, of which only the indentation is kept. -/
  | html (spaces : List Char)
  | quote
  /-- A list and the number it starts with, if it has numbers. -/
  | list (start : Option Nat)
  /-- An item of a list and the columns that its content is indented by. -/
  | item (indent : Nat)
  /-- A table: its header and its rows. -/
  | table
  | row (header : Bool)
  | cell (header : Bool) (alignment : Alignment)
  deriving DecidableEq, Repr

inductive Node
  | token (start stop : Nat) (part : Token)
  | block (start stop : Nat) (kind : Kind) (parts : List Node)
  deriving Repr

namespace Node

def text (start stop : Nat) : List Node := if start < stop then [.token start stop .text] else []

def stopAt (stop : Nat) : Node → Node
  | .token start _ part => .token start stop part
  | .block start _ kind parts => .block start stop kind parts

/-- A paragraph in an item of a tight list stands for its parts, unless it is empty. -/
def dissolve : Node → List Node
  | .block _ _ .paragraph (first :: rest) => first :: rest
  | other => [other]

/-- An item of a tight list. One that begins with an empty paragraph is empty. -/
def tighten : Node → Node
  | .block start stop (.item indent) parts =>
      match parts with
      | .block _ _ .paragraph [] :: _ => .block start stop (.item indent) []
      | parts => .block start stop (.item indent) (parts.flatMap dissolve)
  | other => other

end Node

end FlagBoard.Markdown
