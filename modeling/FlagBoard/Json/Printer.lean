import FlagBoard.Json.Value

/-!
JSON text without spaces. In a string the quote, the backslash and the controls below U+0020 are
escaped, the usual ones by a letter and the others by four hexadecimal digits; all else stands as it
is, so no written text holds a line break.
-/

namespace FlagBoard.Json

def hexDigit (n : Nat) : Char := (Nat.toDigits 16 (n % 16)).headD '0'

def escapeChar (c : Char) : List Char :=
  if c = '"' then ['\\', '"']
  else if c = '\\' then ['\\', '\\']
  else if c = '\x08' then ['\\', 'b']
  else if c = '\x0c' then ['\\', 'f']
  else if c = '\n' then ['\\', 'n']
  else if c = '\r' then ['\\', 'r']
  else if c = '\t' then ['\\', 't']
  else if c.toNat < 0x20 then
    ['\\', 'u', '0', '0', hexDigit (c.toNat / 16), hexDigit (c.toNat % 16)]
  else [c]

def printString (text : String) : List Char :=
  '"' :: text.toList.flatMap escapeChar ++ ['"']

mutual

def print : Json → List Char
  | .null => ['n', 'u', 'l', 'l']
  | .bool true => ['t', 'r', 'u', 'e']
  | .bool false => ['f', 'a', 'l', 's', 'e']
  | .num n => n.text.toList
  | .str s => printString s
  | .arr items => '[' :: printItems items
  | .obj members => '\x7b' :: printMembers members

def printItems : List Json → List Char
  | [] => [']']
  | [item] => print item ++ [']']
  | item :: rest => print item ++ ',' :: printItems rest

def printMembers : List (String × Json) → List Char
  | [] => ['\x7d']
  | [(key, value)] => printString key ++ ':' :: print value ++ ['\x7d']
  | (key, value) :: rest => printString key ++ ':' :: print value ++ ',' :: printMembers rest

end

def text (value : Json) : String := String.ofList value.print

end FlagBoard.Json
