import FlagBoard.Text.Extending
import FlagBoard.Text.Unprintable

/-!
Text between double quotes, as diagnostics show it: what would not be seen as itself is escaped,
by a letter where one is usual and by its code point in hexadecimal otherwise.
-/

namespace FlagBoard.Text.Quoted

/-- A code point as an escape, the digits in lower case and as few as possible. -/
def pointEscape (c : Char) : List Char :=
  "\\u\x7b".toList ++ Nat.toDigits 16 c.toNat ++ ['\x7d']

def encodeChar (c : Char) : List Char :=
  if c = '\x00' then ['\\', '0']
  else if c = '\t' then ['\\', 't']
  else if c = '\r' then ['\\', 'r']
  else if c = '\n' then ['\\', 'n']
  else if c = '\\' then ['\\', '\\']
  else if c = '"' then ['\\', '"']
  else if extending.has c then pointEscape c
  else if unprintable.has c then pointEscape c
  else [c]

def encode (text : String) : String :=
  String.ofList ('"' :: text.toList.flatMap encodeChar ++ ['"'])

end FlagBoard.Text.Quoted
