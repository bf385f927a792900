/-!
Classes of characters that the grammar of Markdown speaks of. All of them are plain ASCII.
-/

namespace FlagBoard.Markdown

def isGap (c : Char) : Bool := c == ' ' || c == '\t' || c == '\x0b' || c == '\x0c'

def isBreak (c : Char) : Bool := c == '\n' || c == '\r'

def isGapOrBreak (c : Char) : Bool := isGap c || isBreak c

def isLetter (c : Char) : Bool := ('a' ≤ c && c ≤ 'z') || ('A' ≤ c && c ≤ 'Z')

def isDigit (c : Char) : Bool := '0' ≤ c && c ≤ '9'

def isAlphanumeric (c : Char) : Bool := isLetter c || isDigit c

def isMark (c : Char) : Bool :=
  let point := c.toNat
  (0x21 ≤ point && point ≤ 0x2f) || (0x3a ≤ point && point ≤ 0x40) ||
    (0x5b ≤ point && point ≤ 0x60) || (0x7b ≤ point && point ≤ 0x7e)

def lowerLetter (c : Char) : Char := if 'A' ≤ c ∧ c ≤ 'Z' then Char.ofNat (c.toNat + 32) else c

def digitTo (base : Nat) (c : Char) : Option Nat :=
  let value :=
    if isDigit c then c.toNat - '0'.toNat
    else if isLetter c then (lowerLetter c).toNat - 'a'.toNat + 10
    else 36
  if value < base then some value else none

def numberTo (base : Nat) (digits : List Char) : Nat :=
  digits.foldl (fun number c => number * base + (digitTo base c).getD 0) 0

end FlagBoard.Markdown
