import FlagBoard.Markdown.Source

/-!
Addresses between angle brackets.
-/

namespace FlagBoard.Markdown

structure Autolink where
  /-- Whether it is a mail address. -/
  mail : Bool
  address : List Char
  /-- The place behind the closing bracket. -/
  next : Nat
  deriving DecidableEq, Repr

namespace Autolink

def isSchemeChar (c : Char) : Bool := isAlphanumeric c || c == '.' || c == '-' || c == '+'

def readAddress (source : Source) (place : Nat) : Option Autolink :=
  let colon := source.passWhile isSchemeChar place
  let length := colon - place
  if source[place]?.any isLetter ∧ source[colon]? = some ':' ∧ 2 ≤ length ∧ length ≤ 32 then
    let stop := source.passWhile (fun c => c != '>' && c != '<' && 0x20 < c.toNat) (colon + 1)
    if source[stop]? = some '>' then some ⟨false, source.slice place stop, stop + 1⟩ else none
  else none

def isMailChar (c : Char) : Bool :=
  isAlphanumeric c || (".!#$%&'*+/=?^_".toList.contains c) || c == '\x60' || c == '\x7b' ||
    c == '|' || c == '\x7d' || c == '~' || c == '-'

def isDomainLabel (label : List Char) : Bool :=
  !label.isEmpty && label.length ≤ 63 && label.head? != some '-' && label.getLast? != some '-'

def domainLabels : List Char → List (List Char)
  | [] => [[]]
  | c :: rest =>
      match domainLabels rest with
      | label :: others => if c = '.' then [] :: label :: others else (c :: label) :: others
      | [] => [[c]]

def readMail (source : Source) (place : Nat) : Option Autolink :=
  let sign := source.passWhile isMailChar place
  if place < sign ∧ source[sign]? = some '@' then
    let stop := source.passWhile (fun c => isAlphanumeric c || c == '-' || c == '.') (sign + 1)
    if source[stop]? = some '>' ∧
        (domainLabels (source.slice (sign + 1) stop)).all isDomainLabel then
      some ⟨true, source.slice place stop, stop + 1⟩
    else none
  else none

def read (source : Source) (place : Nat) : Option Autolink :=
  (readAddress source place).or (readMail source place)

end Autolink

end FlagBoard.Markdown
