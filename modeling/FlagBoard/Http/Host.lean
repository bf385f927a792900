import FlagBoard.Http.Name
import FlagBoard.Text.Percent
import FlagBoard.Text.Utf8

/-!
Hosts of web addresses. A host is a name, or a number address in one of its many spellings, which
is written in its usual form: four decimal numbers, or groups of hexadecimal digits in brackets with
the longest run of zeros left out.
-/

namespace FlagBoard.Http

def digitIn (base : Nat) (c : Char) : Option Nat :=
  let value :=
    if c.isDigit then c.toNat - '0'.toNat
    else if 'a' ≤ c ∧ c ≤ 'f' then c.toNat - 'a'.toNat + 10
    else if 'A' ≤ c ∧ c ≤ 'F' then c.toNat - 'A'.toNat + 10
    else base
  if value < base then some value else none

def numberIn (base : Nat) (digits : List Char) : Option Nat :=
  digits.foldlM (fun number c => (digitIn base c).map fun digit => number * base + digit) 0

def unescapeBytes : List Char → List UInt8
  | [] => []
  | '%' :: high :: low :: rest =>
      match digitIn 16 high, digitIn 16 low with
      | some upper, some lower => (upper * 16 + lower).toUInt8 :: unescapeBytes rest
      | _, _ => Text.Utf8.encodeChar '%' ++ unescapeBytes (high :: low :: rest)
  | c :: rest => Text.Utf8.encodeChar c ++ unescapeBytes rest

def isHostDelimiter (c : Char) : Bool :=
  c.toNat ≤ 32 || c.toNat == 127 || "%#/:<>?@[\\]^|".toList.contains c

/-- A part of a number address: decimal, octal behind a zero, or hexadecimal behind `0x`. -/
def addressPart (part : List Char) : Option Nat :=
  match part with
  | [] => none
  | '0' :: 'x' :: digits => numberIn 16 digits
  | '0' :: 'X' :: digits => numberIn 16 digits
  | ['0'] => some 0
  | '0' :: digits => numberIn 8 digits
  | digits => numberIn 10 digits

def nameParts (name : List Char) : List (List Char) :=
  let parts := cutAt '.' name
  if parts.getLast? = some [] then parts.dropLast else parts

def endsInNumber (name : List Char) : Bool :=
  match (nameParts name).getLast? with
  | none => false
  | some last => (!last.isEmpty && last.all Char.isDigit) || (addressPart last).isSome

/-- Reads a number address of up to four parts, of which the last fills all bytes that are left. -/
def readAddress (name : List Char) : Option (List Char) := do
  let numbers ← (nameParts name).mapM addressPart
  let last ← numbers.getLast?
  let leading := numbers.dropLast
  if 3 < leading.length then none
  else if leading.any (255 < ·) then none
  else if Nat.pow 256 (4 - leading.length) ≤ last then none
  else
    let tail := (List.range (4 - leading.length)).map fun index =>
      last / Nat.pow 256 (3 - leading.length - index) % 256
    let parts := (leading ++ tail).map fun byte => (toString byte).toList
    some (parts.intersperse ['.']).flatten

def readGroup (digits : List Char) : Option Nat :=
  if digits.isEmpty || 4 < digits.length then none else numberIn 16 digits

def readQuad (digits : List Char) : Option Nat :=
  if digits.isEmpty || 3 < digits.length ||
      (1 < digits.length && digits.head? == some '0') then none
  else (numberIn 10 digits).filter (· ≤ 255)

/-- Groups between colons; the last may be a decimal address that fills two of them. -/
def readGroups (last : Bool) (text : List Char) : Option (List Nat) :=
  if text.isEmpty then some []
  else
    let parts := cutAt ':' text
    match parts.getLast? with
    | some final =>
        if last ∧ final.contains '.' then do
          let leading ← parts.dropLast.mapM readGroup
          match ← (cutAt '.' final).mapM readQuad with
          | [a, b, c, d] => some (leading ++ [a * 256 + b, c * 256 + d])
          | _ => none
        else parts.mapM readGroup
    | none => none

def cutAtDouble : List Char → Option (List Char × List Char)
  | ':' :: ':' :: rest => some ([], rest)
  | c :: rest => (cutAtDouble rest).map fun (before, behind) => (c :: before, behind)
  | [] => none

def readLongAddress (text : List Char) : Option (List Nat) :=
  match cutAtDouble text with
  | some (before, behind) => do
      let leading ← readGroups false before
      let trailing ← readGroups true behind
      let missing := 8 - (leading.length + trailing.length)
      if missing = 0 then none
      else some (leading ++ List.replicate missing 0 ++ trailing)
  | none => (readGroups true text).filter (·.length = 8)

def zeroRun (groups : List Nat) : Nat := (groups.takeWhile (· == 0)).length

def longestZeros (groups : List Nat) : Option (Nat × Nat) :=
  let runs := (List.range groups.length).map fun index => (index, zeroRun (groups.drop index))
  runs.foldl (fun best run =>
    if run.2 < 2 then best
    else
      match best with
      | some longest => if longest.2 < run.2 then some run else best
      | none => some run) none

def printGroups (groups : List Nat) : List Char :=
  ((groups.map (Nat.toDigits 16)).intersperse [':']).flatten

def printLongAddress (groups : List Nat) : List Char :=
  let body := match longestZeros groups with
    | some (index, length) =>
        printGroups (groups.take index) ++ [':', ':'] ++ printGroups (groups.drop (index + length))
    | none => printGroups groups
  '[' :: body ++ [']']

def readBracketed (text : List Char) : Option (List Char) :=
  if text.getLast? = some ']' then (readLongAddress text.dropLast).map printLongAddress else none

/-- Reads a host and gives its usual form. Names are in lower case and plain ASCII. -/
def readHost (text : List Char) : Option (List Char) :=
  match text with
  | '[' :: rest => readBracketed rest
  | _ => do
      let name ← Name.read? (← Text.Utf8.decode? (unescapeBytes text))
      if name.isEmpty || name.any isHostDelimiter then none
      else if endsInNumber name then readAddress name
      else some name

def isOpaqueDelimiter (c : Char) : Bool := "\x00\t\n\r #/:<>?@[\\]^|".toList.contains c

def readOpaqueHost (text : List Char) : Option (List Char) :=
  match text with
  | '[' :: rest => readBracketed rest
  | _ =>
      if text.any isOpaqueDelimiter then none
      else some (text.flatMap (Text.Percent.encodeBut []))

end FlagBoard.Http
