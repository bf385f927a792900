import FlagBoard.Json.Fault

/-!
The pieces of a JSON text. A reader takes the remaining text and hands back what it read with the
text that follows, or the first fault. Lists and objects are read by one loop each, into which the
reader of an item or member is put; the loops run as often as there are characters at most.
-/

namespace FlagBoard.Json

abbrev Reader (Value : Type) := List Char → Except Fault (Value × List Char)

def isSpace (c : Char) : Bool := c == ' ' || c == '\n' || c == '\t' || c == '\r'

def skipSpace (text : List Char) : List Char := text.dropWhile isSpace

def readWord : List Char → Reader Unit
  | [], text => .ok ((), text)
  | _ :: _, [] => .error (.here .endInValue [])
  | letter :: letters, c :: rest =>
      if c = letter then readWord letters rest else .error (.next .badWord (c :: rest))

inductive StringState
  | plain
  /-- Behind a backslash. -/
  | escape
  /-- Inside the four digits of an escape: those still to come, the number so far, whether all
  digits so far were digits, and the leading surrogate that came before. -/
  | digits (missing : Nat) (number : Nat) (valid : Bool) (leading : Option Nat)
  /-- Behind a leading surrogate. -/
  | paired (leading : Nat)
  /-- Behind a leading surrogate and a backslash. -/
  | pairedEscape (leading : Nat)
  deriving DecidableEq, Repr

def letterEscape : Char → Option Char
  | '"' => some '"'
  | '\\' => some '\\'
  | '/' => some '/'
  | 'b' => some '\x08'
  | 'f' => some '\x0c'
  | 'n' => some '\n'
  | 'r' => some '\r'
  | 't' => some '\t'
  | _ => none

def hexValue (c : Char) : Option Nat :=
  if '0' ≤ c ∧ c ≤ '9' then some (c.toNat - '0'.toNat)
  else if 'a' ≤ c ∧ c ≤ 'f' then some (c.toNat - 'a'.toNat + 10)
  else if 'A' ≤ c ∧ c ≤ 'F' then some (c.toNat - 'A'.toNat + 10)
  else none

def isLeading (unit : Nat) : Bool := 0xd800 ≤ unit && unit ≤ 0xdbff

def isTrailing (unit : Nat) : Bool := 0xdc00 ≤ unit && unit ≤ 0xdfff

def hasFourBytes (text : List Char) : Bool := 4 ≤ Text.Utf8.size (text.take 4)

/-- What a complete escape of four digits stands for: a character, or the first half of one. -/
def joinUnits (leading : Option Nat) (unit : Nat) : Except Cause (Char ⊕ Nat) :=
  match leading with
  | none =>
      if isTrailing unit then .error .loneSurrogate
      else if isLeading unit then .ok (.inr unit)
      else .ok (.inl (Char.ofNat unit))
  | some high =>
      if isTrailing unit then
        .ok (.inl (Char.ofNat (0x10000 + (high - 0xd800) * 0x400 + (unit - 0xdc00))))
      else .error .loneSurrogate

def prepend (c : Char) (result : Except Fault (List Char × List Char)) :
    Except Fault (List Char × List Char) := do
  let (chars, rest) ← result
  .ok (c :: chars, rest)

def readStringFrom : StringState → Reader (List Char)
  | _, [] => .error (.here .endInString [])
  | .plain, c :: rest =>
      if c = '"' then .ok ([], rest)
      else if c = '\\' then readStringFrom .escape rest
      else if c.toNat < 0x20 then .error (.next .controlCharacter (c :: rest))
      else prepend c (readStringFrom .plain rest)
  | .escape, c :: rest =>
      if c = 'u' then
        if hasFourBytes rest then readStringFrom (.digits 4 0 true none) rest
        else .error (.here .endInString [])
      else
        match letterEscape c with
        | some escaped => prepend escaped (readStringFrom .plain rest)
        | none => .error (.next .badEscape (c :: rest))
  | .digits missing number valid leading, c :: rest =>
      match valid, hexValue c with
      | true, some digit =>
          let unit := number * 16 + digit
          if missing ≤ 1 then
            match joinUnits leading unit with
            | .error cause => .error (.here cause rest)
            | .ok (.inl joined) => prepend joined (readStringFrom .plain rest)
            | .ok (.inr high) => readStringFrom (.paired high) rest
          else readStringFrom (.digits (missing - 1) unit true leading) rest
      | _, _ => .error (.after .badEscape missing (c :: rest))
  | .paired leading, c :: rest =>
      if c = '\\' then readStringFrom (.pairedEscape leading) rest
      else .error (.next .endInEscape (c :: rest))
  | .pairedEscape leading, c :: rest =>
      if c = 'u' then
        if hasFourBytes rest then readStringFrom (.digits 4 0 true (some leading)) rest
        else .error (.here .endInString [])
      else .error (.next .endInEscape (c :: rest))

def readString : Reader String := fun text => do
  let (chars, rest) ← readStringFrom .plain text
  .ok (String.ofList chars, rest)

def isDigit (c : Char) : Bool := '0' ≤ c && c ≤ '9'

def digitValue (c : Char) : Nat := c.toNat - '0'.toNat

def takeDigits (text : List Char) : List Nat × List Char :=
  ((text.takeWhile isDigit).map digitValue, text.dropWhile isDigit)

/-- Reads the whole part of a number. A zero stands alone. -/
def readWhole : Reader (List Nat)
  | [] => .error (.here .endInValue [])
  | c :: rest =>
      if c = '0' then
        match rest with
        | d :: _ => if isDigit d then .error (.next .badNumber rest) else .ok ([0], rest)
        | [] => .ok ([0], rest)
      else if isDigit c then .ok (takeDigits (c :: rest))
      else .error (.next .badNumber (c :: rest))

def readFraction : Reader (Option (List Nat))
  | '.' :: rest =>
      match takeDigits rest with
      | ([], []) => .error (.here .endInValue [])
      | ([], c :: more) => .error (.next .badNumber (c :: more))
      | (digits, more) => .ok (some digits, more)
  | text => .ok (none, text)

def exponentLimit : Nat := 0x7fffffff

/-- The digits of an exponent as a number, or the number of digits up to the one that takes it
past the limit. -/
def exponentValue (number count : Nat) : List Nat → Nat ⊕ Nat
  | [] => .inl number
  | digit :: rest =>
      if exponentLimit < number * 10 + digit then .inr (count + 1)
      else exponentValue (number * 10 + digit) (count + 1) rest

/-- An exponent: its sign and its digits, with the text at its first digit. -/
structure Exponent where
  negative : Bool
  digits : List Nat
  start : List Char
  deriving DecidableEq, Repr

def readExponent : Reader (Option Exponent)
  | c :: rest =>
      if c = 'e' ∨ c = 'E' then
        let (negative, digitsAt) :=
          match rest with
          | '+' :: more => (false, more)
          | '-' :: more => (true, more)
          | more => (false, more)
        match takeDigits digitsAt with
        | ([], []) => .error (.here .endInValue [])
        | ([], d :: more) => .error (.next .badNumber (d :: more))
        | (digits, more) => .ok (some ⟨negative, digits, digitsAt⟩, more)
      else .ok (none, c :: rest)
  | [] => .ok (none, [])

def readNumber (negative : Bool) : Reader Number := fun text => do
  let (whole, afterWhole) ← readWhole text
  let (fraction, afterFraction) ← readFraction afterWhole
  let (exponent, rest) ← readExponent afterFraction
  let finish (power : Int) : Except Fault (Number × List Char) :=
    let parts : Number.Parts :=
      ⟨negative, whole, fraction.getD [], power, fraction.isSome || exponent.isSome⟩
    match Number.ofParts parts with
    | some number => .ok (number, rest)
    | none => .error (.here .numberTooLarge rest)
  match exponent with
  | none => finish 0
  | some exponent =>
      match exponentValue 0 0 exponent.digits with
      | .inl power => finish (if exponent.negative then -(power : Int) else power)
      | .inr count =>
          if exponent.negative then finish (-(exponentLimit : Int))
          else if (whole ++ fraction.getD []).all (· == 0) then finish 0
          else .error (.after .numberTooLarge count exponent.start)

/-- Moves to the next item of a list whose bracket has been read. There is none at the closing
bracket, which is left in the text. -/
def nextItem (first : Bool) (text : List Char) : Except Fault (Option (List Char)) :=
  match skipSpace text with
  | [] => .error (.here .endInList [])
  | c :: rest =>
      if c = ']' then .ok none
      else if first then .ok (some (c :: rest))
      else if c = ',' then
        match skipSpace rest with
        | [] => .error (.here .endInValue [])
        | d :: more =>
            if d = ']' then .error (.next .trailingComma (d :: more)) else .ok (some (d :: more))
      else .error (.next .noListEnd (c :: rest))

def closeList : Reader Unit := fun text =>
  match skipSpace text with
  | [] => .error (.here .endInList [])
  | c :: rest =>
      if c = ']' then .ok ((), rest)
      else if c = ',' then
        match skipSpace rest with
        | ']' :: more => .error (.next .trailingComma (']' :: more))
        | more => .error (.next .trailingText more)
      else .error (.next .trailingText (c :: rest))

/-- Moves to the quote of the next key of an object whose brace has been read. There is none at
the closing brace, which is left in the text. -/
def nextKey (first : Bool) (text : List Char) : Except Fault (Option (List Char)) :=
  let key (text : List Char) : Except Fault (Option (List Char)) :=
    match text with
    | [] => .error (.here .endInValue [])
    | c :: rest =>
        if c = '"' then .ok (some (c :: rest))
        else if c = '\x7d' then .error (.next .trailingComma (c :: rest))
        else .error (.next .noKey (c :: rest))
  match skipSpace text with
  | [] => .error (.here .endInObject [])
  | c :: rest =>
      if c = '\x7d' then .ok none
      else if first then key (c :: rest)
      else if c = ',' then key (skipSpace rest)
      else .error (.next .noObjectEnd (c :: rest))

def closeObject : Reader Unit := fun text =>
  match skipSpace text with
  | [] => .error (.here .endInObject [])
  | c :: rest =>
      if c = '\x7d' then .ok ((), rest)
      else if c = ',' then .error (.next .trailingComma (c :: rest))
      else .error (.next .trailingText (c :: rest))

def readColon : Reader Unit := fun text =>
  match skipSpace text with
  | [] => .error (.here .endInObject [])
  | c :: rest => if c = ':' then .ok ((), rest) else .error (.next .noColon (c :: rest))

def readItems {Value : Type} (item : Reader Value) : Nat → Bool → Reader (List Value)
  | 0, _, text => .ok ([], text)
  | steps + 1, first, text => do
      match ← nextItem first text with
      | none => .ok ([], skipSpace text)
      | some start =>
          let (value, afterValue) ← item start
          let (values, rest) ← readItems item steps false afterValue
          .ok (value :: values, rest)

def readList {Value : Type} (item : Reader Value) : Reader (List Value) := fun text => do
  let (values, afterItems) ← readItems item text.length true text
  let (_, rest) ← closeList afterItems
  .ok (values, rest)

/-- Reads members until the closing brace, which is left in the text. Each member, from behind its
key on, is taken into what was gathered so far. -/
def readMembers {State : Type} (member : String → State → Reader State) :
    Nat → Bool → State → Reader State
  | 0, _, state, text => .ok (state, text)
  | steps + 1, first, state, text => do
      match ← nextKey first text with
      | none => .ok (state, skipSpace text)
      | some start =>
          let (key, afterKey) ← readString (start.drop 1)
          let (grown, rest) ← member key state afterKey
          readMembers member steps false grown rest

def readObject {State : Type} (member : String → State → Reader State) (start : State) :
    Reader State := fun text => do
  let (state, afterMembers) ← readMembers member text.length true start text
  let (_, rest) ← closeObject afterMembers
  .ok (state, rest)

def depthLimit : Nat := 127

end FlagBoard.Json
