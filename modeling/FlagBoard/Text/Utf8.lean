/-!
Text as UTF-8 bytes. Reading never fails: a byte sequence that is cut short or ill formed becomes
one replacement character for each of its longest prefixes that could still have begun a character,
and reading goes on with the byte that ruled it out. The strict reader refuses such bytes instead.
-/

namespace FlagBoard.Text.Utf8

def charSize (c : Char) : Nat :=
  let point := c.toNat
  if point < 0x80 then 1 else if point < 0x800 then 2 else if point < 0x10000 then 3 else 4

def size (text : List Char) : Nat := text.foldr (fun c bytes => charSize c + bytes) 0

def encodeChar (c : Char) : List UInt8 :=
  let point := c.toNat
  let tail (shift : Nat) : UInt8 := (0x80 + point / Nat.pow 2 shift % 64).toUInt8
  if point < 0x80 then [point.toUInt8]
  else if point < 0x800 then [(0xc0 + point / 64).toUInt8, tail 0]
  else if point < 0x10000 then [(0xe0 + point / 4096).toUInt8, tail 6, tail 0]
  else [(0xf0 + point / 262144).toUInt8, tail 12, tail 6, tail 0]

def encode (text : List Char) : List UInt8 := text.flatMap encodeChar

/-- A character of which the lead byte and perhaps more has been read: the bits so far, the
number of bytes still owed, and the bounds of the next one. -/
structure Partial where
  bits : Nat
  owed : Nat
  least : UInt8
  most : UInt8
  deriving DecidableEq, Repr

inductive Lead
  | whole (c : Char)
  | opens (started : Partial)
  | stray
  deriving DecidableEq, Repr

/-- Sorts the bytes that may begin a character. The bounds of the second byte keep out
overlong forms, surrogates and points above U+10FFFF. -/
def lead (byte : UInt8) : Lead :=
  let point := byte.toNat
  if point < 0x80 then .whole (Char.ofNat point)
  else if point < 0xc2 then .stray
  else if point < 0xe0 then .opens ⟨point - 0xc0, 1, 0x80, 0xbf⟩
  else if point < 0xf0 then
    .opens
      ⟨point - 0xe0, 2, if point = 0xe0 then 0xa0 else 0x80, if point = 0xed then 0x9f else 0xbf⟩
  else if point < 0xf5 then
    .opens
      ⟨point - 0xf0, 3, if point = 0xf0 then 0x90 else 0x80, if point = 0xf4 then 0x8f else 0xbf⟩
  else .stray

def Partial.take (started : Partial) (byte : UInt8) : Option Partial :=
  if started.least ≤ byte ∧ byte ≤ started.most then
    some ⟨started.bits * 64 + (byte.toNat - 0x80), started.owed - 1, 0x80, 0xbf⟩
  else none

def replacement : Char := Char.ofNat 0xfffd

def decodeFrom : Option Partial → List UInt8 → List Char
  | none, [] => []
  | some _, [] => [replacement]
  | none, byte :: rest =>
      match lead byte with
      | .whole c => c :: decodeFrom none rest
      | .opens started => decodeFrom (some started) rest
      | .stray => replacement :: decodeFrom none rest
  | some started, byte :: rest =>
      match started.take byte with
      | some grown =>
          if grown.owed = 0 then Char.ofNat grown.bits :: decodeFrom none rest
          else decodeFrom (some grown) rest
      | none =>
          match lead byte with
          | .whole c => replacement :: c :: decodeFrom none rest
          | .opens next => replacement :: decodeFrom (some next) rest
          | .stray => replacement :: replacement :: decodeFrom none rest

def decode (bytes : List UInt8) : List Char := decodeFrom none bytes

def decode? (bytes : List UInt8) : Option (List Char) :=
  let text := decode bytes
  if encode text = bytes then some text else none

def single? (bytes : List UInt8) : Option Char :=
  match decode? bytes with
  | some [c] => some c
  | _ => none

/-- Decodes bytes, with a mark in the place of each that belongs to no character. -/
def decodeMarked (mark : List Char) : Nat → List UInt8 → List Char
  | steps + 1, byte :: rest =>
      let found := [1, 2, 3, 4].findSome? fun length =>
        (single? ((byte :: rest).take length)).map fun c => (c, (byte :: rest).drop length)
      match found with
      | some (c, behind) => c :: decodeMarked mark steps behind
      | none => mark ++ decodeMarked mark steps rest
  | _, _ => []

end FlagBoard.Text.Utf8
