import FlagBoard.Json.Value
import FlagBoard.Text.Quoted
import FlagBoard.Text.Utf8

/-!
Why a text or a value was refused. A fault of a text also says where: the reader notes how many
bytes it had left, and the line and column are counted from that, in bytes and from line one.
-/

namespace FlagBoard.Json

inductive Found
  | null
  | bool (b : Bool)
  | number (n : Number)
  | text (s : String)
  | list
  | object
  deriving DecidableEq, Repr

inductive Wanted
  | text
  | flag
  | natural
  | integer
  | list
  | record (title : String)
  deriving DecidableEq, Repr

inductive Mismatch
  | wrongKind (found : Found) (wanted : Wanted)
  | outOfRange (number : Number) (wanted : Wanted)
  | tooFewItems (count : Nat) (title : String) (fields : Nat)
  | tooManyItems (count : Nat)
  | missingField (name : String)
  | repeatedField (name : String)
  deriving DecidableEq, Repr

inductive Cause
  | endInValue
  | endInList
  | endInObject
  | endInString
  | noColon
  | noListEnd
  | noObjectEnd
  | badWord
  | noValue
  | badEscape
  | badNumber
  | numberTooLarge
  | loneSurrogate
  | endInEscape
  | controlCharacter
  | noKey
  | trailingComma
  | trailingText
  | tooDeep
  | mismatch (detail : Mismatch)
  deriving DecidableEq, Repr

structure Fault where
  cause : Cause
  left : Nat
  deriving DecidableEq, Repr

namespace Fault

def here (cause : Cause) (rest : List Char) : Fault := ⟨cause, Text.Utf8.size rest⟩

/-- A fault right behind the next bytes of the remaining text, or at its end. -/
def after (cause : Cause) (bytes : Nat) (rest : List Char) : Fault :=
  ⟨cause, Text.Utf8.size rest - bytes⟩

def next (cause : Cause) (rest : List Char) : Fault := after cause 1 rest

/-- A value of the wrong shape, found when the reader was at the remaining text. -/
def shape (mismatch : Mismatch) (rest : List Char) : Fault := here (.mismatch mismatch) rest

end Fault

def found : Json → Found
  | .null => .null
  | .bool b => .bool b
  | .num n => .number n
  | .str s => .text s
  | .arr _ => .list
  | .obj _ => .object

def Number.describe : Number → String
  | .floating x => "floating point `" ++ x.text ++ "`"
  | whole => "integer `" ++ whole.text ++ "`"

def Found.describe : Found → String
  | .null => "null"
  | .bool true => "boolean `true`"
  | .bool false => "boolean `false`"
  | .number n => n.describe
  | .text s => "string " ++ Text.Quoted.encode s
  | .list => "sequence"
  | .object => "map"

def Wanted.describe : Wanted → String
  | .text => "a string"
  | .flag => "a boolean"
  | .natural => "u32"
  | .integer => "i32"
  | .list => "a sequence"
  | .record title => "struct " ++ title

def elements (count : Nat) : String :=
  if count = 1 then "1 element" else toString count ++ " elements"

def Mismatch.message : Mismatch → String
  | .wrongKind found wanted =>
      "invalid type: " ++ found.describe ++ ", expected " ++ wanted.describe
  | .outOfRange number wanted =>
      "invalid value: " ++ number.describe ++ ", expected " ++ wanted.describe
  | .tooFewItems count title fields =>
      "invalid length " ++ toString count ++ ", expected struct " ++ title ++ " with " ++
        elements fields
  | .tooManyItems count =>
      "invalid length " ++ toString count ++ ", expected fewer elements in array"
  | .missingField name => "missing field `" ++ name ++ "`"
  | .repeatedField name => "duplicate field `" ++ name ++ "`"

def Cause.message : Cause → String
  | .endInValue => "EOF while parsing a value"
  | .endInList => "EOF while parsing a list"
  | .endInObject => "EOF while parsing an object"
  | .endInString => "EOF while parsing a string"
  | .noColon => "expected `:`"
  | .noListEnd => "expected `,` or `]`"
  | .noObjectEnd => "expected `,` or `\x7d`"
  | .badWord => "expected ident"
  | .noValue => "expected value"
  | .badEscape => "invalid escape"
  | .badNumber => "invalid number"
  | .numberTooLarge => "number out of range"
  | .loneSurrogate => "lone leading surrogate in hex escape"
  | .endInEscape => "unexpected end of hex escape"
  | .controlCharacter => "control character (\\u0000-\\u001F) found while parsing a string"
  | .noKey => "key must be a string"
  | .trailingComma => "trailing comma"
  | .trailingText => "trailing characters"
  | .tooDeep => "recursion limit exceeded"
  | .mismatch detail => detail.message

/-- A place in a text: the line from one, and the bytes of it that lie before the place. -/
structure Position where
  line : Nat
  column : Nat
  deriving DecidableEq, Repr

def Position.advance (position : Position) : Nat → List Char → Position
  | _, [] => position
  | bytes, c :: rest =>
      if bytes = 0 then position
      else if c = '\n' then advance ⟨position.line + 1, 0⟩ (bytes - 1) rest
      else
        let width := min bytes (Text.Utf8.charSize c)
        advance ⟨position.line, position.column + width⟩ (bytes - width) rest

structure ReadError where
  cause : Cause
  position : Position
  deriving DecidableEq, Repr

def Fault.locate (text : List Char) (fault : Fault) : ReadError :=
  ⟨fault.cause, Position.advance ⟨1, 0⟩ (Text.Utf8.size text - fault.left) text⟩

def ReadError.message (error : ReadError) : String :=
  error.cause.message ++ " at line " ++ toString error.position.line ++
    " column " ++ toString error.position.column

end FlagBoard.Json
