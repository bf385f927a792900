import FlagBoard.Feed.Message
import FlagBoard.Text.Blank

/-!
Frames of the live feed. A frame holds segments, one a line; blank lines and the blanks around a
segment do not count. Each segment is decoded on its own, so a bad one spoils no other.
-/

namespace FlagBoard

/-- Why a segment was refused: it is no envelope, or its values are not of its kind. -/
inductive SegmentError
  | envelope (error : Json.ReadError)
  | values (kind : Kind) (mismatch : Json.Mismatch)
  deriving DecidableEq, Repr

def SegmentError.message : SegmentError → String
  | .envelope error => "malformed stream envelope: " ++ error.message
  | .values kind mismatch => "invalid values for `" ++ kind.name ++ "`: " ++ mismatch.message

/-- The lines of a text, without their line breaks. There is always one more than breaks. -/
def lines : List Char → List (List Char)
  | [] => [[]]
  | c :: rest =>
      if c = '\n' then [] :: lines rest
      else
        match lines rest with
        | line :: others => (c :: line) :: others
        | [] => [[c]]

def segments (frame : List Char) : List (List Char) :=
  ((lines frame).map Text.trim).filter fun segment => !segment.isEmpty

def splitFrame (frame : String) : List String := (segments frame.toList).map String.ofList

namespace Envelope

@[reducible] def fields : Json.Fields :=
  .field "msg" [] true .text <|
  .field "values" [] false .any .nil

@[reducible] def schema : Json.Schema := .record "Envelope" fields

end Envelope

def decodeSegment (segment : String) : Except SegmentError Event :=
  match Envelope.schema.readText segment with
  | .error error => .error (.envelope error)
  | .ok (name, values, ()) =>
      match Kind.ofName? name with
      | none => .ok (.unknown name)
      | some kind =>
          match Message.ofValues kind values with
          | .error mismatch => .error (.values kind mismatch)
          | .ok message => .ok (.message message)

def decodeFrame (frame : String) : List (Except SegmentError Event) :=
  (splitFrame frame).map decodeSegment

/-- Decodes a frame of bytes. What is no text in it becomes replacement characters. -/
def decodeBytes (frame : List UInt8) : List (Except SegmentError Event) :=
  decodeFrame (String.ofList (Text.Utf8.decode frame))

end FlagBoard
