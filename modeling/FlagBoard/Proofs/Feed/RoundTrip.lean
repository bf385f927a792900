import FlagBoard.Proofs.Feed.Written

/-!
Frames of written messages. However the messages are padded with blanks and set apart by blank
lines, a frame is decoded to the messages on its lines, in order.
-/

namespace FlagBoard

/-- Characters that are dropped around a message or fill lines of their own. Line breaks may be
among them. -/
structure Gap where
  chars : List Char
  blank : ∀ c ∈ chars, Text.isBlank c = true

def Gap.none : Gap := ⟨[], List.forall_mem_nil _⟩

/-- What may be written on the lines of a frame. -/
inductive Line
  | blank (gap : Gap)
  | message (before : Gap) (content : Message) (after : Gap)

namespace Line

def text : Line → String
  | .blank gap => String.ofList gap.chars
  | .message before content after =>
      String.ofList (before.chars ++ content.encode.toList ++ after.chars)

def bare (content : Message) : Line := .message .none content .none

def content? : Line → Option Message
  | .blank _ => none
  | .message _ content _ => some content

def frame (written : List Line) : String := "\n".intercalate (written.map text)

def contents (written : List Line) : List Message := written.filterMap content?

theorem segments_text (line : Line) :
    segments line.text.toList =
      (line.content?.map fun content => content.encode.toList).toList := by
  cases line with
  | blank gap =>
      rw [text, String.toList_ofList, segments_of_blank gap.chars gap.blank]
      rfl
  | message before content after =>
      have single := newline_notMem_encode content
      rw [text, String.toList_ofList, List.append_assoc,
        segments_blank_append before.chars _ before.blank,
        segments_append_blank _ after.chars single after.blank, segments_encode]
      rfl

theorem split_frame (written : List Line) :
    splitFrame (frame written) = (contents written).map Message.encode := by
  have pieces : segments (frame written).toList =
      (contents written).map fun content => content.encode.toList := by
    rw [frame, segments_joined, List.flatMap_map]
    induction written with
    | nil => rfl
    | cons line written induction =>
        rw [List.flatMap_cons, induction, segments_text]
        cases line <;> rfl
  rw [splitFrame, pieces, List.map_map]
  exact List.map_congr_left fun content _ => String.ofList_toList

theorem decode_frame (written : List Line) :
    decodeFrame (frame written) = (contents written).map fun content => .ok (.message content) := by
  have each : decodeSegment ∘ Message.encode = fun content => .ok (.message content) := by
    funext content
    rw [Function.comp_apply, decode_segment_encode]
  rw [decodeFrame, split_frame, List.map_map, each]

theorem frame_bare (messages : List Message) :
    frame (messages.map bare) = "\n".intercalate (messages.map Message.encode) := by
  have each : text ∘ bare = Message.encode := by
    funext content
    simp [text, bare, Gap.none]
  rw [frame, List.map_map, each]

theorem contents_bare (messages : List Message) : contents (messages.map bare) = messages := by
  rw [contents, List.filterMap_map]
  exact List.filterMap_some

end Line

/-- Decoding undoes encoding, over whole frames. Messages written on a line each are decoded to
themselves in order; blanks around them and blank lines between them make no difference, and no
message is ever split over two lines. -/
theorem decode_frame_undoes_encode :
    (∀ messages : List Message, decodeFrame ("\n".intercalate (messages.map Message.encode)) =
      messages.map fun message => .ok (.message message)) ∧
    (∀ written : List Line,
      splitFrame (Line.frame written) = (Line.contents written).map Message.encode ∧
      decodeFrame (Line.frame written) =
        (Line.contents written).map fun message => .ok (.message message)) ∧
    (∀ message : Message, '\n' ∉ message.encode.toList) := by
  refine ⟨?_, fun written => ⟨Line.split_frame written, Line.decode_frame written⟩,
    newline_notMem_encode⟩
  intro messages
  rw [← Line.frame_bare, Line.decode_frame, Line.contents_bare]

end FlagBoard
