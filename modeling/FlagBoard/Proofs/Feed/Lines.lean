import FlagBoard.Feed.Frame
import FlagBoard.Proofs.Text.Ends
import Mathlib

/-!
The segments of a frame. A line break separates what stands before it from what stands behind it,
and blanks at either end of a text add no segment and change none.
-/

namespace FlagBoard

theorem lines_eq_splitOn (text : List Char) : lines text = text.splitOn '\n' := by
  induction text with
  | nil => rfl
  | cons c text induction =>
      rw [lines, List.splitOn_cons_eq_if_modifyHead, induction]
      by_cases newline : c = '\n'
      · simp [newline]
      · simp only [newline, if_false, beq_iff_eq]
        cases others : text.splitOn '\n' with
        | nil => exact absurd others (List.splitOn_ne_nil _ _)
        | cons line others => rfl

theorem segments_append (first rest : List Char) :
    segments (first ++ '\n' :: rest) = segments first ++ segments rest := by
  simp only [segments, lines_eq_splitOn, List.splitOn_append_cons_self, List.map_append,
    List.filter_append]

theorem newline_notMem_line (text line : List Char) (member : line ∈ lines text) :
    '\n' ∉ line := by
  induction text generalizing line with
  | nil =>
      rw [lines, List.mem_singleton] at member
      rw [member]
      exact List.not_mem_nil
  | cons c rest induction =>
      rw [lines] at member
      split_ifs at member with newline
      · cases member with
        | head => exact List.not_mem_nil
        | tail _ later => exact induction line later
      · cases others : lines rest with
        | nil => exact absurd (lines_eq_splitOn rest ▸ others) (List.splitOn_ne_nil _ _)
        | cons first others =>
            rw [others] at member induction
            cases member with
            | head =>
                have unbroken := induction first List.mem_cons_self
                simp [unbroken, Ne.symm newline]
            | tail _ later => exact induction line (List.mem_cons_of_mem first later)

/-- A text on one line is one segment, or none if it is blank. -/
theorem segments_line (text : List Char) (single : '\n' ∉ text) :
    segments text = [Text.trim text].filter fun segment => !segment.isEmpty := by
  rw [segments, lines_eq_splitOn, List.splitOn_eq_singleton single]
  rfl

/-- A text that can stand as a segment: on one line, and with no blank at either end. -/
structure IsSegment (piece : List Char) : Prop where
  full : piece ≠ []
  single : '\n' ∉ piece
  first : ∀ c ∈ piece.head?, Text.isBlank c = false
  last : ∀ c ∈ piece.getLast?, Text.isBlank c = false

theorem segment_of_mem (frame segment : List Char) (member : segment ∈ segments frame) :
    IsSegment segment := by
  rw [segments, List.mem_filter, List.mem_map] at member
  obtain ⟨⟨line, found, rfl⟩, full⟩ := member
  have strips := Text.strips_trim line
  constructor
  case full => simpa using full
  case single =>
    intro broken
    exact newline_notMem_line frame line found ((Text.trim_sublist line).mem broken)
  case first => exact strips.first
  case last => exact strips.last

/-- A text that can stand as a segment is the only segment of itself. -/
theorem segments_of_segment (piece : List Char) (isSegment : IsSegment piece) :
    segments piece = [piece] := by
  have trimmed : Text.trim piece = piece :=
    (Text.strips_iff piece piece).mp
      ⟨⟨[], [], by simp, nofun, nofun⟩, isSegment.first, isSegment.last⟩
  rw [segments_line piece isSegment.single, trimmed]
  simp [isSegment.full]

/-- A segment of a frame is the only segment of itself. -/
theorem segments_of_mem (frame segment : List Char) (member : segment ∈ segments frame) :
    segments segment = [segment] :=
  segments_of_segment segment (segment_of_mem frame segment member)

theorem segments_cons_blank (c : Char) (text : List Char) (blank : Text.isBlank c = true) :
    segments (c :: text) = segments text := by
  by_cases newline : c = '\n'
  · subst newline
    exact segments_append [] text
  · rw [segments, segments, lines, if_neg newline]
    cases others : lines text with
    | nil => exact absurd (lines_eq_splitOn text ▸ others) (List.splitOn_ne_nil _ _)
    | cons line others => simp only [List.map_cons, Text.trim_cons_blank c line blank]

theorem segments_blank_append (gap text : List Char) (blank : ∀ c ∈ gap, Text.isBlank c = true) :
    segments (gap ++ text) = segments text := by
  induction gap with
  | nil => rfl
  | cons c gap induction =>
      rw [List.forall_mem_cons] at blank
      rw [List.cons_append, segments_cons_blank c _ blank.1, induction blank.2]

theorem segments_of_blank (gap : List Char) (blank : ∀ c ∈ gap, Text.isBlank c = true) :
    segments gap = [] := by
  have none := segments_blank_append gap [] blank
  rw [List.append_nil] at none
  exact none

theorem segments_append_blank (text gap : List Char) (single : '\n' ∉ text)
    (blank : ∀ c ∈ gap, Text.isBlank c = true) : segments (text ++ gap) = segments text := by
  have line (gap : List Char) (unbroken : '\n' ∉ gap) (blank : ∀ c ∈ gap, Text.isBlank c = true) :
      segments (text ++ gap) = segments text := by
    rw [segments_line text single, segments_line (text ++ gap),
      Text.trim_append_blank text gap blank]
    exact fun member => (List.mem_append.mp member).elim single unbroken
  by_cases broken : '\n' ∈ gap
  · obtain ⟨first, rest, rfl, unbroken⟩ := List.eq_append_cons_of_mem broken
    rw [List.forall_mem_append, List.forall_mem_cons] at blank
    rw [← List.append_assoc, segments_append, segments_of_blank rest blank.2.2, List.append_nil]
    exact line first unbroken blank.1
  · exact line gap broken blank

/-- What is read of texts one by one is read of all of them joined, if the separator sets apart what
stands before it from what stands behind it. -/
theorem read_intercalate {Item Result : Type} (read : List Item → List Result) (separator : Item)
    (nothing : read [] = [])
    (apart : ∀ first rest, read (first ++ separator :: rest) = read first ++ read rest)
    (texts : List (List Item)) : read ([separator].intercalate texts) = texts.flatMap read := by
  induction texts with
  | nil => exact nothing
  | cons text texts induction =>
      cases texts with
      | nil => simp
      | cons next texts =>
          rw [List.intercalate_cons_cons, List.append_assoc, List.singleton_append, apart,
            induction]
          rfl

theorem segments_intercalate (texts : List (List Char)) :
    segments (['\n'].intercalate texts) = texts.flatMap segments :=
  read_intercalate segments '\n' rfl segments_append texts

/-- The segments of joined texts are those of each text in turn. -/
theorem segments_joined (texts : List String) :
    segments ("\n".intercalate texts).toList = texts.flatMap fun text => segments text.toList := by
  rw [String.toList_intercalate]
  change segments (['\n'].intercalate _) = _
  rw [segments_intercalate, List.flatMap_map]

/-- Segments, from whatever frames, are the segments of the frame that joins them. -/
theorem split_frame_intercalate (pieces : List String)
    (written : ∀ piece ∈ pieces, ∃ frame, piece ∈ splitFrame frame) :
    splitFrame ("\n".intercalate pieces) = pieces := by
  have single (piece : String) (member : piece ∈ pieces) :
      segments piece.toList = [piece.toList] := by
    obtain ⟨frame, found⟩ := written piece member
    obtain ⟨segment, within, rfl⟩ := List.mem_map.mp found
    rw [String.toList_ofList]
    exact segments_of_mem frame.toList segment within
  rw [splitFrame, segments_joined, List.flatMap_congr single, List.map_flatMap]
  simp

end FlagBoard
