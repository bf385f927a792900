import FlagBoard.Proofs.Feed.Lines

/-!
A frame as segments and gaps. The segments of a frame stand in it as they are, and what stands
between them and at both ends is blank. Two neighbours are on different lines, so between them the
gap has a line break; that and the shape of a segment leave one way to take a frame apart.
-/

namespace FlagBoard

def IsGap (gap : List Char) : Prop := ∀ c ∈ gap, Text.isBlank c = true

instance (gap : List Char) : Decidable (IsGap gap) := List.decidableBAll _ gap

/-- A text is pieces with gaps around them: one gap before all, then each piece with the gap behind
it. A gap between two pieces has a line break. -/
structure Spread (text : List Char) (pieces : List (List Char)) (lead : List Char)
    (gaps : List (List Char)) : Prop where
  each : gaps.length = pieces.length
  whole : text = lead ++ (List.zipWith (· ++ ·) pieces gaps).flatten
  blank : IsGap lead ∧ ∀ gap ∈ gaps, IsGap gap
  broken : ∀ gap ∈ gaps.dropLast, '\n' ∈ gap

theorem IsGap.append {first second : List Char} (blankFirst : IsGap first)
    (blankSecond : IsGap second) : IsGap (first ++ second) :=
  List.forall_mem_append.mpr ⟨blankFirst, blankSecond⟩

section Spreading

variable {text lead : List Char} {pieces gaps : List (List Char)}

theorem spread_nothing : Spread [] [] [] [] where
  each := rfl
  whole := rfl
  blank := ⟨nofun, nofun⟩
  broken := nofun

theorem Spread.before (spread : Spread text pieces lead gaps) {gap : List Char}
    (blank : IsGap gap) : Spread (gap ++ text) pieces (gap ++ lead) gaps where
  each := spread.each
  whole := by
    conv_lhs => rw [spread.whole]
    rw [List.append_assoc]
  blank := ⟨blank.append spread.blank.1, spread.blank.2⟩
  broken := spread.broken

/-- One more piece in front, on a line of its own if others follow. -/
theorem Spread.cons (spread : Spread text pieces lead gaps) {before behind : List Char}
    (piece : List Char) (blankBefore : IsGap before) (blankBehind : IsGap behind)
    (broken : pieces ≠ [] → '\n' ∈ behind) :
    Spread (before ++ piece ++ behind ++ text) (piece :: pieces) before
      ((behind ++ lead) :: gaps) where
  each := by rw [List.length_cons, List.length_cons, spread.each]
  whole := by
    conv_lhs => rw [spread.whole]
    simp
  blank := ⟨blankBefore,
    List.forall_mem_cons.mpr ⟨blankBehind.append spread.blank.1, spread.blank.2⟩⟩
  broken := by
    cases gaps with
    | nil => nofun
    | cons gap gaps =>
        have others : pieces ≠ [] := by
          intro none
          have each := spread.each
          rw [none] at each
          cases each
        rw [List.dropLast_cons_cons, List.forall_mem_cons]
        exact ⟨List.mem_append_left lead (broken others), spread.broken⟩

/-- A line in front, closed by a line break if pieces follow. -/
theorem spread_line (spread : Spread text pieces lead gaps) {line close : List Char}
    (single : '\n' ∉ line) (blank : IsGap close) (broken : pieces ≠ [] → '\n' ∈ close) :
    ∃ lead gaps, Spread (line ++ close ++ text) (segments line ++ pieces) lead gaps := by
  obtain ⟨before, behind, whole, blankBefore, blankBehind⟩ := (Text.strips_trim line).around
  rw [segments_line line single]
  by_cases empty : Text.trim line = []
  · have blankLine : IsGap line := by
      rw [whole, empty, List.append_nil]
      exact IsGap.append blankBefore blankBehind
    rw [empty]
    exact ⟨_, _, spread.before (blankLine.append blank)⟩
  · have piece := spread.cons (Text.trim line) blankBefore (IsGap.append blankBehind blank)
      fun others => List.mem_append_right behind (broken others)
    rw [← List.append_assoc, ← whole] at piece
    have kept : [Text.trim line].filter (fun segment => !segment.isEmpty) = [Text.trim line] := by
      simpa using empty
    rw [kept]
    exact ⟨_, _, piece⟩

theorem spread_lines (texts : List (List Char)) (single : ∀ text ∈ texts, '\n' ∉ text) :
    ∃ lead gaps, Spread (['\n'].intercalate texts) (texts.flatMap segments) lead gaps := by
  induction texts with
  | nil => exact ⟨_, _, spread_nothing⟩
  | cons line texts induction =>
      rw [List.forall_mem_cons] at single
      cases texts with
      | nil =>
          have last : ∃ lead gaps, Spread (line ++ [] ++ []) (segments line ++ []) lead gaps :=
            spread_line spread_nothing single.1 nofun nofun
          simpa using last
      | cons next texts =>
          obtain ⟨lead, gaps, spread⟩ := induction single.2
          rw [List.intercalate_cons_cons, List.flatMap_cons]
          have newline : IsGap ['\n'] := by simp [IsGap, Text.isBlank]
          exact spread_line spread single.1 newline fun _ => List.mem_singleton_self _

theorem spread_segments (text : List Char) :
    ∃ lead gaps, Spread text (segments text) lead gaps := by
  have spread := spread_lines (text.splitOn '\n') (by
    intro line found
    exact newline_notMem_line text line (lines_eq_splitOn text ▸ found))
  rwa [← segments_intercalate, List.intercalate_splitOn] at spread

/-- Pieces that follow the first one are spread over the lines behind it. -/
theorem Spread.behind_first {piece next : List Char}
    (spread : Spread text (piece :: next :: pieces) lead gaps) :
    ∃ gap rest lead' gaps', text = lead ++ (piece ++ gap ++ '\n' :: rest) ∧ IsGap gap ∧
      Spread rest (next :: pieces) lead' gaps' := by
  obtain ⟨gap, others, rfl⟩ := List.exists_cons_of_length_eq_add_one spread.each
  have each : others.length = (next :: pieces).length := Nat.succ.inj spread.each
  obtain ⟨second, others, rfl⟩ := List.exists_cons_of_length_eq_add_one each
  have blank := List.forall_mem_cons.mp spread.blank.2
  have broken := spread.broken
  rw [List.dropLast_cons_cons, List.forall_mem_cons] at broken
  obtain ⟨first, rest, rfl, -⟩ := List.eq_append_cons_of_mem broken.1
  have blankGap := List.forall_mem_append.mp blank.1
  refine ⟨first, _, rest, second :: others, ?_, blankGap.1, each, rfl, ?_, broken.2⟩
  · rw [spread.whole]
    simp
  · exact ⟨(List.forall_mem_cons.mp blankGap.2).2, blank.2⟩

theorem Spread.only {piece : List Char} (spread : Spread text [piece] lead gaps) :
    ∃ gap, text = lead ++ (piece ++ gap) ∧ IsGap gap := by
  obtain ⟨gap, rfl⟩ := List.length_eq_one_iff.mp spread.each
  refine ⟨gap, ?_, spread.blank.2 gap (List.mem_singleton_self gap)⟩
  rw [spread.whole]
  simp

/-- However pieces are spread, they are the segments if each of them can stand as one. -/
theorem segments_of_spread (spread : Spread text pieces lead gaps)
    (each : ∀ piece ∈ pieces, IsSegment piece) : segments text = pieces := by
  induction pieces generalizing text lead gaps with
  | nil =>
      rw [spread.whole, List.zipWith_nil_left, List.flatten_nil, List.append_nil]
      exact segments_of_blank lead spread.blank.1
  | cons piece pieces induction =>
      rw [List.forall_mem_cons] at each
      have own := segments_of_segment piece each.1
      cases pieces with
      | nil =>
          obtain ⟨gap, whole, blank⟩ := spread.only
          rw [whole, segments_blank_append lead _ spread.blank.1,
            segments_append_blank piece gap each.1.single blank, own]
      | cons next pieces =>
          obtain ⟨gap, rest, _, _, whole, blank, behind⟩ := spread.behind_first
          rw [whole, segments_blank_append lead _ spread.blank.1, segments_append,
            segments_append_blank piece gap each.1.single blank, own, induction behind each.2]
          rfl

def nonblank (text : List Char) : List Char := text.filter fun c => !Text.isBlank c

theorem nonblank_append (first second : List Char) :
    nonblank (first ++ second) = nonblank first ++ nonblank second := List.filter_append _ _

theorem nonblank_gap {gap : List Char} (blank : IsGap gap) : nonblank gap = [] := by
  rw [nonblank, List.filter_eq_nil_iff]
  intro c member
  simp [blank c member]

theorem nonblank_row (pieces gaps : List (List Char)) (each : gaps.length = pieces.length)
    (blank : ∀ gap ∈ gaps, IsGap gap) :
    nonblank (List.zipWith (· ++ ·) pieces gaps).flatten = pieces.flatMap nonblank := by
  induction pieces generalizing gaps with
  | nil => rfl
  | cons piece pieces induction =>
      obtain ⟨gap, gaps, rfl⟩ := List.exists_cons_of_length_eq_add_one each
      rw [List.forall_mem_cons] at blank
      rw [List.zipWith_cons_cons, List.flatten_cons, nonblank_append, nonblank_append,
        nonblank_gap blank.1, List.append_nil, induction gaps (Nat.succ.inj each) blank.2,
        List.flatMap_cons]

/-- No gap holds anything but blanks, so all else stands in the pieces, in their order. -/
theorem nonblank_of_spread (spread : Spread text pieces lead gaps) :
    nonblank text = pieces.flatMap nonblank := by
  rw [spread.whole, nonblank_append, nonblank_gap spread.blank.1, List.nil_append]
  exact nonblank_row pieces gaps spread.each spread.blank.2

end Spreading

/-- A frame is its segments and blank gaps. Every segment is a text of its own: it is not empty,
holds no line break and has no blank at either end. The frame is a gap, then segment and gap in
turn, with a line break in every gap between two segments, and the segments are the only texts of
that kind that can be spread so. Without blanks the frame reads as its segments do one after
another, and the segments joined by line breaks are split into the same segments again. -/
theorem frame_is_segments_and_gaps (frame : String) :
    (∀ segment ∈ splitFrame frame, IsSegment segment.toList) ∧
    (∃ lead gaps, Spread frame.toList ((splitFrame frame).map String.toList) lead gaps) ∧
    (∀ pieces : List String, (∀ piece ∈ pieces, IsSegment piece.toList) →
      (∃ lead gaps, Spread frame.toList (pieces.map String.toList) lead gaps) →
      splitFrame frame = pieces) ∧
    nonblank frame.toList = (splitFrame frame).flatMap (fun segment => nonblank segment.toList) ∧
    splitFrame ("\n".intercalate (splitFrame frame)) = splitFrame frame := by
  have chars : (splitFrame frame).map String.toList = segments frame.toList := by
    simp [splitFrame]
  obtain ⟨lead, gaps, spread⟩ := spread_segments frame.toList
  refine ⟨?_, ?_, ?_, ?_, ?_⟩
  · intro segment member
    have within : segment.toList ∈ (splitFrame frame).map String.toList :=
      List.mem_map_of_mem member
    rw [chars] at within
    exact segment_of_mem _ _ within
  · rw [chars]
    exact ⟨lead, gaps, spread⟩
  · intro pieces each spreads
    obtain ⟨lead, gaps, spread⟩ := spreads
    have same := segments_of_spread spread (List.forall_mem_map.mpr each)
    rw [splitFrame, same]
    simp
  · rw [nonblank_of_spread spread, ← chars, List.flatMap_map]
  · exact split_frame_intercalate _ fun segment member => ⟨frame, member⟩

/-- A frame with a blank line, carriage returns and wide blanks, and its two segments. -/
theorem frame_is_segments_and_gaps_wide :
    let frame := " \u2003a b\r\n\u00a0\r\n\tc\u3000"
    splitFrame frame = ["a b", "c"] ∧ IsSegment "a b".toList := by
  intro frame
  obtain ⟨each, -, only, -, -⟩ := frame_is_segments_and_gaps frame
  have split : splitFrame frame = ["a b", "c"] := by
    apply only
    · intro piece member
      rw [List.mem_cons, List.mem_singleton] at member
      rcases member with rfl | rfl <;> constructor <;> simp [Text.isBlank]
    · exact ⟨" \u2003".toList, ["\r\n\u00a0\r\n\t".toList, "\u3000".toList],
        by constructor <;> decide +kernel⟩
  exact ⟨split, each "a b" (by rw [split]; decide)⟩

end FlagBoard
