import FlagBoard.Proofs.Feed.Batching
import FlagBoard.Proofs.Text.Utf8

/-!
Damaged frames. A frame of bytes is decoded line by line, and no byte of a line has a part in what
another line is decoded to, be it text or not.
-/

namespace FlagBoard

theorem decode_bytes_append (first rest : List UInt8) :
    decodeBytes (first ++ 0x0a :: rest) = decodeBytes first ++ decodeBytes rest := by
  have chars := Text.Utf8.decode_append_newline first rest
  simp only [decodeBytes, decodeFrame, splitFrame, String.toList_ofList, chars, segments_append,
    List.map_append]

/-- A frame of bytes is decoded line by line. -/
theorem decode_bytes_lines (bytes : List UInt8) :
    decodeBytes bytes = (bytes.splitOn 0x0a).flatMap decodeBytes := by
  have joined := read_intercalate decodeBytes 0x0a rfl decode_bytes_append (bytes.splitOn 0x0a)
  rwa [List.intercalate_splitOn] at joined

theorem decode_bytes_of_text (text : String) :
    decodeBytes text.toUTF8.data.toList = decodeFrame text := by
  rw [decodeBytes, Text.Utf8.decode_to_utf8, String.ofList_toList]

theorem split_on_head_around {Item : Type} [BEq Item] [LawfulBEq Item] (separator : Item)
    (after : List Item) :
    ∃ right tail, ∀ middle, separator ∉ middle →
      (middle ++ after).splitOn separator = (middle ++ right) :: tail := by
  by_cases broken : separator ∈ after
  · obtain ⟨right, rest, rfl, unbroken⟩ := List.eq_append_cons_of_mem broken
    refine ⟨right, rest.splitOn separator, fun middle single => ?_⟩
    have whole : separator ∉ middle ++ right := by simp [single, unbroken]
    rw [← List.append_assoc, List.splitOn_append_cons_self, List.splitOn_eq_singleton whole,
      List.singleton_append]
  · refine ⟨after, [], fun middle single => ?_⟩
    exact List.splitOn_eq_singleton (by simp [single, broken])

/-- All that stands between two texts without a separator is on one line, which is as far down as
there are separators before it. The other lines do not depend on it. -/
theorem split_on_around {Item : Type} [BEq Item] [LawfulBEq Item] (separator : Item)
    (before after : List Item) :
    ∃ head left right tail, head.length = before.count separator ∧
      ∀ middle, separator ∉ middle →
        (before ++ middle ++ after).splitOn separator = head ++ (left ++ middle ++ right) :: tail := by
  induction before with
  | nil =>
      obtain ⟨right, tail, split⟩ := split_on_head_around separator after
      exact ⟨[], [], right, tail, rfl, fun middle single => by simp [split middle single]⟩
  | cons item before induction =>
      obtain ⟨head, left, right, tail, lines, split⟩ := induction
      by_cases same : item = separator
      · refine ⟨[] :: head, left, right, tail, by simp [lines, same], fun middle single => ?_⟩
        simp only [List.cons_append, List.splitOn_cons_eq_if_modifyHead, same, split middle single]
        simp
      · have count : (item :: before).count separator = before.count separator :=
          List.count_cons_of_ne same
        cases head with
        | nil =>
            refine ⟨[], item :: left, right, tail, by rw [count, ← lines], fun middle single => ?_⟩
            simp only [List.cons_append, List.splitOn_cons_eq_if_modifyHead, split middle single]
            simp [same]
        | cons first head =>
            refine ⟨(item :: first) :: head, left, right, tail, by rw [count, ← lines]; rfl,
              fun middle single => ?_⟩
            simp only [List.cons_append, List.splitOn_cons_eq_if_modifyHead, split middle single]
            simp [same]

def decodedLines (bytes : List UInt8) : List (List (Except SegmentError Event)) :=
  (bytes.splitOn 0x0a).map decodeBytes

/-- Only one line is decoded differently if bytes are put in the place of others. -/
theorem decoded_lines_around (before after : List UInt8) :
    ∃ head tail : List (List (Except SegmentError Event)), head.length = before.count 0x0a ∧
      ∀ middle, 0x0a ∉ middle →
        ∃ line, decodedLines (before ++ middle ++ after) = head ++ line :: tail := by
  obtain ⟨head, left, right, tail, lines, split⟩ := split_on_around 0x0a before after
  refine ⟨head.map decodeBytes, tail.map decodeBytes, by rw [List.length_map, lines],
    fun middle single => ⟨decodeBytes (left ++ middle ++ right), ?_⟩⟩
  rw [decodedLines, split middle single, List.map_append, List.map_cons]

theorem getElem?_other_line {Item : Type} (head tail : List Item) (first second : Item)
    (index : Nat) (other : index ≠ head.length) :
    (head ++ first :: tail)[index]? = (head ++ second :: tail)[index]? := by
  simp only [List.getElem?_append]
  split_ifs with inside
  · rfl
  · obtain ⟨place, same⟩ : ∃ place, index - head.length = place + 1 :=
      Nat.exists_eq_add_one.mpr (by omega)
    rw [same, List.getElem?_cons_succ, List.getElem?_cons_succ]

variable {State : Type} [View State]

/-- Damage stays in its line. A frame of bytes is decoded line by line, the bytes of a text are
decoded as that text, and a view takes over the lines in order. If bytes other than line breaks are
put in or taken out anywhere, all lines but the one that they are on are decoded as before. -/
theorem damage_stays_in_its_line (view : State) :
    (∀ bytes : List UInt8, decodeBytes bytes = (bytes.splitOn 0x0a).flatMap decodeBytes) ∧
    (∀ text : String, decodeBytes text.toUTF8.data.toList = decodeFrame text ∧
      applyBytes view text.toUTF8.data.toList = applyFrame view text) ∧
    (∀ bytes : List UInt8,
      applyBytes view bytes = applyEach view ((bytes.splitOn 0x0a).map .bytes)) ∧
    (∀ before old new after : List UInt8, 0x0a ∉ old → 0x0a ∉ new →
      (decodedLines (before ++ new ++ after)).length =
        (decodedLines (before ++ old ++ after)).length ∧
      ∀ index, index ≠ before.count 0x0a →
        (decodedLines (before ++ new ++ after))[index]? =
          (decodedLines (before ++ old ++ after))[index]?) := by
  refine ⟨decode_bytes_lines, ?_, ?_, ?_⟩
  · intro text
    have decoded := decode_bytes_of_text text
    exact ⟨decoded, by rw [applyBytes, decoded, applyFrame]⟩
  · intro bytes
    have events : ((bytes.splitOn 0x0a).map Incoming.bytes).flatMap Incoming.events =
        (bytes.splitOn 0x0a).flatMap decodeBytes := List.flatMap_map _ _ _
    rw [apply_each_eq, events, ← decode_bytes_lines, applyBytes]
  · intro before old new after singleOld singleNew
    -- The lines before and after are named once for old and new, which only fill the one between.
    obtain ⟨head, tail, place, lines⟩ := decoded_lines_around before after
    obtain ⟨oldLine, oldLines⟩ := lines old singleOld
    obtain ⟨newLine, newLines⟩ := lines new singleNew
    rw [oldLines, newLines, ← place]
    exact ⟨by simp, fun index other => getElem?_other_line head tail newLine oldLine index other⟩

/-- A character that is cut short by a line break does not take the break with it. -/
theorem damage_stays_in_its_line_cut_short :
    (decodedLines ([0x78] ++ [0xe2, 0x82] ++
      0x0a :: "\x7b\"msg\":\"x\"\x7d".toUTF8.data.toList))[1]? = some [.ok (.unknown "x")] := by
  have kept := (damage_stays_in_its_line Scoreboard.empty).2.2.2 [0x78] [] [0xe2, 0x82]
    (0x0a :: "\x7b\"msg\":\"x\"\x7d".toUTF8.data.toList) (by decide) (by decide)
  rw [kept.2 1 (by decide)]
  decide +kernel

end FlagBoard
