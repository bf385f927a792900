import FlagBoard.Page.Label
import FlagBoard.Proofs.Text.Utf8

/-!
Times as they are shown. A time is told from other texts by single bytes of it, whereas it is cut
between characters. The mark between date and time is one byte, so the date always ends where a
character does; the minute need not, and then the text stays as it is.
-/

namespace FlagBoard.Timestamp

open Text.Utf8 (encode encodeChar size charSize one_le_char_size length_encode_char size_append
  length_encode single_of_size char_at_plain)

def bytes (text : String) : List UInt8 := text.toUTF8.data.toList

/-- The bytes of a text have the separators of a date and a time where they belong, and a character
ends where the minute does. -/
structure BeginsTimed (text : String) : Prop where
  year : (bytes text)[4]? = some 0x2d
  month : (bytes text)[7]? = some 0x2d
  day : (bytes text)[10]? = some 0x54 ∨ (bytes text)[10]? = some 0x20
  hour : (bytes text)[13]? = some 0x3a
  minute : ∃ start rest : String, text = start ++ rest ∧ (bytes start).length = 16

/-- A text in whole characters: a date of ten bytes, a mark of one, a time of five, and the rest. -/
structure Parted (text date : List Char) (mark : Char) (time rest : List Char) : Prop where
  whole : text = date ++ mark :: (time ++ rest)
  date : size date = 10
  mark : charSize mark = 1
  time : size time = 5

section Cutting

theorem cut_append (start rest : List Char) :
    cut (size start) (start ++ rest) = some (start, rest) := by
  induction start with
  | nil => cases rest <;> rfl
  | cons c start induction =>
      have width := one_le_char_size c
      change cut (charSize c + size start) (c :: (start ++ rest)) = _
      rw [cut, if_neg (by omega)]
      simp only [Nat.not_lt.mpr (Nat.le_add_right _ _), if_false, Nat.add_sub_cancel_left,
        induction, Option.map_some]

theorem whole_of_cut (count : Nat) (text start rest : List Char)
    (taken : cut count text = some (start, rest)) : text = start ++ rest ∧ size start = count := by
  induction text generalizing count start with
  | nil =>
      rw [cut] at taken
      split_ifs at taken with none
      obtain ⟨rfl, rfl⟩ := Prod.mk.inj (Option.some.inj taken)
      exact ⟨rfl, none.symm⟩
  | cons c text induction =>
      rw [cut] at taken
      split_ifs at taken with none
      · obtain ⟨rfl, rfl⟩ := Prod.mk.inj (Option.some.inj taken)
        exact ⟨rfl, none.symm⟩
      · simp only at taken
        split_ifs at taken with short
        obtain ⟨⟨start, left⟩, inner, same⟩ := Option.map_eq_some_iff.mp taken
        obtain ⟨rfl, rfl⟩ := Prod.mk.inj same
        obtain ⟨rfl, width⟩ := induction _ _ inner
        refine ⟨rfl, ?_⟩
        change charSize c + size start = count
        omega

theorem cut_eq_some_iff (count : Nat) (text start rest : List Char) :
    cut count text = some (start, rest) ↔ text = start ++ rest ∧ size start = count := by
  constructor
  · exact whole_of_cut count text start rest
  · rintro ⟨rfl, rfl⟩
    exact cut_append start rest

end Cutting

section Shortening

variable {text date time rest : List Char} {mark : Char}

theorem bytes_eq (text : String) : bytes text = encode text.toList :=
  (Text.Utf8.encode_to_list text).symm

theorem looks_timed_iff (text : String) :
    looksTimed text.toList = true ↔ 16 ≤ (bytes text).length ∧ (bytes text)[4]? = some 0x2d ∧
      (bytes text)[7]? = some 0x2d ∧
      ((bytes text)[10]? = some 0x54 ∨ (bytes text)[10]? = some 0x20) ∧
      (bytes text)[13]? = some 0x3a := by
  rw [bytes_eq, length_encode]
  simp [looksTimed, hasAt, and_assoc]

theorem shorten_of_parted (timed : looksTimed text = true)
    (parted : Parted text date mark time rest) : shorten text = some (date ++ ' ' :: time) := by
  have toDate : cut 10 text = some (date, mark :: (time ++ rest)) :=
    (cut_eq_some_iff ..).mpr ⟨parted.whole, parted.date⟩
  have toMark : cut 1 (mark :: (time ++ rest)) = some ([mark], time ++ rest) :=
    (cut_eq_some_iff ..).mpr ⟨rfl, parted.mark⟩
  have toTime : cut 5 (time ++ rest) = some (time, rest) :=
    (cut_eq_some_iff ..).mpr ⟨rfl, parted.time⟩
  rw [shorten, if_pos timed, toDate, Option.bind_eq_bind, Option.bind_some]
  simp only [toMark, toTime, Option.bind_some]

theorem parted_of_shorten (short : List Char) (shortened : shorten text = some short) :
    looksTimed text = true ∧ ∃ date mark time rest, Parted text date mark time rest := by
  rw [shorten] at shortened
  split_ifs at shortened with timed
  simp only [Option.bind_eq_bind, Option.bind_eq_some_iff] at shortened
  obtain ⟨⟨date, afterDate⟩, toDate, ⟨single, afterMark⟩, toMark, ⟨time, rest⟩, toTime, -⟩ :=
    shortened
  obtain ⟨whole, dateSize⟩ := (cut_eq_some_iff ..).mp toDate
  obtain ⟨split, one⟩ := (cut_eq_some_iff _ afterDate ..).mp toMark
  obtain ⟨behind, timeSize⟩ := (cut_eq_some_iff _ afterMark ..).mp toTime
  obtain ⟨mark, rfl, markSize⟩ := single_of_size one
  refine ⟨timed, date, mark, time, rest, ?_, dateSize, markSize, timeSize⟩
  rw [whole, split, behind]
  rfl

/-- The mark stands between characters, so a text with a time can be cut if it can be cut behind the
minute. -/
theorem parted_of_boundary (start rest : List Char) (whole : text = start ++ rest)
    (minute : size start = 16)
    (day : (encode text)[10]? = some 0x54 ∨ (encode text)[10]? = some 0x20) :
    ∃ date mark time, Parted text date mark time rest := by
  obtain ⟨date, mark, behind, split, dateSize, markSize⟩ :
      ∃ date mark behind, text = date ++ mark :: behind ∧ size date = 10 ∧ charSize mark = 1 := by
    rcases day with letter | space
    · exact char_at_plain text 10 0x54 (by decide) letter
    · exact char_at_plain text 10 0x20 (by decide) space
  rw [whole] at split
  rcases List.append_eq_append_iff.mp split with ⟨more, longer, -⟩ | ⟨more, longer, left⟩
  · have sizes := size_append start more
    rw [← longer] at sizes
    omega
  · cases more with
    | nil =>
        rw [List.append_nil] at longer
        rw [longer] at minute
        omega
    | cons first time =>
        obtain ⟨rfl, rfl⟩ := List.cons.inj left
        have sizes := size_append date (mark :: time)
        rw [← longer] at sizes
        change size start = size date + (charSize mark + size time) at sizes
        refine ⟨date, mark, time, ?_, dateSize, markSize, by omega⟩
        rw [whole, longer]
        simp

theorem begins_timed_iff (text : String) :
    BeginsTimed text ↔ looksTimed text.toList = true ∧
      ∃ date mark time rest, Parted text.toList date mark time rest := by
  rw [looks_timed_iff]
  constructor
  · intro timed
    obtain ⟨start, rest, whole, minute⟩ := timed.minute
    have chars : text.toList = start.toList ++ rest.toList := by
      rw [whole, String.toList_append]
    have long : 16 ≤ (bytes text).length := by
      rw [bytes_eq, length_encode] at minute ⊢
      rw [chars, size_append, minute]
      exact Nat.le_add_right 16 _
    rw [bytes_eq, length_encode] at minute
    obtain ⟨date, mark, time, parted⟩ :=
      parted_of_boundary _ _ chars minute (bytes_eq text ▸ timed.day)
    exact ⟨⟨long, timed.year, timed.month, timed.day, timed.hour⟩, date, mark, time, _, parted⟩
  · rintro ⟨⟨-, year, month, day, hour⟩, date, mark, time, rest, parted⟩
    refine ⟨year, month, day, hour, .ofList (date ++ mark :: time), .ofList rest, ?_, ?_⟩
    · rw [← String.ofList_append, List.append_assoc, List.cons_append, ← parted.whole,
        String.ofList_toList]
    · rw [bytes_eq, String.toList_ofList, length_encode, size_append, parted.date]
      change 10 + (charSize mark + size time) = 16
      rw [parted.mark, parted.time]

/-- What is left of the bytes is all up to the minute, with a space for the mark. -/
theorem bytes_of_parted (parted : Parted text date mark time rest) :
    encode (date ++ ' ' :: time) = ((encode text).take 16).set 10 0x20 := by
  have dateLength : (encode date).length = 10 := (length_encode date).trans parted.date
  have timeLength : (encode time).length = 5 := (length_encode time).trans parted.time
  obtain ⟨byte, single⟩ : ∃ byte, encodeChar mark = [byte] := by
    rw [← List.length_eq_one_iff, length_encode_char, parted.mark]
  have whole : encode text = encode date ++ byte :: (encode time ++ encode rest) := by
    rw [parted.whole, encode, List.flatMap_append, List.flatMap_cons, single, List.flatMap_append]
    rfl
  have short : encode (date ++ ' ' :: time) = encode date ++ 0x20 :: encode time := by
    rw [encode, List.flatMap_append]
    rfl
  rw [short, whole]
  simp [List.take_append, dateLength, timeLength]

theorem bytes_injective {first second : String} (same : bytes first = bytes second) :
    first = second := by
  rw [← String.toByteArray_inj]
  exact ByteArray.ext (Array.toList_inj.mp same)

end Shortening

section Results

variable {text : String}

theorem shortened (timed : BeginsTimed text) :
    ∃ date mark time rest, Parted text.toList date mark time rest ∧
      (shortTimestamp text).toList = date ++ ' ' :: time := by
  obtain ⟨marks, date, mark, time, rest, parted⟩ := (begins_timed_iff text).mp timed
  refine ⟨date, mark, time, rest, parted, ?_⟩
  rw [shortTimestamp, shorten_of_parted marks parted]
  exact String.toList_ofList

theorem bytes_shortened (timed : BeginsTimed text) :
    bytes (shortTimestamp text) = ((bytes text).take 16).set 10 0x20 := by
  obtain ⟨date, mark, time, rest, parted, short⟩ := shortened timed
  rw [bytes_eq, bytes_eq, short, bytes_of_parted parted]

theorem not_shortened (untimed : ¬ BeginsTimed text) : shortTimestamp text = text := by
  rw [begins_timed_iff] at untimed
  rw [shortTimestamp]
  cases found : shorten text.toList with
  | none => rfl
  | some short => exact absurd (parted_of_shorten short found) untimed

/-- A shortened time still is one, and ends with its minute. -/
theorem begins_timed_shortened (timed : BeginsTimed text) : BeginsTimed (shortTimestamp text) := by
  have short := bytes_shortened timed
  have long : 16 ≤ (bytes text).length :=
    ((looks_timed_iff text).mp ((begins_timed_iff text).mp timed).1).1
  have kept (offset : Nat) (before : offset < 16) (other : 10 ≠ offset) :
      (bytes (shortTimestamp text))[offset]? = (bytes text)[offset]? := by
    rw [short, List.getElem?_set_ne other, List.getElem?_take_of_lt before]
  have minute : (bytes (shortTimestamp text)).length = 16 := by
    rw [short, List.length_set, List.length_take, Nat.min_eq_left long]
  refine ⟨?_, ?_, .inr ?_, ?_, shortTimestamp text, "", by simp, minute⟩
  · rw [kept 4 (by decide) (by decide), timed.year]
  · rw [kept 7 (by decide) (by decide), timed.month]
  · rw [short, List.getElem?_set_self]
    simp only [List.length_take]
    omega
  · rw [kept 13 (by decide) (by decide), timed.hour]

theorem shorten_twice (text : String) :
    shortTimestamp (shortTimestamp text) = shortTimestamp text := by
  by_cases timed : BeginsTimed text
  · apply bytes_injective
    rw [bytes_shortened (begins_timed_shortened timed), bytes_shortened timed]
    have short : (((bytes text).take 16).set 10 0x20).length ≤ 16 := by
      rw [List.length_set]
      exact List.length_take_le 16 _
    rw [List.take_of_length_le short, List.set_set]
  · rw [not_shortened timed, not_shortened timed]

end Results

section Reads

/-- The byte at an offset; where there is none, reading fails with the offset. -/
def byteAt (bytes : List UInt8) (offset : Nat) : Except Nat UInt8 :=
  match bytes[offset]? with
  | some byte => .ok byte
  | none => .error offset

def isAt (bytes : List UInt8) (offset : Nat) (wanted : UInt8) : Except Nat Bool := do
  .ok ((← byteAt bytes offset) == wanted)

/-- Of two tests the second is made only if the first holds. -/
def both (first second : Except Nat Bool) : Except Nat Bool := do
  if ← first then second else .ok false

/-- Of two tests the second is made only if the first does not hold. -/
def either (first second : Except Nat Bool) : Except Nat Bool := do
  if ← first then .ok true else second

/-- The test of the separators with reads that can fail: first the length, then byte after byte. -/
def readsTimed (bytes : List UInt8) : Except Nat Bool :=
  both (.ok (decide (16 ≤ bytes.length))) <|
  both (isAt bytes 4 0x2d) <|
  both (isAt bytes 7 0x2d) <|
  both (either (isAt bytes 10 0x54) (isAt bytes 10 0x20)) <|
  isAt bytes 13 0x3a

theorem is_at_inside (bytes : List UInt8) (offset : Nat) (wanted : UInt8)
    (inside : offset < bytes.length) :
    isAt bytes offset wanted = .ok (bytes[offset]? == some wanted) := by
  rw [isAt, byteAt, List.getElem?_eq_getElem inside]
  rfl

theorem both_ok (first second : Bool) : both (.ok first) (.ok second) = .ok (first && second) := by
  cases first <;> rfl

theorem either_ok (first second : Bool) :
    either (.ok first) (.ok second) = .ok (first || second) := by
  cases first <;> rfl

/-- Behind the test of the length every offset is inside the text. -/
theorem reads_timed_eq (text : String) :
    readsTimed (bytes text) = .ok (looksTimed text.toList) := by
  by_cases long : 16 ≤ (bytes text).length
  · rw [readsTimed, is_at_inside _ 4 _ (by omega), is_at_inside _ 7 _ (by omega),
      is_at_inside _ 10 _ (by omega), is_at_inside _ 10 _ (by omega),
      is_at_inside _ 13 _ (by omega), either_ok, both_ok, both_ok, both_ok, both_ok]
    apply congrArg Except.ok
    rw [Bool.eq_iff_iff, looks_timed_iff]
    simp
  · have short : looksTimed text.toList = false := by
      rw [Bool.eq_false_iff]
      exact fun timed => long ((looks_timed_iff text).mp timed).1
    rw [readsTimed, short, decide_eq_false long]
    rfl

end Reads

/-- A time is shortened safely, whatever the text. The test for it reads no byte outside of the
text. If the text begins with a date and a time, what is left of it are its first sixteen bytes with
a space at offset 10, all in whole characters; otherwise the text stays as it is. Shortening twice
is shortening once. -/
theorem time_shortened_safely (text : String) :
    readsTimed (bytes text) = .ok (looksTimed text.toList) ∧
    (BeginsTimed text ∧
        (∃ date mark time rest, Parted text.toList date mark time rest ∧
          (shortTimestamp text).toList = date ++ ' ' :: time) ∧
        bytes (shortTimestamp text) = ((bytes text).take 16).set 10 0x20 ∨
      ¬ BeginsTimed text ∧ shortTimestamp text = text) ∧
    shortTimestamp (shortTimestamp text) = shortTimestamp text := by
  refine ⟨reads_timed_eq text, ?_, shorten_twice text⟩
  by_cases timed : BeginsTimed text
  · exact .inl ⟨timed, shortened timed, bytes_shortened timed⟩
  · exact .inr ⟨timed, not_shortened timed⟩

example : shortTimestamp "2021-03-04T12:34:56Z" = "2021-03-04 12:34" := by decide +kernel

/-- The last character is two bytes long, and offset 16 is in the middle of it. -/
example : shortTimestamp "2021-03-04T12:3é" = "2021-03-04T12:3é" := by decide +kernel

end FlagBoard.Timestamp
