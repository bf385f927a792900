import FlagBoard.Text.Blank
import Mathlib

/-!
The ends of texts. Where the characters that pass come to an end is told by the first one behind
them; trimming drops the blanks at both ends of a text and nothing more.
-/

namespace FlagBoard

section Splitting

variable {passes : Char → Bool} {first second : List Char}

theorem drop_while_none (ends : ∀ c ∈ second.head?, passes c = false) :
    second.dropWhile passes = second := by
  cases second with
  | nil => rfl
  | cons c rest => rw [List.dropWhile_cons_of_neg (by simp [ends c rfl])]

/-- The text up to the first character that does not pass, and the text from there. -/
theorem split_where_ends (inside : ∀ c ∈ first, passes c = true)
    (ends : ∀ c ∈ second.head?, passes c = false) :
    (first ++ second).takeWhile passes = first ∧ (first ++ second).dropWhile passes = second := by
  have behind : (first ++ second).dropWhile passes = second := by
    rw [List.dropWhile_append_of_pos inside, drop_while_none ends]
  have whole : (first ++ second).takeWhile passes ++ (first ++ second).dropWhile passes =
      first ++ second := List.takeWhile_append_dropWhile
  rw [behind, List.append_cancel_right_eq] at whole
  exact ⟨whole, behind⟩

end Splitting

section Marks

variable {mark : Char} {before : List Char}

theorem passes_absent (absent : mark ∉ before) : ∀ c ∈ before, (c != mark) = true := by
  intro c member
  simpa using fun same : c = mark => absent (same ▸ member)

/-- The first mark in a text splits it. -/
theorem split_at_mark {text : List Char} (present : mark ∈ text) :
    ∃ before behind, text = before ++ mark :: behind ∧ mark ∉ before := by
  obtain ⟨before, behind, whole, absent⟩ := List.eq_append_cons_of_mem present
  exact ⟨before, behind, whole, absent⟩

theorem drop_to_mark (absent : mark ∉ before) (behind : List Char) :
    (before ++ mark :: behind).dropWhile (· != mark) = mark :: behind := by
  rw [List.dropWhile_append_of_pos (passes_absent absent), drop_while_none]
  simp

end Marks

namespace Text

theorem trim_cons_blank (c : Char) (text : List Char) (blank : isBlank c = true) :
    trim (c :: text) = trim text := by
  rw [trim, trim, trimStart, List.dropWhile_cons_of_pos blank]
  rfl

theorem trim_of_blank (gap : List Char) (blank : ∀ c ∈ gap, isBlank c = true) : trim gap = [] := by
  rw [trim, trimStart, List.dropWhile_eq_nil_iff.mpr blank]
  rfl

theorem trim_end_append_blank (text gap : List Char) (blank : ∀ c ∈ gap, isBlank c = true) :
    trimEnd (text ++ gap) = trimEnd text := by
  have backwards : ∀ c ∈ gap.reverse, isBlank c = true := by
    intro c member
    exact blank c (List.mem_reverse.mp member)
  rw [trimEnd, List.reverse_append, List.dropWhile_append_of_pos backwards]
  rfl

theorem trim_append_blank (text gap : List Char) (blank : ∀ c ∈ gap, isBlank c = true) :
    trim (text ++ gap) = trim text := by
  by_cases all : text.dropWhile isBlank = []
  · have blankText := List.dropWhile_eq_nil_iff.mp all
    rw [trim_of_blank text blankText, trim_of_blank (text ++ gap)]
    exact List.forall_mem_append.mpr ⟨blankText, blank⟩
  · have start : trimStart (text ++ gap) = trimStart text ++ gap := by
      rw [trimStart, List.dropWhile_append, if_neg (by simpa using all)]
      rfl
    rw [trim, start, trim_end_append_blank _ gap blank]
    rfl

/-- A text stays as it is if no blank stands at its ends. -/
theorem trim_of_ends (first last : Char) (inner : List Char) (starts : isBlank first = false)
    (ends : isBlank last = false) : trim (first :: inner ++ [last]) = first :: inner ++ [last] := by
  simp [trim, trimStart, trimEnd, starts, ends]

theorem trim_sublist (text : List Char) : (trim text).Sublist text :=
  (List.rdropWhile_prefix isBlank _).sublist.trans (List.dropWhile_sublist isBlank)

theorem trim_start_trim (text : List Char) : trimStart (trim text) = trim text := by
  have shorter : trim text <+: trimStart text := List.rdropWhile_prefix isBlank _
  have first := List.dropWhile_eq_self_iff.mp (List.dropWhile_idempotent isBlank text)
  rw [trimStart, List.dropWhile_eq_self_iff]
  intro more
  rw [shorter.getElem more]
  exact first (Nat.lt_of_lt_of_le more shorter.length_le)

theorem trim_end_trim (text : List Char) : trimEnd (trim text) = trim text :=
  List.rdropWhile_idempotent isBlank (trimStart text)

/-- A text loses blanks at its ends, and is left with none there. -/
structure Strips (text inner : List Char) : Prop where
  around : ∃ before behind, text = before ++ inner ++ behind ∧
    (∀ c ∈ before, isBlank c = true) ∧ ∀ c ∈ behind, isBlank c = true
  first : ∀ c ∈ inner.head?, isBlank c = false
  last : ∀ c ∈ inner.getLast?, isBlank c = false

theorem drop_while_head {text : List Char} (same : text.dropWhile isBlank = text) :
    ∀ c ∈ text.head?, isBlank c = false := by
  intro c begins
  have marked := List.head?_dropWhile_not isBlank text
  rw [same, begins] at marked
  exact marked

theorem strips_trim (text : List Char) : Strips text (trim text) := by
  constructor
  · refine ⟨text.takeWhile isBlank, (trimStart text).rtakeWhile isBlank, ?_, ?_, ?_⟩
    · have start : text.takeWhile isBlank ++ trimStart text = text :=
        List.takeWhile_append_dropWhile
      have inner : trim text ++ (trimStart text).rtakeWhile isBlank = trimStart text :=
        List.rdropWhile_append_rtakeWhile
      rw [List.append_assoc, inner, start]
    · intro c member
      exact List.mem_takeWhile_imp member
    · intro c member
      exact List.mem_rtakeWhile_imp member
  · exact drop_while_head (trim_start_trim text)
  · intro c ends
    rw [← List.head?_reverse] at ends
    have same := congrArg List.reverse (trim_end_trim text)
    rw [trimEnd, List.reverse_reverse] at same
    exact drop_while_head same c ends

/-- Trimming is the only way to strip a text. -/
theorem strips_iff (text inner : List Char) : Strips text inner ↔ trim text = inner := by
  constructor
  · intro strips
    obtain ⟨before, behind, whole, blankBefore, blankBehind⟩ := strips.around
    have starts : trimStart inner = inner := drop_while_none strips.first
    have ends : trimEnd inner = inner := by
      have backwards : inner.reverse.dropWhile isBlank = inner.reverse := by
        apply drop_while_none
        intro c begins
        exact strips.last c (List.head?_reverse ▸ begins)
      rw [trimEnd, backwards, List.reverse_reverse]
    calc trim text
        = trim (before ++ inner) := by rw [whole, trim_append_blank _ behind blankBehind]
      _ = trim inner := by
        rw [trim, trim, trimStart, List.dropWhile_append_of_pos blankBefore]
        rfl
      _ = inner := by rw [trim, starts, ends]
  · intro same
    rw [← same]
    exact strips_trim text

/-- Nothing is left of a text if it is nothing but blanks. -/
theorem trimmed_eq_empty_iff (text : String) :
    trimmed text = "" ↔ ∀ c ∈ text.toList, isBlank c = true := by
  constructor
  · intro empty
    obtain ⟨before, behind, whole, blankBefore, blankBehind⟩ := (strips_trim text.toList).around
    rw [← toList_trimmed, empty, String.toList_empty, List.append_nil] at whole
    rw [whole]
    exact List.forall_mem_append.mpr ⟨blankBefore, blankBehind⟩
  · intro blank
    rw [trimmed, trim_of_blank _ blank, String.ofList_nil]

end Text

end FlagBoard
