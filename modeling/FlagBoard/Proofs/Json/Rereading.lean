import FlagBoard.Proofs.Json.Documents
import FlagBoard.Proofs.Json.Numerals
import Mathlib

/-!
What is read back from the text of any value. All that may change is its numbers: the last bit of a
floating-point number may differ, and a number close to the greatest one cannot be read at all, nor
can a value with such a number in it.
-/

namespace FlagBoard.Json

/-- Values in which lists and objects are nested to a given depth at most. -/
inductive Nested : Nat → Json → Prop
  | null {depth : Nat} : Nested depth .null
  | bool {depth : Nat} (flag : Bool) : Nested depth (.bool flag)
  | num {depth : Nat} (number : Number) : Nested depth (.num number)
  | str {depth : Nat} (text : String) : Nested depth (.str text)
  | arr {depth : Nat} (items : List Json) (each : ∀ item ∈ items, Nested depth item) :
      Nested (depth + 1) (.arr items)
  | obj {depth : Nat} (members : List (String × Json))
      (each : ∀ member ∈ members, Nested depth member.2) : Nested (depth + 1) (.obj members)

theorem nested_succ {depth : Nat} {value : Json} (nested : Nested depth value) :
    Nested (depth + 1) value := by
  induction nested with
  | null => exact .null
  | bool flag => exact .bool flag
  | num number => exact .num number
  | str text => exact .str text
  | arr items _ induction => exact .arr items induction
  | obj members _ induction => exact .obj members induction

def Number.reread (number : Number) : Option Number :=
  match number.text.toList with
  | '-' :: literal => (readNumber true literal).toOption.map Prod.fst
  | literal => (readNumber false literal).toOption.map Prod.fst

mutual

def reread : Json → Option Json
  | .num number => number.reread.map .num
  | .arr items => (rereadItems items).map .arr
  | .obj members => (rereadMembers members).map .obj
  | .null => some .null
  | .bool flag => some (.bool flag)
  | .str text => some (.str text)

def rereadItems : List Json → Option (List Json)
  | [] => some []
  | item :: items => do
      let first ← item.reread
      let others ← rereadItems items
      some (first :: others)

def rereadMembers : List (String × Json) → Option (List (String × Json))
  | [] => some []
  | (key, value) :: members => do
      let first ← value.reread
      let others ← rereadMembers members
      some ((key, first) :: others)

end

theorem reread_items_iff (items reads : List Json) :
    rereadItems items = some reads ↔
      List.Forall₂ (fun item read => item.reread = some read) items reads := by
  induction items generalizing reads with
  | nil => simp [rereadItems, eq_comm]
  | cons item items induction =>
      simp only [rereadItems, Option.bind_eq_bind, Option.bind_eq_some_iff, induction,
        List.forall₂_cons_left_iff, Option.some.injEq]
      constructor
      · rintro ⟨first, one, others, all, rfl⟩
        exact ⟨first, others, one, all, rfl⟩
      · rintro ⟨first, others, one, all, rfl⟩
        exact ⟨first, one, others, all, rfl⟩

theorem reread_members_iff (members reads : List (String × Json)) :
    rereadMembers members = some reads ↔
      List.Forall₂ (fun member read => member.1 = read.1 ∧ member.2.reread = some read.2) members
        reads := by
  induction members generalizing reads with
  | nil => simp [rereadMembers, eq_comm]
  | cons member members induction =>
      obtain ⟨key, value⟩ := member
      simp only [rereadMembers, Option.bind_eq_bind, Option.bind_eq_some_iff, induction,
        List.forall₂_cons_left_iff, Option.some.injEq]
      constructor
      · rintro ⟨first, one, others, all, rfl⟩
        exact ⟨(key, first), others, ⟨rfl, one⟩, all, rfl⟩
      · rintro ⟨⟨_, first⟩, others, ⟨rfl, one⟩, all, rfl⟩
        exact ⟨first, one, others, all, rfl⟩

section Pairs

variable {First Second : Type} {related other : First → Second → Prop} {firsts : List First}
  {seconds : List Second}

/-- What follows for each pair of a first thing in the list follows for all pairs. -/
theorem forall₂_of_mem (all : List.Forall₂ related firsts seconds)
    (each : ∀ first ∈ firsts, ∀ second, related first second → other first second) :
    List.Forall₂ other firsts seconds := by
  induction all with
  | nil => exact .nil
  | cons one _ induction =>
      rw [List.forall_mem_cons] at each
      exact .cons (each.1 _ one) (induction each.2)

theorem forall_mem_of_forall₂ {property : Second → Prop}
    (all : List.Forall₂ (fun _ second => property second) firsts seconds) :
    ∀ second ∈ seconds, property second := by
  induction all with
  | nil => exact List.forall_mem_nil _
  | cons one _ induction => exact List.forall_mem_cons.mpr ⟨one, induction⟩

end Pairs

theorem distinct_reread {value read : Json} (distinct : value.Distinct)
    (reread : value.reread = some read) : read.Distinct := by
  induction distinct generalizing read with
  | null => cases reread; exact .null
  | bool flag => cases reread; exact .bool flag
  | num number =>
      obtain ⟨_, _, rfl⟩ := Option.map_eq_some_iff.mp reread
      exact .num _
  | str text => cases reread; exact .str text
  | arr items each induction =>
      obtain ⟨reads, all, rfl⟩ := Option.map_eq_some_iff.mp reread
      exact .arr reads (forall_mem_of_forall₂
        (forall₂_of_mem ((reread_items_iff _ _).mp all) fun item member _ => induction item member))
  | obj members keys each induction =>
      obtain ⟨reads, all, rfl⟩ := Option.map_eq_some_iff.mp reread
      have pairs := (reread_members_iff _ _).mp all
      have same : members.map Prod.fst = reads.map Prod.fst := by
        rw [← List.forall₂_eq_eq_eq, List.forall₂_map_left_iff, List.forall₂_map_right_iff]
        exact pairs.imp fun _ _ pair => pair.1
      rw [same] at keys
      exact .obj reads keys (forall_mem_of_forall₂
        (forall₂_of_mem pairs fun member given _ pair => induction member given pair.2))

section Numbers

variable {rest : List Char}

theorem reread_negative {number : Number} {literal : List Char}
    (text : number.text.toList = '-' :: literal) :
    number.reread = (readNumber true literal).toOption.map Prod.fst := by
  rw [Number.reread, text]
  rfl

theorem reread_plain {number : Number} {c : Char} {more : List Char} (digit : isDigit c = true)
    (text : number.text.toList = c :: more) :
    number.reread = (readNumber false (c :: more)).toOption.map Prod.fst := by
  rw [Number.reread, text]
  split
  case h_1 literal begins =>
      rw [(List.cons.inj begins).1] at digit
      cases digit
  case h_2 other => rfl

/-- From the text of a number the number that is read back is read, whatever stands behind it. -/
theorem read_number_text (depth : Nat) (number : Number) (ends : continuesNumber rest = false) :
    (readValue depth (number.text.toList ++ rest)).toOption =
      number.reread.map fun read => (.num read, rest) := by
  obtain ⟨literal, unsigned, text | text⟩ := number_text_unsigned number
  · obtain ⟨c, more, rfl, digit⟩ := unsigned_begins unsigned
    have read := read_literal unsigned false ends
    rw [List.cons_append] at read
    rw [text, List.cons_append, read_value_digit depth digit, bind_toOption, read,
      reread_plain digit text]
    cases (readNumber false (c :: more)).toOption <;> rfl
  · have read := read_literal unsigned true ends
    rw [text, reread_negative text, List.cons_append, readValue]
    change (readNumber true _ >>= _).toOption = _
    rw [bind_toOption, read]
    cases (readNumber true literal).toOption <;> rfl

theorem flat_number_text {number read : Number} (reread : number.reread = some read)
    (rest : List Char) : Flat (.num read) (number.text.toList ++ rest) rest := by
  have alone {literal : List Char} (unsigned : Unsigned literal []) (negative : Bool)
      (first : (readNumber negative literal).toOption.map Prod.fst = some read) :
      readNumber negative literal = .ok (read, []) := by
    have ends := read_literal unsigned negative (rfl : continuesNumber [] = false)
    obtain ⟨⟨_, behind⟩, result, rfl⟩ := Option.map_eq_some_iff.mp first
    rw [List.append_nil, result] at ends
    rw [ok_of_toOption _ _ result, (Prod.mk.inj (Option.some.inj ends)).2]
  obtain ⟨literal, unsigned, text | text⟩ := number_text_unsigned number
  · rw [text]
    obtain ⟨c, more, rfl, digit⟩ := unsigned_begins unsigned
    rw [reread_plain digit text] at reread
    exact .number rest (alone unsigned false reread)
  · rw [reread_negative text] at reread
    rw [text]
    exact .negative rest (alone unsigned true reread)

end Numbers

section Printed

/-- A value as it is written. -/
def Printed (value : Json) : Rule := fun text rest => text = value.print ++ rest

theorem print_begins (value : Json) :
    ∃ c more, value.print = c :: more ∧ isBetween c = false := by
  cases value with
  | null => exact ⟨'n', _, rfl, rfl⟩
  | bool flag => cases flag <;> exact ⟨_, _, rfl, rfl⟩
  | num number =>
      obtain ⟨literal, unsigned, text | text⟩ := number_text_unsigned number
      · obtain ⟨c, more, begins, digit⟩ := unsigned_begins unsigned
        exact ⟨c, more, text.trans begins, digit_not_between c digit⟩
      · exact ⟨'-', literal, text, rfl⟩
  | str text => exact ⟨'"', _, rfl, rfl⟩
  | arr items => exact ⟨'[', _, rfl, rfl⟩
  | obj members => exact ⟨'\x7b', _, rfl, rfl⟩

theorem printed_stands : Stands Printed where
  begins := by
    rintro value _ rest rfl
    obtain ⟨c, more, begins, apart⟩ := print_begins value
    exact ⟨c, more ++ rest, by rw [begins, List.cons_append], apart⟩
  shorter := by
    rintro value _ rest rfl
    obtain ⟨c, more, begins, _⟩ := print_begins value
    rw [begins, List.length_append, List.length_cons]
    omega

theorem reread_items_arranged (items : List Json) :
    items.mapM (fun item => item.reread.map arranged) =
      (rereadItems items).map fun reads => reads.map arranged := by
  induction items with
  | nil => rfl
  | cons item items induction =>
      rw [List.mapM_cons, induction, rereadItems]
      cases item.reread with
      | none => rfl
      | some read => cases rereadItems items <;> rfl

theorem fold_reread (taken members : List (String × Json)) :
    members.foldlM (fun taken member =>
        (member.2.reread.map arranged).map fun value => putMember member.1 value taken) taken =
      (rereadMembers members).map (arrangedMembers taken) := by
  induction members generalizing taken with
  | nil => rfl
  | cons member members induction =>
      obtain ⟨key, value⟩ := member
      rw [List.foldlM_cons, rereadMembers]
      cases value.reread with
      | none => rfl
      | some read =>
          change List.foldlM _ (putMember key read.arranged taken) members = _
          rw [induction]
          cases rereadMembers members <;> rfl

/-- From the text of a value the value that is read back is read, and none if none is read back. -/
theorem read_printed {depth : Nat} {value : Json} (nested : Nested depth value) {rest : List Char}
    (ends : continuesNumber rest = false) :
    (readValue depth (value.print ++ rest)).toOption =
      value.reread.map fun read => (read.arranged, rest) := by
  induction nested generalizing rest with
  | null => rw [readValue]; rfl
  | bool flag => cases flag <;> rw [readValue] <;> rfl
  | num number =>
      rw [print, read_number_text _ number ends, Json.reread]
      cases number.reread <;> rfl
  | @str depth text =>
      have read := read_flat depth (.quoted (quoted_print text rest)) ends
      exact congrArg Except.toOption read
  | @arr depth items each induction =>
      have enclosed : Enclosed ']' Printed items (printItems items ++ rest) rest :=
        enclosed_print_items (List.forall₂_same.mpr fun _ _ _ => rfl) rest
      have reads : ∀ item ∈ items, ∀ text behind, Printed item text behind →
          continuesNumber behind = false →
          (readValue depth text).toOption =
            (item.reread.map arranged).map fun value => (value, behind) := by
        rintro item member _ behind rfl ends
        rw [induction item member ends, Option.map_map]
        rfl
      have listed := read_list_along printed_stands enclosed reads
      rw [reread_items_arranged] at listed
      rw [print, List.cons_append, read_value_list, listed, Json.reread]
      cases rereadItems items with
      | none => rfl
      | some reads => simp [arranged, arranged_items]
  | @obj depth members each induction =>
      have enclosed : Enclosed '\x7d' (fun member => Keyed member.1 (Printed member.2)) members
          (printMembers members ++ rest) rest :=
        enclosed_print_members
          (List.forall₂_same.mpr fun member _ _ => keyed_print member.1 rfl) rest
      have follows (member : String × Json) (given : member ∈ members) :
          Follows (fun member : String × Json => Keyed member.1 (Printed member.2))
            (readMember depth) (fun taken member =>
              (member.2.reread.map arranged).map fun value => putMember member.1 value taken)
            member := by
        apply keyed_follows Prod.fst (fun member => Printed member.2)
          fun member => member.2.reread.map arranged
        rintro _ behind rfl ends
        rw [induction member given ends, Option.map_map]
        rfl
      have gathered := read_object_along (members_stand printed_stands) enclosed follows []
      rw [fold_reread] at gathered
      rw [print, List.cons_append, read_value_object, gathered, Json.reread]
      cases rereadMembers members with
      | none => rfl
      | some reads => simp [arranged]

/-- What is written for a value is one of the texts of the value that is read back. -/
theorem spelling_reread {depth : Nat} {value read : Json} (nested : Nested depth value)
    (reread : value.reread = some read) (rest : List Char) :
    Spelling depth read (value.print ++ rest) rest := by
  induction nested generalizing read rest with
  | null => cases reread; exact spelling_flat _ (.null rest)
  | bool flag => cases reread; cases flag <;> exact spelling_flat _ (by constructor)
  | num number =>
      obtain ⟨other, first, rfl⟩ := Option.map_eq_some_iff.mp reread
      exact spelling_flat _ (flat_number_text first rest)
  | str text => cases reread; exact spelling_flat _ (.quoted (quoted_print text rest))
  | arr items each induction =>
      obtain ⟨reads, all, rfl⟩ := Option.map_eq_some_iff.mp reread
      have spelled := forall₂_of_mem ((reread_items_iff _ _).mp all)
        fun item member _ pair => induction item member pair
      exact .inr (.list (enclosed_print_items spelled rest))
  | @obj depth members each induction =>
      obtain ⟨reads, all, rfl⟩ := Option.map_eq_some_iff.mp reread
      have spelled : List.Forall₂ (fun member read : String × Json => ∀ rest,
          Keyed read.1 (Spelling depth read.2)
            (printString member.1 ++ ':' :: (member.2.print ++ rest)) rest) members reads := by
        refine forall₂_of_mem ((reread_members_iff _ _).mp all) fun member given read pair => ?_
        obtain ⟨same, value⟩ := pair
        rw [← same]
        exact fun rest => keyed_print member.1 (induction member given value rest)
      exact .inr (.object (.refl _) (enclosed_print_members spelled rest))

end Printed

end FlagBoard.Json
