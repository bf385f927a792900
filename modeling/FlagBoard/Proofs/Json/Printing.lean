import FlagBoard.Proofs.Json.Digits
import FlagBoard.Proofs.Json.Escape

/-!
Values as they are written: entry by entry, without a space between them, and on one line.
-/

namespace FlagBoard.Json

/-- Values whose texts can be read: naturals have 64 bits, and lists and objects are nested to a
given depth at most. -/
inductive Readable : Nat → Json → Prop
  | null {depth : Nat} : Readable depth .null
  | bool {depth : Nat} (flag : Bool) : Readable depth (.bool flag)
  | natural {depth : Nat} (number : Nat) (fits : number < 2 ^ 64) :
      Readable depth (.num (.natural number))
  | str {depth : Nat} (text : String) : Readable depth (.str text)
  | arr {depth : Nat} (items : List Json) (each : ∀ item ∈ items, Readable depth item) :
      Readable (depth + 1) (.arr items)
  | obj {depth : Nat} (members : List (String × Json))
      (each : ∀ member ∈ members, Readable depth member.2) : Readable (depth + 1) (.obj members)

/-- The items of a list that come behind an item, and the closing bracket. -/
def followItems : List Json → List Char
  | [] => [']']
  | items => ',' :: printItems items

/-- The members of an object that come behind a member, and the closing brace. -/
def followMembers : List (String × Json) → List Char
  | [] => ['\x7d']
  | members => ',' :: printMembers members

theorem print_items_cons (item : Json) (items : List Json) :
    printItems (item :: items) = item.print ++ followItems items := by
  cases items <;> simp [printItems, followItems]

theorem print_members_cons (key : String) (value : Json) (members : List (String × Json)) :
    printMembers ((key, value) :: members) =
      printString key ++ ':' :: (value.print ++ followMembers members) := by
  cases members <;> simp [printMembers, followMembers]

theorem follow_items_cons (item : Json) (items : List Json) :
    followItems (item :: items) = ',' :: (item.print ++ followItems items) := by
  rw [← print_items_cons]
  rfl

theorem follow_members_cons (key : String) (value : Json) (members : List (String × Json)) :
    followMembers ((key, value) :: members) =
      ',' :: (printString key ++ ':' :: (value.print ++ followMembers members)) := by
  rw [← print_members_cons]
  rfl

theorem natural_text (number : Nat) :
    (Number.natural number).text.toList = Nat.toDigits 10 number := by
  simp [Number.text]

theorem follow_items_visible (items : List Json) (each : ∀ item ∈ items, Visible item.print) :
    Visible (followItems items) := by
  induction items with
  | nil => decide
  | cons item items induction =>
      rw [List.forall_mem_cons] at each
      rw [follow_items_cons, visible_cons, visible_append]
      exact ⟨by decide, each.1, induction each.2⟩

theorem follow_members_visible (members : List (String × Json))
    (each : ∀ member ∈ members, Visible member.2.print) : Visible (followMembers members) := by
  induction members with
  | nil => decide
  | cons member members induction =>
      rw [List.forall_mem_cons] at each
      rw [follow_members_cons, visible_cons, visible_append, visible_cons, visible_append]
      exact ⟨by decide, print_string_visible _, by decide, each.1, induction each.2⟩

/-- The text of a value stands on one line. -/
theorem print_visible (depth : Nat) (value : Json) (readable : Readable depth value) :
    Visible value.print := by
  induction readable with
  | null => rw [print]; decide
  | bool flag => cases flag <;> decide
  | natural number fits =>
      rw [print, natural_text]
      intro c member
      have bounds := digit_bounds c (digit_of_mem_toDigits number c member)
      omega
  | str text =>
      rw [print]
      exact print_string_visible text
  | arr items each induction =>
      rw [print, visible_cons]
      refine ⟨by decide, ?_⟩
      cases items with
      | nil => decide
      | cons item items =>
          rw [List.forall_mem_cons] at induction
          rw [print_items_cons, visible_append]
          exact ⟨induction.1, follow_items_visible items induction.2⟩
  | obj members each induction =>
      rw [print, visible_cons]
      refine ⟨by decide, ?_⟩
      cases members with
      | nil => decide
      | cons member members =>
          rw [List.forall_mem_cons] at induction
          rw [print_members_cons, visible_append, visible_cons, visible_append]
          exact ⟨print_string_visible _, by decide, induction.1,
            follow_members_visible members induction.2⟩

end FlagBoard.Json
