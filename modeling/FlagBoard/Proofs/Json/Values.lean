import FlagBoard.Proofs.Json.Literals
import FlagBoard.Proofs.Json.Record
import Mathlib

/-!
What is read as a value, of whatever kind it is, is a value of the grammar.
-/

namespace FlagBoard.Json

variable {text rest : List Char}

section Items

variable {Value : Type} {item : Reader Value} {value : Content → Rule}

def ReadsItems (value : Content → Rule) (item : Reader Value) : Prop :=
  ∀ text result rest, item text = .ok (result, rest) →
    ∃ content start, Spaces text start ∧ value content start rest

theorem items_of_read (stands : Stands value) (reads : ReadsItems value item) (first : Bool)
    (steps : Nat) (enough : text.length ≤ steps) (results : List Value) (behind : List Char)
    (read : readItems item steps first text = .ok (results, behind))
    (closed : closeList behind = .ok ((), rest)) :
    ∃ contents, Entries ']' value first contents text rest := by
  induction steps generalizing first text results with
  | zero =>
      -- Nothing is left of the text, so the list is never closed.
      cases read
      rw [List.eq_nil_of_length_eq_zero (Nat.le_zero.mp enough)] at closed
      cases closed
  | succ steps induction =>
      rw [readItems, bind_eq_ok_iff] at read
      obtain ⟨next, found, read⟩ := read
      rcases next_item_cases first text next found with
        ⟨after, bracket, rfl⟩ | ⟨start, rfl, before⟩
      · cases read
        rw [close_list_iff, bracket] at closed
        cases closed
        exact ⟨[], entries_close first (spaces_of_skip bracket)⟩
      · simp only [bind_eq_ok_iff] at read
        obtain ⟨⟨result, others⟩, one, ⟨results, afterItems⟩, read, same⟩ := read
        cases same
        obtain ⟨content, valueStart, spaces, standing⟩ := reads start result others one
        have startShorter := before_length before
        have spacesShorter := spaces_length spaces
        have behindShorter := stands.shorter _ _ _ standing
        have fewer : others.length ≤ steps := by omega
        obtain ⟨contents, more⟩ := induction false fewer results read
        exact ⟨content :: contents, entries_entry (before_trans before spaces) standing more⟩

theorem list_of_read (stands : Stands value) (reads : ReadsItems value item)
    (results : List Value) (read : readList item text = .ok (results, rest)) :
    ∃ contents, Enclosed ']' value contents text rest := by
  simp only [readList, bind_eq_ok_iff] at read
  obtain ⟨⟨gathered, behind⟩, read, ⟨_, after⟩, closed, same⟩ := read
  cases same
  exact items_of_read stands reads true _ (Nat.le_refl _) gathered behind read closed

end Items

theorem read_member_reads_by {depth : Nat} {value : Content → Rule}
    (reads : ReadsItems value (readValue depth)) :
    ReadsBy value (fun _ _ _ => True) (readMember depth) := by
  intro key taken text grown rest read
  simp only [readMember, bind_eq_ok_iff] at read
  obtain ⟨⟨_, colon⟩, separated, ⟨result, behind⟩, read, same⟩ := read
  cases same
  obtain ⟨content, start, spaces, standing⟩ := reads colon result behind read
  exact ⟨content, colon, start, spaces_of_skip ((read_colon_iff _ _).mp separated), spaces,
    standing, trivial⟩

theorem read_value_cases (depth : Nat) (result : Json)
    (read : readValue depth text = .ok (result, rest)) :
    (∃ content, Scalar content (skipSpace text) rest) ∨
      ∃ deeper more, depth = deeper + 1 ∧
        (skipSpace text = '[' :: more ∧
            (∃ items, readList (readValue deeper) more = .ok (items, rest)) ∨
          skipSpace text = '\x7b' :: more ∧
            ∃ members, readObject (readMember deeper) [] more = .ok (members, rest)) := by
  unfold readValue at read
  cases begins : skipSpace text with
  | nil => rw [begins] at read; cases read
  | cons c more =>
      rw [begins] at read
      dsimp only at read
      split_ifs at read with null true false minus digit quote bracket brace
      · obtain ⟨⟨_, behind⟩, word, same⟩ := (bind_eq_ok_iff _ _ _).mp read
        cases same
        rw [read_word_iff] at word
        subst null word
        exact .inl ⟨_, .null _⟩
      · obtain ⟨⟨_, behind⟩, word, same⟩ := (bind_eq_ok_iff _ _ _).mp read
        cases same
        rw [read_word_iff] at word
        subst true word
        exact .inl ⟨_, .true _⟩
      · obtain ⟨⟨_, behind⟩, word, same⟩ := (bind_eq_ok_iff _ _ _).mp read
        cases same
        rw [read_word_iff] at word
        subst false word
        exact .inl ⟨_, .false _⟩
      · obtain ⟨⟨number, behind⟩, number, same⟩ := (bind_eq_ok_iff _ _ _).mp read
        cases same
        subst minus
        exact .inl ⟨_, .negative (unsigned_of_read number)⟩
      · obtain ⟨⟨number, behind⟩, number, same⟩ := (bind_eq_ok_iff _ _ _).mp read
        cases same
        exact .inl ⟨_, .number (unsigned_of_read number)⟩
      · obtain ⟨⟨string, behind⟩, quoted, same⟩ := (bind_eq_ok_iff _ _ _).mp read
        cases same
        subst quote
        exact .inl ⟨_, .quoted (quoted_of_read string quoted)⟩
      · subst bracket
        cases depth with
        | zero => cases read
        | succ depth =>
            obtain ⟨⟨items, behind⟩, listed, same⟩ := (bind_eq_ok_iff _ _ _).mp read
            cases same
            exact .inr ⟨depth, more, rfl, .inl ⟨rfl, items, listed⟩⟩
      · subst brace
        cases depth with
        | zero => cases read
        | succ depth =>
            obtain ⟨⟨members, behind⟩, gathered, same⟩ := (bind_eq_ok_iff _ _ _).mp read
            cases same
            exact .inr ⟨depth, more, rfl, .inr ⟨rfl, members, gathered⟩⟩

theorem read_value_nested (depth : Nat) :
    ReadsItems (NestedValue depth) (readValue depth) := by
  induction depth with
  | zero =>
      intro text result rest read
      rcases read_value_cases 0 result read with ⟨content, scalar⟩ | ⟨_, _, deep, _⟩
      · exact ⟨content, _, spaces_skip text, scalar⟩
      · cases deep
  | succ depth induction =>
      intro text result rest read
      rcases read_value_cases (depth + 1) result read with
        ⟨content, scalar⟩ | ⟨deeper, more, deep, ⟨begins, items, read⟩ | ⟨begins, members, read⟩⟩
      · exact ⟨content, _, spaces_skip text, scalar_nested _ scalar⟩
      · cases deep
        obtain ⟨contents, enclosed⟩ :=
          list_of_read (nested_value_stands depth) induction items read
        exact ⟨.other, _, spaces_of_skip begins, .inr ⟨rfl, .list enclosed⟩⟩
      · cases deep
        obtain ⟨contents, enclosed, _⟩ := object_of_read (nested_value_stands depth)
          (read_member_reads_by induction) [] members read
        exact ⟨.other, _, spaces_of_skip begins, .inr ⟨rfl, .object enclosed⟩⟩

/-- What is read as a value is a value of the grammar. -/
theorem any_sound : Schema.any.Sound fun _ => True := by
  intro depth text result rest read
  rw [Schema.read] at read
  obtain ⟨content, start, spaces, standing⟩ := read_value_nested depth text result rest read
  exact ⟨content, start, trivial, spaces, depth, standing⟩

end FlagBoard.Json
