import FlagBoard.Proofs.Json.Members
import Mathlib

/-!
Records in a JSON text. What is read as a record is an object of the grammar, or a list of no more
items than there are fields; a field of optional text takes null and the strings that spell a text.
-/

namespace FlagBoard.Json

section Contents

variable {content : Content} {text start rest : List Char}

theorem scalar_of_value (standing : IsValue content text rest) (scalar : content ≠ .other) :
    Scalar content text rest := by
  obtain ⟨depth, standing⟩ := standing
  cases depth with
  | zero => exact standing
  | succ depth =>
      rcases standing with standing | ⟨other, _⟩
      · exact standing
      · exact absurd other scalar

theorem quoted_of_value {meaning : Option String} (standing : IsValue (.quoted meaning) text rest) :
    Quoted meaning text rest := by
  cases scalar_of_value standing (by simp) with
  | quoted quoted => exact quoted

theorem value_of_quoted {meaning : Option String} (quoted : Quoted meaning text rest) :
    IsValue (.quoted meaning) text rest := ⟨0, .quoted quoted⟩

theorem null_of_value (standing : IsValue .null text rest) :
    text = 'n' :: 'u' :: 'l' :: 'l' :: rest := by
  cases scalar_of_value standing (by simp)
  rfl

/-- What is neither null nor a string does not begin as they do. -/
theorem other_begins (standing : IsValue .other text rest) :
    ∃ c more, text = c :: more ∧ isSpace c = false ∧ c ≠ 'n' ∧ c ≠ '"' := by
  obtain ⟨depth, standing⟩ := standing
  have flat (scalar : Scalar .other text rest) :
      ∃ c more, text = c :: more ∧ isSpace c = false ∧ c ≠ 'n' ∧ c ≠ '"' := by
    cases scalar with
    | true rest => exact ⟨'t', _, rfl, by decide⟩
    | false rest => exact ⟨'f', _, rfl, by decide⟩
    | negative number => exact ⟨'-', _, rfl, by decide⟩
    | number number =>
        obtain ⟨c, more, begins, digit⟩ := unsigned_begins number
        refine ⟨c, more, begins, visible_of_not_between (digit_not_between c digit), ?_, ?_⟩
        · rintro rfl
          cases digit
        · rintro rfl
          cases digit
  cases depth with
  | zero => exact flat standing
  | succ depth =>
      rcases standing with scalar | ⟨_, nest⟩
      · exact flat scalar
      · cases nest with
        | list items => exact ⟨'[', _, rfl, by decide⟩
        | object members => exact ⟨'\x7b', _, rfl, by decide⟩

def optionalText : Content → Option (Option String)
  | .null => some none
  | .quoted (some string) => some (some string)
  | .quoted none => none
  | .other => none

theorem read_text_quote (depth : Nat) (key : List Char) :
    Schema.text.read depth ('"' :: key) = readString key := by
  rw [Schema.read]
  rfl

theorem read_optional_other (inner : Schema) (depth : Nat) (c : Char) (more : List Char)
    (spaces : Spaces text (c :: more)) (visible : isSpace c = false) (notNull : c ≠ 'n') :
    (Schema.optional inner).read depth text = (do
      let (value, rest) ← inner.read depth (c :: more)
      .ok (some value, rest)) := by
  rw [Schema.read, skip_spaces_cons spaces visible]
  split
  case h_1 rest begins => exact absurd (List.cons.inj begins).1 notNull
  case h_2 other => rfl

theorem read_optional_text (depth : Nat) (spaces : Spaces text start)
    (standing : IsValue content start rest) :
    ((Schema.optional .text).read depth text).toOption =
      (optionalText content).map fun value => (value, rest) := by
  match content with
  | .null =>
      have word : readWord ['u', 'l', 'l'] ('u' :: 'l' :: 'l' :: rest) = .ok ((), rest) :=
        (read_word_iff _ _ _).mpr rfl
      rw [null_of_value standing] at spaces
      rw [Schema.read, skip_spaces_cons spaces rfl]
      simp only [word]
      rfl
  | .quoted meaning =>
      have quoted := quoted_of_value standing
      have quote : ∃ key, start = '"' :: key := by
        obtain ⟨key, _, begins, _⟩ := quoted
        exact ⟨key, begins⟩
      obtain ⟨key, rfl⟩ := quote
      rw [read_optional_other _ _ _ _ spaces rfl (by decide), bind_toOption, read_text_quote,
        read_quoted quoted]
      cases meaning <;> rfl
  | .other =>
      obtain ⟨c, more, rfl, visible, notNull, notQuote⟩ := other_begins standing
      rw [read_optional_other _ _ _ _ spaces visible notNull, bind_toOption, Schema.read]
      have begins : skipSpace (c :: more) = c :: more := skip_spaces_cons (spaces_refl _) visible
      rw [begins]
      split
      case h_1 rest same => exact absurd (List.cons.inj same).1 notQuote
      case h_2 other => rfl

end Contents

section Sound

variable {allowed : Content → Prop} {text rest : List Char}

/-- Whatever is read as a schema is a value of the grammar with an allowed content. -/
def Schema.Sound (schema : Schema) (allowed : Content → Prop) : Prop :=
  ∀ depth text value rest, schema.read depth text = .ok (value, rest) →
    ∃ content start, allowed content ∧ Spaces text start ∧ IsValue content start rest

def Fields.EachSound (allowed : Content → Prop) : Fields → Prop
  | .nil => True
  | .field _ _ _ schema rest => schema.Sound allowed ∧ rest.EachSound allowed

theorem read_text_iff (depth : Nat) (text : List Char) (value : String) (rest : List Char) :
    Schema.text.read depth text = .ok (value, rest) ↔
      ∃ key, skipSpace text = '"' :: key ∧ readString key = .ok (value, rest) := by
  rw [Schema.read]
  split
  case h_1 key begins => simp [begins]
  case h_2 other plain =>
      constructor
      · intro read
        cases read
      · rintro ⟨key, begins, _⟩
        exact absurd begins (plain key)

theorem optional_text_sound :
    (Schema.optional .text).Sound fun content => (optionalText content).isSome := by
  intro depth text value rest read
  have spaces := spaces_skip text
  rw [Schema.read] at read
  split at read
  case h_1 more begins =>
      simp only [bind_eq_ok_iff] at read
      obtain ⟨⟨_, behind⟩, word, same⟩ := read
      cases same
      rw [begins, (read_word_iff _ _ _).mp word] at spaces
      exact ⟨.null, _, rfl, spaces, 0, .null behind⟩
  case h_2 other plain =>
      simp only [bind_eq_ok_iff] at read
      obtain ⟨⟨string, behind⟩, read, same⟩ := read
      cases same
      obtain ⟨key, begins, read⟩ := (read_text_iff _ _ _ _).mp read
      have quoted := quoted_of_read string read
      exact ⟨.quoted (some string), '"' :: key, rfl,
        spaces_trans spaces (spaces_of_skip begins), value_of_quoted quoted⟩

theorem read_member_reads : (fields : Fields) → fields.EachSound allowed → (depth : Nat) →
    Reads fun key draft => fields.readMember depth key draft
  | .nil, _, _ => by
      rintro key ⟨⟩ text grown rest read
      simp only [Fields.readMember, bind_eq_ok_iff] at read
      obtain ⟨⟨_, colon⟩, separated, behind, passed, same⟩ := read
      cases same
      obtain ⟨content, start, spaces, standing⟩ := skip_value_sound colon rest passed
      exact ⟨content, colon, start, spaces_of_skip ((read_colon_iff _ _).mp separated), spaces,
        standing⟩
  | .field name aliases required schema others, ⟨sound, sounds⟩, depth => by
      rintro key ⟨seen, draft⟩ text grown rest read
      simp only [Fields.readMember] at read
      split_ifs at read with mine
      · cases seen with
        | some value => cases read
        | none =>
            simp only [bind_eq_ok_iff] at read
            obtain ⟨⟨_, colon⟩, separated, ⟨value, behind⟩, read, same⟩ := read
            cases same
            obtain ⟨content, start, _, spaces, standing⟩ := sound depth colon value behind read
            exact ⟨content, colon, start, spaces_of_skip ((read_colon_iff _ _).mp separated),
              spaces, standing⟩
      · simp only [bind_eq_ok_iff] at read
        obtain ⟨⟨next, behind⟩, read, same⟩ := read
        cases same
        exact read_member_reads others sounds depth key draft text next behind read

theorem close_list_iff (text rest : List Char) :
    closeList text = .ok ((), rest) ↔ skipSpace text = ']' :: rest := by
  rw [closeList]
  cases skipSpace text with
  | nil => simp
  | cons c more =>
      by_cases close : c = ']'
      · simp [close]
      · by_cases comma : c = ','
        · subst comma
          dsimp only
          rw [if_neg close, if_pos rfl]
          split <;> simp
        · simp [close, comma]

theorem next_item_none (first : Bool) (bracket : skipSpace text = ']' :: rest) :
    nextItem first text = .ok none := by
  rw [nextItem, bracket]
  rfl

theorem next_item_cases (first : Bool) (text : List Char) (next : Option (List Char))
    (found : nextItem first text = .ok next) :
    (∃ rest, skipSpace text = ']' :: rest ∧ next = none) ∨
      ∃ start, next = some start ∧ Before first text start := by
  rw [nextItem] at found
  cases begins : skipSpace text with
  | nil => rw [begins] at found; cases found
  | cons c more =>
      rw [begins] at found
      by_cases close : c = ']'
      · subst close
        cases found
        exact .inl ⟨more, rfl, rfl⟩
      · right
        cases first with
        | true =>
            simp only [close, if_false, if_true] at found
            cases found
            exact ⟨c :: more, rfl, spaces_of_skip begins⟩
        | false =>
            by_cases comma : c = ','
            · subst comma
              cases behind : skipSpace more with
              | nil => simp [behind] at found
              | cons d others =>
                  by_cases bracket : d = ']'
                  · simp [behind, bracket] at found
                  · simp only [behind, bracket, if_false, if_true, close, Bool.false_eq_true,
                      Except.ok.injEq] at found
                    exact ⟨d :: others, found.symm, more, spaces_of_skip begins,
                      spaces_of_skip behind⟩
            · simp [close, comma] at found

/-- At the end of a list all fields that are left are absent. -/
theorem read_places_end : (fields : Fields) → (title : String) → (total place depth : Nat) →
    (text : List Char) → (closed : ∃ rest, skipSpace text = ']' :: rest) →
    (values : fields.Value) → (behind : List Char) →
    fields.readPlaces title total place depth text = .ok (values, behind) → behind = text
  | .nil, _, _, _, _, _, _, _, _, read => by
      rw [Fields.readPlaces] at read
      cases read
      rfl
  | .field name aliases required schema others, title, total, place, depth, text, closed, values,
      behind, read => by
      obtain ⟨rest, begins⟩ := closed
      rw [Fields.readPlaces, next_item_none (place == 0) begins] at read
      simp only [ok_bind] at read
      split_ifs at read
      simp only [bind_eq_ok_iff] at read
      obtain ⟨⟨others', behind'⟩, read, same⟩ := read
      cases same
      exact read_places_end others title total (place + 1) depth text ⟨rest, begins⟩ _ _ read

/-- Items are read by place up to the end of the list, and are values with allowed contents. -/
theorem read_places_sound : (fields : Fields) → fields.EachSound allowed → (title : String) →
    (total place depth : Nat) → (text : List Char) → (values : fields.Value) →
    (behind : List Char) → fields.readPlaces title total place depth text = .ok (values, behind) →
    closeList behind = .ok ((), rest) →
    ∃ contents, contents.length ≤ fields.count ∧ (∀ content ∈ contents, allowed content) ∧
      Entries ']' IsValue (place == 0) contents text rest
  | .nil, _, _, _, place, _, text, _, _, read, closed => by
      rw [Fields.readPlaces] at read
      cases read
      have spaces : Spaces text (']' :: rest) := spaces_of_skip ((close_list_iff _ _).mp closed)
      exact ⟨[], Nat.le_refl _, by simp, entries_close _ spaces⟩
  | .field name aliases required schema others, ⟨sound, sounds⟩, title, total, place, depth, text,
      values, behind, read, closed => by
      have whole := read
      rw [Fields.readPlaces, bind_eq_ok_iff] at read
      obtain ⟨next, found, read⟩ := read
      rcases next_item_cases _ _ _ found with ⟨after, begins, rfl⟩ | ⟨start, rfl, before⟩
      · rw [read_places_end _ title total place depth text ⟨after, begins⟩ values behind whole,
          close_list_iff] at closed
        exact ⟨[], Nat.zero_le _, by simp, entries_close _ (spaces_of_skip closed)⟩
      · simp only [bind_eq_ok_iff] at read
        obtain ⟨⟨value, afterValue⟩, first, ⟨values, afterFields⟩, read, same⟩ := read
        cases same
        obtain ⟨content, valueStart, fits, spaces, standing⟩ :=
          sound depth start value afterValue first
        obtain ⟨contents, few, all, more⟩ := read_places_sound others sounds title total (place + 1)
          depth afterValue values afterFields read closed
        refine ⟨content :: contents, Nat.succ_le_succ few, ?_, ?_⟩
        · intro entry member
          rcases List.mem_cons.mp member with rfl | member
          · exact fits
          · exact all entry member
        · exact entries_entry (before_trans before spaces) standing more

theorem read_record_object (title : String) (fields : Fields) (depth : Nat) (start : List Char)
    (spaces : Spaces text ('\x7b' :: start)) :
    (Schema.record title fields).read (depth + 1) text = (do
      let (draft, rest) ←
        readObject (fun key draft => fields.readMember depth key draft) fields.empty start
      match fields.finish draft with
      | .ok values => .ok (values, rest)
      | .error name => .error (.shape (.missingField name) rest)) := by
  rw [Schema.read, skip_spaces_cons spaces rfl]
  rfl

/-- A whole text is read if only spaces follow the value. -/
theorem read_text_toOption (schema : Schema) (text : String) :
    (schema.readText text).toOption = (schema.read depthLimit text.toList).toOption.bind
      fun read => if skipSpace read.2 = [] then some read.1 else none := by
  rw [Schema.readText]
  cases schema.read depthLimit text.toList with
  | error fault => rfl
  | ok read =>
      obtain ⟨value, rest⟩ := read
      simp only [ok_bind]
      cases behind : skipSpace rest with
      | nil => simp [behind, Except.mapError, Except.toOption]
      | cons c more => simp [behind, Except.mapError, Except.toOption]

theorem read_text_eq_ok_iff (schema : Schema) (text : String) (value : schema.Value) :
    schema.readText text = .ok value ↔
      ∃ rest, schema.read depthLimit text.toList = .ok (value, rest) ∧ Spaces rest [] := by
  have whole := read_text_toOption schema text
  constructor
  · intro read
    rw [read] at whole
    cases found : schema.read depthLimit text.toList with
    | error fault => rw [found] at whole; cases whole
    | ok result =>
        obtain ⟨other, rest⟩ := result
        rw [found] at whole
        by_cases nothing : skipSpace rest = []
        · simp only [Except.toOption, Option.bind_some, if_pos nothing] at whole
          cases whole
          exact ⟨rest, rfl, spaces_of_skip nothing⟩
        · simp [Except.toOption, nothing] at whole
  · intro read
    obtain ⟨rest, found, ends⟩ := read
    apply ok_of_toOption
    rw [whole, found]
    simp [Except.toOption, skip_nil_of_spaces ends]

/-- What is read as a record stands there as an object, or as a list of fields. -/
theorem read_record_sound (title : String) (fields : Fields) (sounds : fields.EachSound allowed)
    (depth : Nat) (text : List Char) (values : fields.Value) (rest : List Char)
    (read : (Schema.record title fields).read depth text = .ok (values, rest)) :
    (∃ start members, Spaces text ('\x7b' :: start) ∧
      Enclosed '\x7d' (Member IsValue) members start rest) ∨
    ∃ start contents, Spaces text ('[' :: start) ∧ contents.length ≤ fields.count ∧
      (∀ content ∈ contents, allowed content) ∧ Enclosed ']' IsValue contents start rest := by
  have spaces := spaces_skip text
  rw [Schema.read] at read
  split at read
  case h_1 start begins =>
      right
      rw [begins] at spaces
      cases depth with
      | zero => cases read
      | succ depth =>
          simp only [bind_eq_ok_iff] at read
          obtain ⟨⟨values, behind⟩, read, ⟨_, after⟩, closed, same⟩ := read
          cases same
          obtain ⟨contents, few, all, items⟩ :=
            read_places_sound fields sounds _ _ 0 depth start values behind read closed
          exact ⟨start, contents, spaces, few, all, items⟩
  case h_2 start begins =>
      left
      rw [begins] at spaces
      cases depth with
      | zero => cases read
      | succ depth =>
          simp only [bind_eq_ok_iff] at read
          obtain ⟨⟨draft, behind⟩, read, finished⟩ := read
          have same : behind = rest := by
            cases finish : fields.finish draft with
            | error name => rw [finish] at finished; cases finished
            | ok values => rw [finish] at finished; cases finished; rfl
          subst same
          obtain ⟨members, enclosed⟩ :=
            enclosed_of_read (read_member_reads fields sounds depth) _ _ read
          exact ⟨start, members, spaces, enclosed⟩
  case h_3 elsewhere _ _ => cases read

end Sound

end FlagBoard.Json
