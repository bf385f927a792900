import FlagBoard.Proofs.Json.Spelling
import Mathlib

/-!
Passing over a value. Whatever the grammar calls a value is passed over, however deep it goes, and
nothing else is.
-/

namespace FlagBoard.Json

theorem read_word_iff (letters text rest : List Char) :
    readWord letters text = .ok ((), rest) ↔ text = letters ++ rest := by
  induction letters generalizing text with
  | nil => simp [readWord]
  | cons letter letters induction =>
      cases text with
      | nil => simp [readWord]
      | cons c text =>
          rw [readWord, List.cons_append, List.cons.injEq]
          split_ifs with same
          · rw [induction, and_iff_right same]
          · simp [same]

section Numbers

variable {text rest : List Char}

theorem skip_digits_iff (text rest : List Char) :
    skipDigits text = .ok rest ↔ Digits text rest ∧ startsDigit rest = false := by
  constructor
  · intro skipped
    have split : text = text.takeWhile isDigit ++ text.dropWhile isDigit :=
      List.takeWhile_append_dropWhile.symm
    rw [skipDigits, takeDigits] at skipped
    cases taken : text.takeWhile isDigit with
    | nil => rw [taken] at skipped; cases skipped
    | cons c digits =>
        rw [taken] at skipped split
        cases skipped
        refine ⟨⟨c :: digits, by simp, ?_, split⟩, starts_digit_dropWhile text⟩
        intro other member
        rw [← taken] at member
        exact List.mem_takeWhile_imp member
  · rintro ⟨⟨digits, some, all, rfl⟩, ends⟩
    obtain ⟨c, others, rfl⟩ := List.exists_cons_of_ne_nil some
    rw [skipDigits, take_digits_append _ rest all ends]
    rfl

theorem digits_begin (digits : Digits text rest) : startsDigit text = true := by
  obtain ⟨taken, some, all, rfl⟩ := digits
  obtain ⟨c, others, rfl⟩ := List.exists_cons_of_ne_nil some
  exact all c (by simp)

def skipWhole : List Char → Except Fault (List Char)
  | '0' :: d :: rest => if isDigit d then .error (.next .badNumber (d :: rest)) else .ok (d :: rest)
  | other => skipDigits other

def skipFraction : List Char → Except Fault (List Char)
  | '.' :: rest => skipDigits rest
  | other => .ok other

def skipSigned : List Char → Except Fault (List Char)
  | '+' :: more => skipDigits more
  | '-' :: more => skipDigits more
  | more => skipDigits more

def skipPower : List Char → Except Fault (List Char)
  | c :: rest => if c = 'e' ∨ c = 'E' then skipSigned rest else .ok (c :: rest)
  | [] => .ok []

theorem skip_number_eq (text : List Char) :
    skipNumber text =
      skipWhole text >>= fun afterWhole => skipFraction afterWhole >>= skipPower := by
  have fraction (afterWhole : List Char) :
      (match afterWhole with
        | '.' :: rest => skipDigits rest >>= skipPower
        | other => Except.ok other >>= skipPower) = skipFraction afterWhole >>= skipPower := by
    rw [skipFraction.eq_def]
    split <;> rfl
  rw [skipNumber.eq_def]
  split
  case h_1 d more =>
      rw [skipWhole]
      split_ifs
      · rfl
      · exact fraction (d :: more)
  case h_2 other alone =>
      rw [skipWhole.eq_2 text alone]
      exact congrArg (skipDigits text >>= ·) (funext fraction)

theorem skip_whole_iff (text rest : List Char) :
    skipWhole text = .ok rest ↔ Whole text rest ∧ startsDigit rest = false := by
  rw [Whole, skipWhole.eq_def]
  split
  case h_1 d more =>
      cases digit : isDigit d with
      | true =>
          simp only [if_true, reduceCtorEq, List.cons.injEq, true_and, List.head?_cons,
            not_true_eq_false, false_and, or_false, false_iff, not_and, ne_eq]
          rintro rfl
          simp [startsDigit, digit]
      | false =>
          simp only [Bool.false_eq_true, if_false, Except.ok.injEq, List.cons.injEq, true_and,
            List.head?_cons, ne_eq, not_true_eq_false, false_and, or_false]
          constructor
          · rintro rfl
            exact ⟨rfl, digit⟩
          · exact And.left
  case h_2 other alone =>
      cases text with
      | nil => simp [skip_digits_iff]
      | cons c more =>
          by_cases zero : c = '0'
          · subst zero
            cases more with
            | cons d more => exact absurd rfl (alone d more)
            | nil =>
                have taken : skipDigits ['0'] = .ok [] := rfl
                rw [taken]
                constructor
                · intro same
                  cases same
                  exact ⟨.inl rfl, rfl⟩
                · rintro ⟨same | ⟨notZero, _⟩, _⟩
                  · rw [(List.cons.inj same).2]
                  · exact absurd rfl notZero
          · simp [skip_digits_iff, zero]

theorem skip_fraction_iff (text rest : List Char) :
    skipFraction text = .ok rest ↔
      text = rest ∧ text.head? ≠ some '.' ∨
        ∃ digits, text = '.' :: digits ∧ Digits digits rest ∧ startsDigit rest = false := by
  rw [skipFraction.eq_def]
  split
  case h_1 more => simp [skip_digits_iff]
  case h_2 other plain =>
      have notPoint : text.head? ≠ some '.' := by
        intro point
        obtain ⟨more, begins⟩ := List.head?_eq_some_iff.mp point
        exact plain more begins
      constructor
      · intro same
        cases same
        exact .inl ⟨rfl, notPoint⟩
      · rintro (⟨rfl, _⟩ | ⟨digits, rfl, _⟩)
        · rfl
        · exact absurd rfl notPoint

theorem skip_signed_iff (text rest : List Char) :
    skipSigned text = .ok rest ↔
      ∃ digits, (text = digits ∨ text = '+' :: digits ∨ text = '-' :: digits) ∧
        Digits digits rest ∧ startsDigit rest = false := by
  -- Digits do not begin with a sign, so it is settled which of the three the text is.
  have unsigned (c : Char) (more : List Char) (plain : isDigit c = false) :
      ¬ Digits (c :: more) rest := by
    intro digits
    have begins := digits_begin digits
    rw [startsDigit, plain] at begins
    cases begins
  rw [skipSigned.eq_def]
  split
  case h_1 more => simp [skip_digits_iff, unsigned _ _ (rfl : isDigit '+' = false)]
  case h_2 more => simp [skip_digits_iff, unsigned _ _ (rfl : isDigit '-' = false)]
  case h_3 more notPlus notMinus =>
      rw [skip_digits_iff]
      constructor
      · intro digits
        exact ⟨text, .inl rfl, digits⟩
      · rintro ⟨digits, rfl | rfl | rfl, all⟩
        · exact all
        · exact absurd rfl (notPlus digits)
        · exact absurd rfl (notMinus digits)

theorem skip_power_iff (text rest : List Char) :
    skipPower text = .ok rest ↔
      text = rest ∧ text.head? ≠ some 'e' ∧ text.head? ≠ some 'E' ∨
        ∃ mark start digits, (mark = 'e' ∨ mark = 'E') ∧ text = mark :: start ∧
          (start = digits ∨ start = '+' :: digits ∨ start = '-' :: digits) ∧
          Digits digits rest ∧ startsDigit rest = false := by
  cases text with
  | nil => simp [skipPower]
  | cons c more =>
      rw [skipPower]
      by_cases mark : c = 'e' ∨ c = 'E'
      · rw [if_pos mark, skip_signed_iff]
        constructor
        · rintro ⟨digits, signed⟩
          exact .inr ⟨c, more, digits, mark, rfl, signed⟩
        · rintro (⟨_, notLower, notUpper⟩ | ⟨_, _, digits, _, same, signed⟩)
          · rcases mark with rfl | rfl
            · exact absurd rfl notLower
            · exact absurd rfl notUpper
          · cases same
            exact ⟨digits, signed⟩
      · rw [if_neg mark]
        rw [not_or] at mark
        constructor
        · intro same
          cases same
          exact .inl ⟨rfl, by simpa using mark.1, by simpa using mark.2⟩
        · rintro (⟨rfl, _⟩ | ⟨_, _, _, letter, same, _⟩)
          · rfl
          · cases same
            exact absurd letter (not_or.mpr mark)

theorem unsigned_of_skip (skipped : skipNumber text = .ok rest) : Unsigned text rest := by
  simp only [skip_number_eq, bind_eq_ok_iff] at skipped
  obtain ⟨afterWhole, whole, afterFraction, fraction, power⟩ := skipped
  refine ⟨afterWhole, afterFraction, ((skip_whole_iff _ _).mp whole).1, ?_, ?_⟩
  · rcases (skip_fraction_iff _ _).mp fraction with ⟨same, _⟩ | ⟨digits, begins, all, _⟩
    · exact .inl same
    · exact .inr ⟨digits, begins, all⟩
  · rcases (skip_power_iff _ _).mp power with
      ⟨same, _⟩ | ⟨mark, start, digits, letter, begins, sign, all, _⟩
    · exact .inl same
    · exact .inr ⟨mark, start, digits, letter, begins, sign, all⟩

/-- What ends behind a power is no digit and no point before it. -/
theorem power_begins (power : Power text rest) (ends : continuesNumber rest = false) :
    startsDigit text = false ∧ text.head? ≠ some '.' := by
  rcases power with rfl | ⟨mark, start, digits, rfl | rfl, rfl, _⟩
  · obtain ⟨digit, point, _⟩ := (continues_number_iff text).mp ends
    exact ⟨digit, point⟩
  · exact ⟨rfl, by simp⟩
  · exact ⟨rfl, by simp⟩

theorem skip_unsigned (number : Unsigned text rest) (ends : continuesNumber rest = false) :
    skipNumber text = .ok rest := by
  obtain ⟨afterWhole, afterFraction, whole, fraction, power⟩ := number
  obtain ⟨noDigit, noPoint⟩ := power_begins power ends
  obtain ⟨endDigit, _, notLower, notUpper⟩ := (continues_number_iff rest).mp ends
  have noDigitBefore : startsDigit afterWhole = false := by
    rcases fraction with rfl | ⟨digits, rfl, _⟩
    · exact noDigit
    · rfl
  simp only [skip_number_eq, bind_eq_ok_iff]
  refine ⟨afterWhole, (skip_whole_iff _ _).mpr ⟨whole, noDigitBefore⟩, afterFraction,
    (skip_fraction_iff _ _).mpr ?_, (skip_power_iff _ _).mpr ?_⟩
  · rcases fraction with rfl | ⟨digits, begins, all⟩
    · exact .inl ⟨rfl, noPoint⟩
    · exact .inr ⟨digits, begins, all, noDigit⟩
  · rcases power with rfl | ⟨mark, start, digits, letter, begins, sign, all⟩
    · exact .inl ⟨rfl, notLower, notUpper⟩
    · exact .inr ⟨mark, start, digits, letter, begins, sign, all, endDigit⟩

end Numbers

abbrev Skip := List Char → Except Fault (List Char)

/-- Where the next entry is looked for: in the first place where a text begins, but not with the
closing character, and later behind a comma. -/
def Turn (close : Char) : Bool → Rule
  | true => fun text start => skipSpace text = start ∧ start ≠ [] ∧ start.head? ≠ some close
  | false => fun text start => skipSpace text = ',' :: start

/-- A loop that passes over entries and the closing character behind them. -/
structure Passes (close : Char) (item : Skip) (loop : Nat → Bool → Skip) : Prop where
  stops : ∀ first text rest, loop 0 first text ≠ .ok rest
  step_iff : ∀ steps first text rest, loop (steps + 1) first text = .ok rest ↔
    skipSpace text = close :: rest ∨ ∃ start behind, Turn close first text start ∧
      item start = .ok behind ∧ loop steps false behind = .ok rest

/-- A loop passes over entries if it looks for the closing character first. -/
theorem passes_of_step {close : Char} {item : Skip} {loop : Nat → Bool → Skip} {atEnd : Fault}
    {elsewhere : List Char → Fault} (other : close ≠ ',')
    (stops : ∀ first text rest, loop 0 first text ≠ .ok rest)
    (step : ∀ steps first text, loop (steps + 1) first text =
      match skipSpace text with
      | [] => .error atEnd
      | c :: rest =>
          if c = close then .ok rest
          else if first then do
            let behind ← item (c :: rest)
            loop steps false behind
          else if c = ',' then do
            let behind ← item rest
            loop steps false behind
          else .error (elsewhere (c :: rest))) : Passes close item loop where
  stops := stops
  step_iff := by
    intro steps first text rest
    rw [step]
    cases begins : skipSpace text with
    | nil => cases first <;> simp [Turn, begins]
    | cons c more =>
        by_cases closing : c = close
        · subst closing
          cases first <;> simp [Turn, begins, other]
        · cases first with
          | true => simp [Turn, begins, closing, bind_eq_ok_iff]
          | false =>
              by_cases comma : c = ','
              · subst comma
                simp [Turn, begins, closing, bind_eq_ok_iff]
              · simp [Turn, begins, closing, comma]

theorem skip_items_passes (item : Skip) : Passes ']' item (skipItems item) :=
  passes_of_step (by decide) (fun _ _ _ => by simp [skipItems]) fun _ _ _ => rfl

theorem skip_members_passes (item : Skip) :
    Passes '\x7d' (skipMember item) (skipMembers item) :=
  passes_of_step (by decide) (fun _ _ _ => by simp [skipMembers]) fun _ _ _ => rfl

/-- What is passed over at a place is a thing of the grammar behind some spaces. -/
def Sound {Label : Type} (item : Skip) (entry : Label → Rule) : Prop :=
  ∀ text rest, item text = .ok rest → ∃ label start, Spaces text start ∧ entry label start rest

/-- Things of the grammar up to a length are passed over, if what follows lets them end. -/
def CompleteTo {Label : Type} (bound : Nat) (item : Skip) (entry : Label → Rule) : Prop :=
  ∀ label text start rest, Spaces text start → entry label start rest → start.length ≤ bound →
    continuesNumber rest = false → item text = .ok rest

section Loops

variable {Label : Type} {close : Char} {item : Skip} {loop : Nat → Bool → Skip}
  {entry : Label → Rule} {text rest : List Char}

theorem before_of_turn {first : Bool} {place start : List Char}
    (turn : Turn close first text place) (spaces : Spaces place start) :
    Before first text start := by
  cases first with
  | true => exact spaces_trans (spaces_of_skip turn.1) spaces
  | false => exact ⟨place, spaces_of_skip turn, spaces⟩

/-- What is not between entries is looked at in its turn. -/
theorem turn_of_before {first : Bool} {c : Char} {more : List Char}
    (before : Before first text (c :: more)) (between : isBetween close = true)
    (apart : isBetween c = false) :
    ∃ place, Turn close first text place ∧ Spaces place (c :: more) := by
  cases first with
  | true =>
      have notClose : c ≠ close := by
        rintro rfl
        rw [apart] at between
        cases between
      have begins := skip_spaces_cons before (visible_of_not_between apart)
      exact ⟨c :: more, ⟨begins, List.cons_ne_nil _ _, by simpa using notClose⟩, spaces_refl _⟩
  | false =>
      obtain ⟨comma, separated, spaces⟩ := before
      exact ⟨comma, skip_spaces_cons separated rfl, spaces⟩

theorem entries_of_loop (passes : Passes close item loop) (sound : Sound item entry) (steps : Nat)
    (first : Bool) (passed : loop steps first text = .ok rest) :
    ∃ labels, Entries close entry first labels text rest := by
  induction steps generalizing first text with
  | zero => exact absurd passed (passes.stops first text rest)
  | succ steps induction =>
      rcases (passes.step_iff steps first text rest).mp passed with
        closed | ⟨place, behind, turn, one, others⟩
      · exact ⟨[], entries_close first (spaces_of_skip closed)⟩
      · obtain ⟨label, start, spaces, standing⟩ := sound place behind one
        obtain ⟨labels, more⟩ := induction false others
        exact ⟨label :: labels, entries_entry (before_of_turn turn spaces) standing more⟩

variable {bound : Nat} {labels : List Label}

theorem loop_entries (passes : Passes close item loop) (stands : Stands entry)
    (between : isBetween close = true) (visible : isSpace close = false)
    (plain : continuesNumber [close] = false) (complete : CompleteTo bound item entry)
    (first : Bool) (entries : Entries close entry first labels text rest)
    (fits : text.length ≤ bound) (steps : Nat) (enough : text.length < steps) :
    loop steps first text = .ok rest := by
  induction steps generalizing first labels text with
  | zero => exact absurd enough (Nat.not_lt_zero _)
  | succ steps induction =>
      rw [passes.step_iff]
      rcases entries_cases entries with
        ⟨_, spaces⟩ | ⟨label, others, start, behind, _, before, standing, more⟩
      · exact .inl (skip_spaces_cons spaces visible)
      · have startShorter := before_length before
        have behindShorter := stands.shorter _ _ _ standing
        obtain ⟨c, _, rfl, apart⟩ := stands.begins _ _ _ standing
        obtain ⟨place, turn, spaces⟩ := turn_of_before before between apart
        -- A comma or the closing character is next, so even a number ends where its entry does.
        have passed := complete label place _ behind spaces standing (by omega)
          (more_ends plain more)
        exact .inr ⟨place, behind, turn, passed, induction false more (by omega) (by omega)⟩

end Loops

section Values

variable {text rest : List Char} {item : Skip} {value : Content → Rule}

theorem read_colon_iff (text rest : List Char) :
    readColon text = .ok ((), rest) ↔ skipSpace text = ':' :: rest := by
  rw [readColon]
  cases skipSpace text with
  | nil => simp
  | cons c more => by_cases colon : c = ':' <;> simp [colon]

theorem skip_member_iff (text rest : List Char) :
    skipMember item text = .ok rest ↔ ∃ key afterKey colon, skipSpace text = '"' :: key ∧
      skipString false key = .ok ((), afterKey) ∧ skipSpace afterKey = ':' :: colon ∧
      item colon = .ok rest := by
  rw [skipMember]
  cases skipSpace text with
  | nil => simp
  | cons c more =>
      by_cases quote : c = '"'
      · subst quote
        simp only [if_true, bind_eq_ok_iff, List.cons.injEq, true_and]
        constructor
        · rintro ⟨⟨_, afterKey⟩, quoted, ⟨_, colon⟩, separated, passed⟩
          exact ⟨more, afterKey, colon, rfl, quoted, (read_colon_iff _ _).mp separated, passed⟩
        · rintro ⟨key, afterKey, colon, rfl, quoted, separated, passed⟩
          exact ⟨((), afterKey), quoted, ((), colon), (read_colon_iff _ _).mpr separated, passed⟩
      · simp [quote]

theorem skip_member_sound (sound : Sound item value) : Sound (skipMember item) (Member value) := by
  intro text rest passed
  obtain ⟨key, afterKey, colon, begins, quoted, separated, passed⟩ :=
    (skip_member_iff text rest).mp passed
  obtain ⟨meaning, quoted⟩ := (skip_quoted_iff key afterKey).mp quoted
  obtain ⟨content, start, spaces, standing⟩ := sound colon rest passed
  exact ⟨(meaning, content), '"' :: key, spaces_of_skip begins, afterKey, colon, start, quoted,
    spaces_of_skip separated, spaces, standing⟩

theorem skip_member_complete {bound : Nat} (complete : CompleteTo bound item value) :
    CompleteTo bound (skipMember item) (Member value) := by
  rintro ⟨meaning, content⟩ text start rest spaces
    ⟨afterKey, colon, valueStart, quoted, colonSpaces, valueSpaces, standing⟩ fits ends
  have keyShorter := quoted_shorter quoted
  have colonShorter := spaces_length colonSpaces
  have valueShorter := spaces_length valueSpaces
  rw [List.length_cons] at colonShorter
  obtain ⟨key, pieces, rfl, all, spelling⟩ := quoted
  rw [skip_member_iff]
  refine ⟨key, afterKey, colon, skip_spaces_cons spaces rfl, ?_,
    skip_spaces_cons colonSpaces rfl, ?_⟩
  · exact (skip_quoted_iff key afterKey).mpr ⟨meaning, key, pieces, rfl, all, spelling⟩
  · exact complete content colon valueStart rest valueSpaces standing (by omega) ends

theorem behind_eq_ok_iff (read : Except Fault (Unit × List Char)) (rest : List Char) :
    (·.2) <$> read = .ok rest ↔ read = .ok ((), rest) := by
  cases read with
  | error fault => simp
  | ok result => simp [Prod.ext_iff]

theorem skip_nested_cases (depth : Nat) (passed : skipNested depth text = .ok rest) :
    (∃ content, Scalar content (skipSpace text) rest) ∨
      ∃ deeper more, depth = deeper + 1 ∧
        (skipSpace text = '[' :: more ∧
            skipItems (skipNested deeper) (more.length + 1) true more = .ok rest ∨
          skipSpace text = '\x7b' :: more ∧
            skipMembers (skipNested deeper) (more.length + 1) true more = .ok rest) := by
  unfold skipNested at passed
  cases begins : skipSpace text with
  | nil => rw [begins] at passed; cases passed
  | cons c more =>
      rw [begins] at passed
      dsimp only at passed
      split_ifs at passed with null true false minus digit quote bracket brace
      · rw [behind_eq_ok_iff, read_word_iff] at passed
        subst null passed
        exact .inl ⟨_, .null rest⟩
      · rw [behind_eq_ok_iff, read_word_iff] at passed
        subst true passed
        exact .inl ⟨_, .true rest⟩
      · rw [behind_eq_ok_iff, read_word_iff] at passed
        subst false passed
        exact .inl ⟨_, .false rest⟩
      · subst minus
        exact .inl ⟨_, .negative (unsigned_of_skip passed)⟩
      · exact .inl ⟨_, .number (unsigned_of_skip passed)⟩
      · rw [behind_eq_ok_iff, skip_quoted_iff] at passed
        obtain ⟨meaning, quoted⟩ := passed
        subst quote
        exact .inl ⟨_, .quoted quoted⟩
      · subst bracket
        cases depth with
        | zero => cases passed
        | succ depth => exact .inr ⟨depth, more, rfl, .inl ⟨rfl, passed⟩⟩
      · subst brace
        cases depth with
        | zero => cases passed
        | succ depth => exact .inr ⟨depth, more, rfl, .inr ⟨rfl, passed⟩⟩

theorem scalar_nested {content : Content} (depth : Nat) (scalar : Scalar content text rest) :
    NestedValue depth content text rest := by
  cases depth with
  | zero => exact scalar
  | succ depth => exact .inl scalar

theorem skip_nested_sound (depth : Nat) : Sound (skipNested depth) (NestedValue depth) := by
  induction depth with
  | zero =>
      intro text rest passed
      rcases skip_nested_cases 0 passed with ⟨content, scalar⟩ | ⟨_, _, deep, _⟩
      · exact ⟨content, _, spaces_skip text, scalar⟩
      · cases deep
  | succ depth induction =>
      intro text rest passed
      rcases skip_nested_cases (depth + 1) passed with
        ⟨content, scalar⟩ | ⟨deeper, more, deep, ⟨begins, passed⟩ | ⟨begins, passed⟩⟩
      · exact ⟨content, _, spaces_skip text, scalar_nested _ scalar⟩
      · cases deep
        obtain ⟨contents, items⟩ := entries_of_loop (skip_items_passes _) induction _ true
          passed
        exact ⟨.other, _, spaces_of_skip begins, .inr ⟨rfl, .list items⟩⟩
      · cases deep
        obtain ⟨contents, members⟩ := entries_of_loop (skip_members_passes _)
          (skip_member_sound induction) _ true passed
        exact ⟨.other, _, spaces_of_skip begins, .inr ⟨rfl, .object members⟩⟩

theorem skip_scalar {content : Content} (depth : Nat) (start : List Char)
    (spaces : Spaces text start) (scalar : Scalar content start rest)
    (ends : continuesNumber rest = false) : skipNested depth text = .ok rest := by
  have word (letters : List Char) : (·.2) <$> readWord letters (letters ++ rest) = .ok rest :=
    (behind_eq_ok_iff _ _).mpr ((read_word_iff _ _ _).mpr rfl)
  unfold skipNested
  cases scalar with
  | null rest => rw [skip_spaces_cons spaces rfl]; exact word ['u', 'l', 'l']
  | true rest => rw [skip_spaces_cons spaces rfl]; exact word ['r', 'u', 'e']
  | false rest => rw [skip_spaces_cons spaces rfl]; exact word ['a', 'l', 's', 'e']
  | negative number => rw [skip_spaces_cons spaces rfl]; exact skip_unsigned number ends
  | number number =>
      have passed := skip_unsigned number ends
      obtain ⟨c, more, rfl, digit⟩ := unsigned_begins number
      have visible := visible_of_not_between (digit_not_between c digit)
      have other (d : Char) (outside : isDigit d = false) : c ≠ d := by
        rintro rfl
        rw [digit] at outside
        cases outside
      rw [skip_spaces_cons spaces visible]
      simp only [if_neg (other 'n' rfl), if_neg (other 't' rfl), if_neg (other 'f' rfl),
        if_neg (other '-' rfl), if_pos digit, passed]
  | quoted quoted =>
      obtain ⟨key, pieces, rfl, all, spelling⟩ := quoted
      rw [skip_spaces_cons spaces rfl]
      exact (behind_eq_ok_iff _ _).mpr
        ((skip_quoted_iff _ _).mpr ⟨_, key, pieces, rfl, all, spelling⟩)

/-- No value is nested deeper than it is long. -/
theorem skip_nested_complete (nesting bound : Nat) :
    CompleteTo bound (skipNested bound) (NestedValue nesting) := by
  induction nesting generalizing bound with
  | zero =>
      intro content text start rest spaces scalar _ ends
      exact skip_scalar bound start spaces scalar ends
  | succ nesting induction =>
      rintro content text start rest spaces (scalar | ⟨rfl, nest⟩) fits ends
      · exact skip_scalar bound start spaces scalar ends
      · cases nest with
        | @list contents inside _ items =>
            obtain ⟨bound, rfl⟩ := Nat.exists_eq_succ_of_ne_zero
              (Nat.ne_zero_of_lt (Nat.lt_of_succ_le fits))
            have shorter : inside.length ≤ bound := Nat.le_of_succ_le_succ fits
            unfold skipNested
            rw [skip_spaces_cons spaces rfl]
            exact loop_entries (skip_items_passes _) (nested_value_stands nesting) rfl rfl rfl
              (induction bound) true items shorter _ (Nat.lt_succ_self _)
        | @object contents inside _ members =>
            obtain ⟨bound, rfl⟩ := Nat.exists_eq_succ_of_ne_zero
              (Nat.ne_zero_of_lt (Nat.lt_of_succ_le fits))
            have shorter : inside.length ≤ bound := Nat.le_of_succ_le_succ fits
            unfold skipNested
            rw [skip_spaces_cons spaces rfl]
            exact loop_entries (skip_members_passes _)
              (member_stands _ (nested_value_stands nesting)) rfl rfl rfl
              (skip_member_complete (induction bound)) true members shorter _ (Nat.lt_succ_self _)

theorem skip_value_sound : Sound skipValue IsValue := by
  intro text rest passed
  obtain ⟨content, start, spaces, standing⟩ := skip_nested_sound text.length text rest passed
  exact ⟨content, start, spaces, text.length, standing⟩

theorem skip_value_complete {content : Content} {start : List Char} (spaces : Spaces text start)
    (standing : IsValue content start rest) (ends : continuesNumber rest = false) :
    skipValue text = .ok rest := by
  obtain ⟨nesting, standing⟩ := standing
  exact skip_nested_complete nesting text.length content text start rest spaces standing
    (spaces_length spaces) ends

end Values

end FlagBoard.Json
