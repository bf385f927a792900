import FlagBoard.Json.Reader
import FlagBoard.Proofs.Json.Digits
import Mathlib

/-!
The grammar of JSON texts. A rule relates a text to what is left of it behind the thing that it
begins with. No rule looks beyond that thing, so a number may end before its last digit; it is the
comma, bracket or space behind a value that settles where it ends.
-/

namespace FlagBoard.Json

/-- A text, and what is left of it. -/
abbrev Rule := List Char → List Char → Prop

def Spaces : Rule := fun text rest =>
  ∃ blanks, (∀ c ∈ blanks, isSpace c = true) ∧ text = blanks ++ rest

/-- A piece of a string: a character, or sixteen bits that may be half of one. -/
inductive Piece
  | char (c : Char)
  | unit (bits : Nat)
  deriving DecidableEq, Repr

def FourDigits (unit : Nat) : Rule := fun text rest =>
  ∃ first second third fourth a b c d, hexValue first = some a ∧ hexValue second = some b ∧
    hexValue third = some c ∧ hexValue fourth = some d ∧
    unit = ((a * 16 + b) * 16 + c) * 16 + d ∧ text = first :: second :: third :: fourth :: rest

inductive IsPiece : Piece → Rule
  | plain (c : Char) (rest : List Char) (notQuote : c ≠ '"') (notBackslash : c ≠ '\\')
      (visible : 0x20 ≤ c.toNat) : IsPiece (.char c) (c :: rest) rest
  | letter (letter c : Char) (rest : List Char) (stands : letterEscape letter = some c) :
      IsPiece (.char c) ('\\' :: letter :: rest) rest
  | digits {unit : Nat} {text rest : List Char} (digits : FourDigits unit text rest) :
      IsPiece (.unit unit) ('\\' :: 'u' :: text) rest

inductive Pieces : List Piece → Rule
  | close (rest : List Char) : Pieces [] ('"' :: rest) rest
  | piece {piece : Piece} {pieces : List Piece} {text behind rest : List Char}
      (first : IsPiece piece text behind) (others : Pieces pieces behind rest) :
      Pieces (piece :: pieces) text rest

def joinHalves (high low : Nat) : Char :=
  Char.ofNat (0x10000 + (high - 0xd800) * 0x400 + (low - 0xdc00))

/-- The text that pieces spell, if all halves of characters are in pairs. -/
def spelled : List Piece → Option (List Char)
  | [] => some []
  | .char c :: pieces => (spelled pieces).map (c :: ·)
  | .unit bits :: pieces =>
      if isTrailing bits then none
      else if isLeading bits then
        match pieces with
        | .unit low :: others =>
            if isTrailing low then (spelled others).map (joinHalves bits low :: ·) else none
        | _ => none
      else (spelled pieces).map (Char.ofNat bits :: ·)

/-- A string between its quotes, with the text that it spells if it does. -/
def Quoted (meaning : Option String) : Rule := fun text rest =>
  ∃ start pieces, text = '"' :: start ∧ Pieces pieces start rest ∧
    (spelled pieces).map String.ofList = meaning

def Digits : Rule := fun text rest =>
  ∃ digits, digits ≠ [] ∧ (∀ c ∈ digits, isDigit c = true) ∧ text = digits ++ rest

/-- A zero stands alone. -/
def Whole : Rule := fun text rest => text = '0' :: rest ∨ text.head? ≠ some '0' ∧ Digits text rest

def Fraction : Rule := fun text rest =>
  text = rest ∨ ∃ digits, text = '.' :: digits ∧ Digits digits rest

def Power : Rule := fun text rest =>
  text = rest ∨ ∃ mark start digits, (mark = 'e' ∨ mark = 'E') ∧ text = mark :: start ∧
    (start = digits ∨ start = '+' :: digits ∨ start = '-' :: digits) ∧ Digits digits rest

def Unsigned : Rule := fun text rest =>
  ∃ afterWhole afterFraction, Whole text afterWhole ∧ Fraction afterWhole afterFraction ∧
    Power afterFraction rest

/-- What a value is, as far as the reader of a record asks. -/
inductive Content
  | null
  /-- A string, with the text that it spells if it does. -/
  | quoted (meaning : Option String)
  | other
  deriving DecidableEq, Repr

inductive Scalar : Content → Rule
  | null (rest : List Char) : Scalar .null ('n' :: 'u' :: 'l' :: 'l' :: rest) rest
  | true (rest : List Char) : Scalar .other ('t' :: 'r' :: 'u' :: 'e' :: rest) rest
  | false (rest : List Char) : Scalar .other ('f' :: 'a' :: 'l' :: 's' :: 'e' :: rest) rest
  | negative {text rest : List Char} (number : Unsigned text rest) :
      Scalar .other ('-' :: text) rest
  | number {text rest : List Char} (number : Unsigned text rest) : Scalar .other text rest
  | quoted {meaning : Option String} {text rest : List Char} (quoted : Quoted meaning text rest) :
      Scalar (.quoted meaning) text rest

section Enclosures

variable {Label : Type}

/-- From behind an entry on: the other entries, each behind a comma, and the closing character. -/
inductive More (close : Char) (entry : Label → Rule) : List Label → Rule
  | close {text rest : List Char} (spaces : Spaces text (close :: rest)) :
      More close entry [] text rest
  | entry {label : Label} {labels : List Label} {text comma start behind rest : List Char}
      (spaces : Spaces text (',' :: comma)) (moreSpaces : Spaces comma start)
      (first : entry label start behind) (others : More close entry labels behind rest) :
      More close entry (label :: labels) text rest

/-- Entries with commas between them, and the closing character. -/
inductive Enclosed (close : Char) (entry : Label → Rule) : List Label → Rule
  | close {text rest : List Char} (spaces : Spaces text (close :: rest)) :
      Enclosed close entry [] text rest
  | entry {label : Label} {labels : List Label} {text start behind rest : List Char}
      (spaces : Spaces text start) (first : entry label start behind)
      (others : More close entry labels behind rest) :
      Enclosed close entry (label :: labels) text rest

/-- From the start of an enclosure to its first entry, or from behind an entry to the next. -/
def Before : Bool → Rule
  | true => Spaces
  | false => fun text start => ∃ comma, Spaces text (',' :: comma) ∧ Spaces comma start

/-- The entries of an enclosure from its start on, or from behind an entry on. -/
def Entries (close : Char) (entry : Label → Rule) : Bool → List Label → Rule
  | true => Enclosed close entry
  | false => More close entry

end Enclosures

def Member (value : Content → Rule) : Option String × Content → Rule :=
  fun (key, content) text rest => ∃ afterKey colon start, Quoted key text afterKey ∧
    Spaces afterKey (':' :: colon) ∧ Spaces colon start ∧ value content start rest

inductive Nest (value : Content → Rule) : Rule
  | list {contents : List Content} {text rest : List Char}
      (items : Enclosed ']' value contents text rest) : Nest value ('[' :: text) rest
  | object {contents : List (Option String × Content)} {text rest : List Char}
      (members : Enclosed '\x7d' (Member value) contents text rest) :
      Nest value ('\x7b' :: text) rest

/-- Values in which lists and objects are nested to a given depth at most. -/
def NestedValue : Nat → Content → Rule
  | 0, content => Scalar content
  | depth + 1, content => fun text rest =>
      Scalar content text rest ∨ content = .other ∧ Nest (NestedValue depth) text rest

def IsValue (content : Content) : Rule := fun text rest =>
  ∃ depth, NestedValue depth content text rest

def ObjectText (members : List (Option String × Content)) (text : List Char) : Prop :=
  ∃ start rest, Spaces text ('\x7b' :: start) ∧
    Enclosed '\x7d' (Member IsValue) members start rest ∧ Spaces rest []

def ListText (contents : List Content) (text : List Char) : Prop :=
  ∃ start rest, Spaces text ('[' :: start) ∧ Enclosed ']' IsValue contents start rest ∧
    Spaces rest []

section Spacing

variable {text rest : List Char}

theorem space_ends (c : Char) (space : isSpace c = true) (rest : List Char) :
    continuesNumber (c :: rest) = false := by
  simp only [isSpace, Bool.or_eq_true, beq_iff_eq] at space
  rcases space with ((rfl | rfl) | rfl) | rfl <;> rfl

theorem spaces_refl (text : List Char) : Spaces text text := ⟨[], by simp, rfl⟩

theorem skip_spaces (spaces : Spaces text rest) : skipSpace text = skipSpace rest := by
  obtain ⟨blanks, all, rfl⟩ := spaces
  exact List.dropWhile_append_of_pos all

theorem skip_spaces_cons {c : Char} (spaces : Spaces text (c :: rest))
    (visible : isSpace c = false) : skipSpace text = c :: rest := by
  rw [skip_spaces spaces, skipSpace, List.dropWhile_cons_of_neg (by simp [visible])]

theorem spaces_skip (text : List Char) : Spaces text (skipSpace text) :=
  ⟨text.takeWhile isSpace, fun _ => List.mem_takeWhile_imp, List.takeWhile_append_dropWhile.symm⟩

theorem spaces_of_skip (skipped : skipSpace text = rest) : Spaces text rest :=
  skipped ▸ spaces_skip text

theorem spaces_cons_iff (c : Char) (text rest : List Char) (visible : isSpace c = false) :
    Spaces text (c :: rest) ↔ skipSpace text = c :: rest :=
  ⟨fun spaces => skip_spaces_cons spaces visible, spaces_of_skip⟩

theorem skip_nil_of_spaces (spaces : Spaces text []) : skipSpace text = [] := skip_spaces spaces

theorem spaces_trans {behind : List Char} (first : Spaces text rest) (second : Spaces rest behind) :
    Spaces text behind := by
  obtain ⟨blanks, all, rfl⟩ := first
  obtain ⟨others, more, rfl⟩ := second
  refine ⟨blanks ++ others, ?_, by rw [List.append_assoc]⟩
  intro c member
  exact (List.mem_append.mp member).elim (all c) (more c)

theorem spaces_length (spaces : Spaces text rest) : rest.length ≤ text.length := by
  obtain ⟨blanks, _, rfl⟩ := spaces
  rw [List.length_append]
  exact Nat.le_add_left _ _

theorem spaces_end {c : Char} (spaces : Spaces text (c :: rest))
    (ends : continuesNumber (c :: rest) = false) : continuesNumber text = false := by
  obtain ⟨blanks, all, rfl⟩ := spaces
  cases blanks with
  | nil => exact ends
  | cons blank blanks => exact space_ends blank (all blank (by simp)) _

end Spacing

section Beginnings

variable {text rest : List Char}

theorem piece_shorter {piece : Piece} (first : IsPiece piece text rest) :
    rest.length < text.length := by
  cases first with
  | plain c rest _ _ _ => exact Nat.lt_succ_self _
  | letter letter c rest _ => simp only [List.length_cons]; omega
  | digits digits =>
      obtain ⟨_, _, _, _, _, _, _, _, _, _, _, _, _, rfl⟩ := digits
      simp only [List.length_cons]
      omega

theorem pieces_shorter {pieces : List Piece} (all : Pieces pieces text rest) :
    rest.length < text.length := by
  induction all with
  | close rest => exact Nat.lt_succ_self _
  | piece first _ induction => exact induction.trans (piece_shorter first)

theorem quoted_shorter {meaning : Option String} (quoted : Quoted meaning text rest) :
    rest.length < text.length := by
  obtain ⟨start, pieces, rfl, all, _⟩ := quoted
  exact (pieces_shorter all).trans (Nat.lt_succ_self _)

theorem digits_shorter (digits : Digits text rest) : rest.length < text.length := by
  obtain ⟨taken, some, _, rfl⟩ := digits
  rw [List.length_append]
  exact Nat.lt_add_of_pos_left (List.length_pos_iff.mpr some)

theorem unsigned_shorter (number : Unsigned text rest) : rest.length < text.length := by
  obtain ⟨afterWhole, afterFraction, whole, fraction, power⟩ := number
  have first : afterWhole.length < text.length := by
    rcases whole with rfl | ⟨_, digits⟩
    · exact Nat.lt_succ_self _
    · exact digits_shorter digits
  have second : afterFraction.length ≤ afterWhole.length := by
    rcases fraction with rfl | ⟨start, rfl, digits⟩
    · exact Nat.le_refl _
    · exact ((digits_shorter digits).trans (Nat.lt_succ_self _)).le
  have third : rest.length ≤ afterFraction.length := by
    rcases power with rfl | ⟨mark, start, digits, _, rfl, sign, all⟩
    · exact Nat.le_refl _
    · have shorter := digits_shorter all
      rcases sign with rfl | rfl | rfl <;> simp only [List.length_cons] <;> omega
  omega

theorem unsigned_begins (number : Unsigned text rest) :
    ∃ c start, text = c :: start ∧ isDigit c = true := by
  obtain ⟨afterWhole, _, whole, _⟩ := number
  rcases whole with rfl | ⟨_, taken, some, all, rfl⟩
  · exact ⟨'0', afterWhole, rfl, rfl⟩
  · obtain ⟨c, others, rfl⟩ := List.exists_cons_of_ne_nil some
    exact ⟨c, others ++ afterWhole, rfl, all c (by simp)⟩

theorem scalar_shorter {content : Content} (scalar : Scalar content text rest) :
    rest.length < text.length := by
  cases scalar with
  | null rest => simp only [List.length_cons]; omega
  | true rest => simp only [List.length_cons]; omega
  | false rest => simp only [List.length_cons]; omega
  | negative number => exact (unsigned_shorter number).trans (Nat.lt_succ_self _)
  | number number => exact unsigned_shorter number
  | quoted quoted => exact quoted_shorter quoted

/-- The characters that neither a value nor a member begins with. -/
def isBetween (c : Char) : Bool := isSpace c || c == ',' || c == ']' || c == '\x7d'

theorem visible_of_not_between {c : Char} (apart : isBetween c = false) : isSpace c = false := by
  simp only [isBetween, Bool.or_eq_false_iff] at apart
  exact apart.1.1.1

theorem digit_not_between (c : Char) (digit : isDigit c = true) : isBetween c = false := by
  by_contra between
  simp only [Bool.not_eq_false, isBetween, isSpace, Bool.or_eq_true, beq_iff_eq] at between
  rcases between with (((((rfl | rfl) | rfl) | rfl) | rfl) | rfl) | rfl <;>
    exact absurd digit (by decide)

theorem scalar_begins {content : Content} (scalar : Scalar content text rest) :
    ∃ c start, text = c :: start ∧ isBetween c = false := by
  cases scalar with
  | null rest => exact ⟨'n', _, rfl, rfl⟩
  | true rest => exact ⟨'t', _, rfl, rfl⟩
  | false rest => exact ⟨'f', _, rfl, rfl⟩
  | negative number => exact ⟨'-', _, rfl, rfl⟩
  | number number =>
      obtain ⟨c, start, begins, digit⟩ := unsigned_begins number
      exact ⟨c, start, begins, digit_not_between c digit⟩
  | quoted quoted =>
      obtain ⟨start, _, begins, _⟩ := quoted
      exact ⟨'"', start, begins, rfl⟩

/-- Entries of an enclosure begin with a character of their own and are not empty. -/
structure Stands {Label : Type} (entry : Label → Rule) : Prop where
  begins : ∀ label text rest, entry label text rest →
    ∃ c start, text = c :: start ∧ isBetween c = false
  shorter : ∀ label text rest, entry label text rest → rest.length < text.length

section Enclosures

variable {Label : Type} {close : Char} {entry : Label → Rule} {labels : List Label}

theorem more_shorter (stands : Stands entry) (more : More close entry labels text rest) :
    rest.length < text.length := by
  induction more with
  | close spaces => exact Nat.lt_of_succ_le (spaces_length spaces)
  | entry spaces moreSpaces first _ induction =>
      have comma := spaces_length spaces
      have start := spaces_length moreSpaces
      have behind := stands.shorter _ _ _ first
      rw [List.length_cons] at comma
      omega

theorem before_length {first : Bool} {start : List Char} (before : Before first text start) :
    start.length ≤ text.length := by
  cases first with
  | true => exact spaces_length before
  | false =>
      obtain ⟨comma, separated, spaces⟩ := before
      have commaShorter := spaces_length separated
      rw [List.length_cons] at commaShorter
      exact (spaces_length spaces).trans (Nat.le_of_succ_le commaShorter)

theorem before_trans {first : Bool} {start behind : List Char} (before : Before first text start)
    (spaces : Spaces start behind) : Before first text behind := by
  cases first with
  | true => exact spaces_trans before spaces
  | false =>
      obtain ⟨comma, separated, moreSpaces⟩ := before
      exact ⟨comma, separated, spaces_trans moreSpaces spaces⟩

theorem entries_close (first : Bool) (spaces : Spaces text (close :: rest)) :
    Entries close entry first [] text rest := by
  cases first with
  | true => exact .close spaces
  | false => exact .close spaces

theorem entries_entry {first : Bool} {label : Label} {start behind : List Char}
    (before : Before first text start) (standing : entry label start behind)
    (others : More close entry labels behind rest) :
    Entries close entry first (label :: labels) text rest := by
  cases first with
  | true => exact .entry before standing others
  | false =>
      obtain ⟨comma, spaces, moreSpaces⟩ := before
      exact .entry spaces moreSpaces standing others

theorem entries_cases {first : Bool} (entries : Entries close entry first labels text rest) :
    labels = [] ∧ Spaces text (close :: rest) ∨
      ∃ label others start behind, labels = label :: others ∧ Before first text start ∧
        entry label start behind ∧ More close entry others behind rest := by
  cases first with
  | true =>
      cases entries with
      | close spaces => exact .inl ⟨rfl, spaces⟩
      | entry spaces standing others => exact .inr ⟨_, _, _, _, rfl, spaces, standing, others⟩
  | false =>
      cases entries with
      | close spaces => exact .inl ⟨rfl, spaces⟩
      | entry spaces moreSpaces standing others =>
          exact .inr ⟨_, _, _, _, rfl, ⟨_, spaces, moreSpaces⟩, standing, others⟩

theorem entries_shorter (first : Bool) (stands : Stands entry)
    (entries : Entries close entry first labels text rest) : rest.length < text.length := by
  rcases entries_cases entries with
    ⟨_, spaces⟩ | ⟨label, others, start, behind, _, before, standing, more⟩
  · exact Nat.lt_of_succ_le (spaces_length spaces)
  · have startShorter := before_length before
    have behindShorter := stands.shorter _ _ _ standing
    have restShorter := more_shorter stands more
    omega

/-- What stands behind an entry does not go on with a number. -/
theorem more_ends (plain : continuesNumber [close] = false)
    (more : More close entry labels text rest) : continuesNumber text = false := by
  cases more with
  | close spaces => exact spaces_end spaces plain
  | entry spaces _ _ _ => exact spaces_end spaces rfl

end Enclosures

theorem member_stands (value : Content → Rule) (stands : Stands value) : Stands (Member value) where
  begins := by
    rintro ⟨key, content⟩ text rest ⟨afterKey, colon, start, ⟨behind, pieces, rfl, _⟩, _⟩
    exact ⟨'"', behind, rfl, rfl⟩
  shorter := by
    rintro ⟨key, content⟩ text rest ⟨afterKey, colon, start, quoted, spaces, moreSpaces, standing⟩
    have first := quoted_shorter quoted
    have second := spaces_length spaces
    have third := spaces_length moreSpaces
    have last := stands.shorter _ _ _ standing
    rw [List.length_cons] at second
    omega

theorem nested_value_stands (depth : Nat) : Stands (NestedValue depth) := by
  induction depth with
  | zero => exact ⟨fun _ _ _ => scalar_begins, fun _ _ _ => scalar_shorter⟩
  | succ depth induction =>
      constructor
      case begins =>
        rintro content text rest (scalar | ⟨_, nest⟩)
        · exact scalar_begins scalar
        · cases nest with
          | list items => exact ⟨'[', _, rfl, rfl⟩
          | object members => exact ⟨'\x7b', _, rfl, rfl⟩
      case shorter =>
        rintro content text rest (scalar | ⟨_, nest⟩)
        · exact scalar_shorter scalar
        · cases nest with
          | list items => exact (entries_shorter true induction items).trans (Nat.lt_succ_self _)
          | object members =>
              exact (entries_shorter true (member_stands _ induction) members).trans
                (Nat.lt_succ_self _)

theorem value_stands : Stands IsValue where
  begins := fun content text rest ⟨depth, standing⟩ =>
    (nested_value_stands depth).begins content text rest standing
  shorter := fun content text rest ⟨depth, standing⟩ =>
    (nested_value_stands depth).shorter content text rest standing

end Beginnings

end FlagBoard.Json
