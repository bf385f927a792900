import FlagBoard.Json.Schema
import FlagBoard.Proofs.Json.Skipping
import Mathlib

/-!
Reading an object member by member. Along the members that the grammar finds, the reader does what
is done with each of them in turn, up to the first that is refused; and what it reads to the end is
an object of the grammar.
-/

namespace FlagBoard.Json

theorem next_key_iff (first : Bool) (text : List Char) (next : Option (List Char)) :
    nextKey first text = .ok next ↔
      (∃ rest, Spaces text ('\x7d' :: rest) ∧ next = none) ∨
        ∃ key, next = some ('"' :: key) ∧ Before first text ('"' :: key) := by
  simp only [spaces_cons_iff '\x7d' _ _ rfl]
  rw [nextKey]
  cases begins : skipSpace text with
  | nil => cases first <;> simp [Before, spaces_cons_iff, isSpace, begins]
  | cons c more =>
      by_cases close : c = '\x7d'
      · subst close
        cases first <;> simp [Before, spaces_cons_iff, isSpace, begins, eq_comm]
      · cases first with
        | true =>
            by_cases quote : c = '"' <;>
              simp [Before, spaces_cons_iff, isSpace, begins, close, quote, eq_comm]
        | false =>
            by_cases comma : c = ','
            · subst comma
              cases behind : skipSpace more with
              | nil => simp [Before, spaces_cons_iff, isSpace, begins, behind]
              | cons d others =>
                  by_cases quote : d = '"'
                  · simp [Before, spaces_cons_iff, isSpace, begins, behind, quote, eq_comm]
                  · by_cases brace : d = '\x7d' <;>
                      simp [Before, spaces_cons_iff, isSpace, begins, behind, quote, brace]
            · simp [Before, spaces_cons_iff, isSpace, begins, close, comma]

theorem bind_toOption {Error First Second : Type} (first : Except Error First)
    (next : First → Except Error Second) :
    (first >>= next).toOption = first.toOption.bind fun value => (next value).toOption := by
  cases first <;> rfl

theorem error_of_toOption {Error Value : Type} (result : Except Error Value)
    (nothing : result.toOption = none) : ∃ error, result = .error error := by
  cases result with
  | error error => exact ⟨error, rfl⟩
  | ok value => cases nothing

theorem ok_of_toOption {Error Value : Type} (result : Except Error Value) (value : Value)
    (some : result.toOption = some value) : result = .ok value := by
  cases result with
  | error error => cases some
  | ok value => cases some; rfl

section Along

variable {Label State : Type} {entry : Label → Rule} {member : String → State → Reader State}
  {labels : List Label} {text rest : List Char}

/-- An entry is a member, which is read to the state that the entry leads to. -/
def Follows (entry : Label → Rule) (member : String → State → Reader State)
    (grow : State → Label → Option State) (label : Label) : Prop :=
  ∀ state text behind, entry label text behind → continuesNumber behind = false →
    ∃ key, text = '"' :: key ∧
      (do
        let (name, afterKey) ← readString key
        member name state afterKey).toOption =
          (grow state label).map fun grown => (grown, behind)

variable {grow : State → Label → Option State}

/-- Entries are read one after the other, up to the closing brace. -/
theorem read_members_along (stands : Stands entry) (first : Bool)
    (entries : Entries '\x7d' entry first labels text rest)
    (follows : ∀ label ∈ labels, Follows entry member grow label) (steps : Nat)
    (enough : text.length ≤ steps) (state : State) :
    (readMembers member steps first state text).toOption =
      (labels.foldlM grow state).map fun grown => (grown, '\x7d' :: rest) := by
  induction steps generalizing first labels text state with
  | zero =>
      have shorter := entries_shorter first stands entries
      omega
  | succ steps induction =>
      rcases entries_cases entries with
        ⟨rfl, spaces⟩ | ⟨label, others, start, behind, rfl, before, standing, more⟩
      · have next := (next_key_iff first text none).mpr (.inl ⟨rest, spaces, rfl⟩)
        rw [readMembers, next, skip_spaces_cons spaces rfl]
        rfl
      · rw [List.forall_mem_cons] at follows
        obtain ⟨key, rfl, one⟩ := follows.1 state start behind standing (more_ends rfl more)
        have startShorter := before_length before
        have behindShorter := stands.shorter _ _ _ standing
        have next := (next_key_iff first text (some ('"' :: key))).mpr (.inr ⟨key, rfl, before⟩)
        have joined : readMembers member (steps + 1) first state text =
            (do
              let (name, afterKey) ← readString key
              member name state afterKey) >>= fun read =>
                readMembers member steps false read.1 read.2 := by
          rw [readMembers, next, ok_bind]
          change (readString key >>= _) = _
          cases readString key <;> rfl
        rw [joined, bind_toOption, one, List.foldlM_cons]
        cases grow state label with
        | none => rfl
        | some grown => exact induction false more follows.2 (by omega) grown

/-- An object is read by taking its entries in turn. -/
theorem read_object_along (stands : Stands entry)
    (enclosed : Enclosed '\x7d' entry labels text rest)
    (follows : ∀ label ∈ labels, Follows entry member grow label) (state : State) :
    (readObject member state text).toOption =
      (labels.foldlM grow state).map fun grown => (grown, rest) := by
  rw [readObject, bind_toOption,
    read_members_along stands true enclosed follows _ (Nat.le_refl _)]
  cases labels.foldlM grow state <;> rfl

end Along

section Contents

variable {State : Type}

/-- Takes members in turn. A key that spells no text is refused. -/
def takeAll (take : String → Content → State → Option State) :
    List (Option String × Content) → State → Option State
  | [], state => some state
  | (none, _) :: _, _ => none
  | (some key, content) :: members, state =>
      (take key content state).bind (takeAll take members)

/-- From behind a key on, a value of the grammar is taken by its content. -/
def Takes (member : String → State → Reader State)
    (take : String → Content → State → Option State) : Prop :=
  ∀ key content state text colon start rest, Spaces text (':' :: colon) → Spaces colon start →
    IsValue content start rest → continuesNumber rest = false →
    (member key state text).toOption = (take key content state).map fun grown => (grown, rest)

variable {member : String → State → Reader State} {take : String → Content → State → Option State}
  {members : List (Option String × Content)} {text rest : List Char}

theorem take_all_eq_foldlM (take : String → Content → State → Option State)
    (members : List (Option String × Content)) (state : State) :
    takeAll take members state =
      members.foldlM (fun state label => label.1.bind fun key => take key label.2 state) state := by
  induction members generalizing state with
  | nil => rfl
  | cons label members induction =>
      obtain ⟨meaning, content⟩ := label
      rw [List.foldlM_cons]
      cases meaning with
      | none => rfl
      | some key =>
          change (take key content state).bind _ = (take key content state).bind _
          cases take key content state with
          | none => rfl
          | some grown => exact induction grown

theorem takes_follows (takes : Takes member take) (label : Option String × Content) :
    Follows (Member IsValue) member
      (fun state label => label.1.bind fun key => take key label.2 state) label := by
  obtain ⟨meaning, content⟩ := label
  intro state text behind standing ends
  obtain ⟨afterKey, colon, start, quoted, colonSpaces, valueSpaces, standing⟩ := standing
  have begins : ∃ key, text = '"' :: key := by
    obtain ⟨key, _, same, _⟩ := quoted
    exact ⟨key, same⟩
  obtain ⟨key, rfl⟩ := begins
  refine ⟨key, rfl, ?_⟩
  rw [bind_toOption, read_quoted quoted]
  cases meaning with
  | none => rfl
  | some name =>
      exact takes name content state afterKey colon start behind colonSpaces valueSpaces standing
        ends

/-- An object is read by taking its members in turn. -/
theorem read_object_members (takes : Takes member take)
    (enclosed : Enclosed '\x7d' (Member IsValue) members text rest) (state : State) :
    (readObject member state text).toOption =
      (takeAll take members state).map fun grown => (grown, rest) := by
  rw [take_all_eq_foldlM]
  exact read_object_along (member_stands IsValue value_stands) enclosed
    (fun label _ => takes_follows takes label) state

end Contents

def readMember (depth : Nat) (key : String) (taken : List (String × Json)) :
    Reader (List (String × Json)) := fun text => do
  let (_, afterColon) ← readColon text
  let (value, rest) ← readValue depth afterColon
  .ok (putMember key value taken, rest)

section Back

/-- The states along entries, each of which makes a step. -/
inductive Steps {Label State : Type} (step : Label → State → State → Prop) :
    List Label → State → State → Prop
  | nil (state : State) : Steps step [] state state
  | cons {label : Label} {labels : List Label} {first second last : State}
      (one : step label first second) (others : Steps step labels second last) :
      Steps step (label :: labels) first last

variable {State : Type} {value : Content → Rule}
  {step : Option String × Content → State → State → Prop} {member : String → State → Reader State}
  {text rest : List Char}

/-- Whatever is read from behind a key on is a colon and a value, and makes a step. -/
def ReadsBy (value : Content → Rule) (step : Option String × Content → State → State → Prop)
    (member : String → State → Reader State) : Prop :=
  ∀ key state text grown rest, member key state text = .ok (grown, rest) →
    ∃ content colon start, Spaces text (':' :: colon) ∧ Spaces colon start ∧
      value content start rest ∧ step (some key, content) state grown

theorem close_object_iff (text rest : List Char) :
    closeObject text = .ok ((), rest) ↔ skipSpace text = '\x7d' :: rest := by
  rw [closeObject]
  cases skipSpace text with
  | nil => simp
  | cons c more =>
      by_cases close : c = '\x7d'
      · simp [close]
      · by_cases comma : c = ',' <;> simp [close, comma]

theorem member_of_read (reads : ReadsBy value step member) (key name : List Char) (text : String)
    (state grown : State) (quoted : readString key = .ok (text, name))
    (read : member text state name = .ok (grown, rest)) :
    ∃ label, Member value label ('"' :: key) rest ∧ step label state grown := by
  obtain ⟨content, colon, start, colonSpaces, valueSpaces, standing, one⟩ := reads _ _ _ _ _ read
  exact ⟨(some text, content), ⟨name, colon, start, quoted_of_read text quoted, colonSpaces,
    valueSpaces, standing⟩, one⟩

theorem entries_of_read (stands : Stands value) (reads : ReadsBy value step member) (first : Bool)
    (steps : Nat) (enough : text.length ≤ steps) (state grown : State) (behind : List Char)
    (read : readMembers member steps first state text = .ok (grown, behind))
    (closed : closeObject behind = .ok ((), rest)) :
    ∃ members, Entries '\x7d' (Member value) first members text rest ∧
      Steps step members state grown := by
  induction steps generalizing first text state with
  | zero =>
      -- Nothing is left of the text, so the object is never closed.
      cases read
      rw [List.eq_nil_of_length_eq_zero (Nat.le_zero.mp enough)] at closed
      cases closed
  | succ steps induction =>
      rw [readMembers, bind_eq_ok_iff] at read
      obtain ⟨next, found, read⟩ := read
      rcases (next_key_iff _ _ _).mp found with ⟨after, spaces, rfl⟩ | ⟨key, rfl, before⟩
      · cases read
        rw [close_object_iff, skip_spaces_cons spaces rfl] at closed
        cases closed
        exact ⟨[], entries_close first spaces, .nil _⟩
      · simp only [List.drop_one, List.tail_cons, bind_eq_ok_iff] at read
        obtain ⟨⟨name, afterKey⟩, quoted, ⟨next, others⟩, one, read⟩ := read
        obtain ⟨label, standing, one⟩ :=
          member_of_read reads key afterKey name state next quoted one
        have startShorter := before_length before
        have behindShorter := (member_stands value stands).shorter _ _ _ standing
        have fewer : others.length ≤ steps := by omega
        obtain ⟨members, more, later⟩ := induction false fewer next read
        exact ⟨label :: members, entries_entry before standing more, .cons one later⟩

/-- What is read to the end is an object of the grammar, each member of which made a step. -/
theorem object_of_read (stands : Stands value) (reads : ReadsBy value step member)
    (state grown : State) (read : readObject member state text = .ok (grown, rest)) :
    ∃ members, Enclosed '\x7d' (Member value) members text rest ∧
      Steps step members state grown := by
  simp only [readObject, bind_eq_ok_iff] at read
  obtain ⟨⟨gathered, behind⟩, read, ⟨_, after⟩, closed, same⟩ := read
  cases same
  exact entries_of_read stands reads true _ (Nat.le_refl _) state gathered behind read closed

/-- Whatever is read from behind a key on is a colon and a value of the grammar. -/
def Reads (member : String → State → Reader State) : Prop :=
  ∀ key state text grown rest, member key state text = .ok (grown, rest) →
    ∃ content colon start, Spaces text (':' :: colon) ∧ Spaces colon start ∧
      IsValue content start rest

theorem enclosed_of_read (reads : Reads member) (state grown : State)
    (read : readObject member state text = .ok (grown, rest)) :
    ∃ members, Enclosed '\x7d' (Member IsValue) members text rest := by
  have reads : ReadsBy IsValue (fun _ _ _ => True) member := by
    intro key state text grown rest read
    obtain ⟨content, colon, start, colonSpaces, spaces, standing⟩ := reads _ _ _ _ _ read
    exact ⟨content, colon, start, colonSpaces, spaces, standing, trivial⟩
  obtain ⟨members, enclosed, _⟩ := object_of_read value_stands reads state grown read
  exact ⟨members, enclosed⟩

end Back

end FlagBoard.Json
