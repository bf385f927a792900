import FlagBoard.Proofs.Json.Literals
import FlagBoard.Proofs.Json.Printing
import FlagBoard.Proofs.Json.Record
import Mathlib

/-!
The texts of a value. They differ in the spaces between tokens, the order of members, the escapes of
strings and the digits of numbers. As long as no object has a key twice, the value is read from each
of them, with the members of its objects in the order of their keys.
-/

namespace FlagBoard.Json

mutual

/-- A value with the members of all its objects in the order of their keys. -/
def arranged : Json → Json
  | .arr items => .arr (arrangedItems items)
  | .obj members => .obj (arrangedMembers [] members)
  | .null => .null
  | .bool flag => .bool flag
  | .num number => .num number
  | .str text => .str text

def arrangedItems : List Json → List Json
  | [] => []
  | item :: items => item.arranged :: arrangedItems items

/-- Puts arranged members one after the other among those that stand there. -/
def arrangedMembers : List (String × Json) → List (String × Json) → List (String × Json)
  | taken, [] => taken
  | taken, (key, value) :: members => arrangedMembers (putMember key value.arranged taken) members

end

theorem arranged_items (items : List Json) : arrangedItems items = items.map arranged := by
  induction items with
  | nil => rfl
  | cons item items induction => rw [arrangedItems, induction, List.map_cons]

section Order

theorem put_member_comm {first second : String} (apart : first ≠ second) (one other : Json)
    (members : List (String × Json)) :
    putMember first one (putMember second other members) =
      putMember second other (putMember first one members) := by
  induction members with
  | nil => grind [putMember]
  -- The cases are how the first member's key compares with the two keys.
  | cons member members induction => grind [putMember]

theorem arranged_members_eq_foldl (taken members : List (String × Json)) :
    arrangedMembers taken members =
      members.foldl (fun taken member => putMember member.1 member.2.arranged taken) taken := by
  induction members generalizing taken with
  | nil => rw [arrangedMembers, List.foldl_nil]
  | cons member members induction =>
      obtain ⟨key, value⟩ := member
      rw [arrangedMembers, List.foldl_cons, induction]

theorem put_all_members (taken members : List (String × Json)) :
    members.foldlM (fun taken member => some (putMember member.1 member.2.arranged taken)) taken =
      some (arrangedMembers taken members) := by
  rw [arranged_members_eq_foldl]
  exact List.foldlM_pure

/-- Members with keys of their own may come in any order. -/
theorem arranged_members_perm {given members : List (String × Json)} (order : given.Perm members)
    (distinct : (members.map Prod.fst).Nodup) :
    arrangedMembers [] given = arrangedMembers [] members := by
  rw [arranged_members_eq_foldl, arranged_members_eq_foldl]
  apply order.foldl_eq'
  intro first isFirst second isSecond taken
  by_cases same : first.1 = second.1
  · have keys : (given.map Prod.fst).Nodup := (order.map Prod.fst).nodup_iff.mpr distinct
    rw [List.inj_on_of_nodup_map keys isFirst isSecond same]
  · exact put_member_comm (Ne.symm same) _ _ _

end Order

/-- No object in a value has a key twice. -/
inductive Distinct : Json → Prop
  | null : Distinct .null
  | bool (flag : Bool) : Distinct (.bool flag)
  | num (number : Number) : Distinct (.num number)
  | str (text : String) : Distinct (.str text)
  | arr (items : List Json) (each : ∀ item ∈ items, Distinct item) : Distinct (.arr items)
  | obj (members : List (String × Json)) (keys : (members.map Prod.fst).Nodup)
      (each : ∀ member ∈ members, Distinct member.2) : Distinct (.obj members)

/-- Values without lists and objects. A number stands as a text that alone is read as it; all texts
of numbers are that are not too great (`flat_of_amount`). -/
inductive Flat : Json → Rule
  | null (rest : List Char) : Flat .null ('n' :: 'u' :: 'l' :: 'l' :: rest) rest
  | true (rest : List Char) : Flat (.bool true) ('t' :: 'r' :: 'u' :: 'e' :: rest) rest
  | false (rest : List Char) : Flat (.bool false) ('f' :: 'a' :: 'l' :: 's' :: 'e' :: rest) rest
  | negative {literal : List Char} {number : Number} (rest : List Char)
      (alone : readNumber true literal = .ok (number, [])) :
      Flat (.num number) ('-' :: (literal ++ rest)) rest
  | number {literal : List Char} {number : Number} (rest : List Char)
      (alone : readNumber false literal = .ok (number, [])) :
      Flat (.num number) (literal ++ rest) rest
  | quoted {string : String} {text rest : List Char} (quoted : Quoted (some string) text rest) :
      Flat (.str string) text rest

/-- A member with a given key. -/
def Keyed (key : String) (value : Rule) : Rule := fun text rest =>
  ∃ afterKey colon start, Quoted (some key) text afterKey ∧ Spaces afterKey (':' :: colon) ∧
    Spaces colon start ∧ value start rest

/-- Lists, and objects with their members in any order. -/
inductive Compound (spelling : Json → Rule) : Json → Rule
  | list {items : List Json} {text rest : List Char}
      (enclosed : Enclosed ']' spelling items text rest) :
      Compound spelling (.arr items) ('[' :: text) rest
  | object {given members : List (String × Json)} {text rest : List Char}
      (order : given.Perm members)
      (enclosed : Enclosed '\x7d' (fun member => Keyed member.1 (spelling member.2)) given text
        rest) :
      Compound spelling (.obj members) ('\x7b' :: text) rest

/-- The texts of a value in which lists and objects are nested to a given depth at most. -/
def Spelling : Nat → Json → Rule
  | 0, value => Flat value
  | depth + 1, value => fun text rest =>
      Flat value text rest ∨ Compound (Spelling depth) value text rest

section Beginnings

variable {value : Json} {text rest : List Char}

theorem flat_begins (flat : Flat value text rest) :
    ∃ c start, text = c :: start ∧ isBetween c = false := by
  cases flat with
  | null rest => exact ⟨'n', _, rfl, rfl⟩
  | true rest => exact ⟨'t', _, rfl, rfl⟩
  | false rest => exact ⟨'f', _, rfl, rfl⟩
  | negative rest alone => exact ⟨'-', _, rfl, rfl⟩
  | number rest alone =>
      obtain ⟨c, more, rfl, digit⟩ := unsigned_begins (unsigned_of_read alone)
      exact ⟨c, more ++ rest, rfl, digit_not_between c digit⟩
  | quoted quoted =>
      obtain ⟨start, _, begins, _⟩ := quoted
      exact ⟨'"', start, begins, rfl⟩

theorem flat_shorter (flat : Flat value text rest) : rest.length < text.length := by
  cases flat with
  | null rest => simp only [List.length_cons]; omega
  | true rest => simp only [List.length_cons]; omega
  | false rest => simp only [List.length_cons]; omega
  | negative rest alone => simp only [List.length_cons, List.length_append]; omega
  | number rest alone =>
      obtain ⟨c, more, rfl, _⟩ := unsigned_begins (unsigned_of_read alone)
      simp only [List.length_append, List.length_cons]
      omega
  | quoted quoted => exact quoted_shorter quoted

theorem keyed_stands {Label : Type} {key : Label → String} {value : Label → Rule}
    (shorter : ∀ label text rest, value label text rest → rest.length < text.length) :
    Stands fun label => Keyed (key label) (value label) where
  begins := by
    intro label text rest keyed
    obtain ⟨_, _, _, ⟨start, _, begins, _⟩, _⟩ := keyed
    exact ⟨'"', start, begins, rfl⟩
  shorter := by
    intro label text rest keyed
    obtain ⟨afterKey, colon, start, quoted, spaces, moreSpaces, standing⟩ := keyed
    have first := quoted_shorter quoted
    have second := spaces_length spaces
    have third := spaces_length moreSpaces
    have last := shorter label _ _ standing
    rw [List.length_cons] at second
    omega

theorem members_stand {spelling : Json → Rule} (stands : Stands spelling) :
    Stands fun member : String × Json => Keyed member.1 (spelling member.2) :=
  keyed_stands fun member => stands.shorter member.2

theorem spelling_stands (depth : Nat) : Stands (Spelling depth) := by
  induction depth with
  | zero => exact ⟨fun _ _ _ => flat_begins, fun _ _ _ => flat_shorter⟩
  | succ depth induction =>
      constructor
      case begins =>
        intro value text rest spelling
        cases spelling with
        | inl flat => exact flat_begins flat
        | inr compound =>
            cases compound with
            | list enclosed => exact ⟨'[', _, rfl, rfl⟩
            | object order enclosed => exact ⟨'\x7b', _, rfl, rfl⟩
      case shorter =>
        intro value text rest spelling
        cases spelling with
        | inl flat => exact flat_shorter flat
        | inr compound =>
            cases compound with
            | list enclosed =>
                exact (entries_shorter true induction enclosed).trans (Nat.lt_succ_self _)
            | object order enclosed =>
                exact (entries_shorter true (members_stand induction) enclosed).trans
                  (Nat.lt_succ_self _)

end Beginnings

section Labels

variable {Label Other : Type} {close : Char} {entry : Label → Rule} {next : Other → Rule}
  {related : Label → Other → Prop} {labels : List Label} {text rest : List Char}

theorem more_relabel (plain : continuesNumber [close] = false)
    (more : More close entry labels text rest)
    (each : ∀ label ∈ labels, ∀ text behind, entry label text behind →
      continuesNumber behind = false → ∃ other, related label other ∧ next other text behind) :
    ∃ others, List.Forall₂ related labels others ∧ More close next others text rest := by
  induction more with
  | close spaces => exact ⟨[], .nil, .close spaces⟩
  | entry spaces moreSpaces first more induction =>
      rw [List.forall_mem_cons] at each
      obtain ⟨other, one, standing⟩ := each.1 _ _ first (more_ends plain more)
      obtain ⟨others, all, more⟩ := induction each.2
      exact ⟨other :: others, .cons one all, .entry spaces moreSpaces standing more⟩

/-- Entries may be told by other labels, as long as each stands in its place by another rule. -/
theorem enclosed_relabel (plain : continuesNumber [close] = false)
    (enclosed : Enclosed close entry labels text rest)
    (each : ∀ label ∈ labels, ∀ text behind, entry label text behind →
      continuesNumber behind = false → ∃ other, related label other ∧ next other text behind) :
    ∃ others, List.Forall₂ related labels others ∧ Enclosed close next others text rest := by
  cases enclosed with
  | close spaces => exact ⟨[], .nil, .close spaces⟩
  | entry spaces first more =>
      rw [List.forall_mem_cons] at each
      obtain ⟨other, one, standing⟩ := each.1 _ _ first (more_ends plain more)
      obtain ⟨others, all, more⟩ := more_relabel plain more each.2
      exact ⟨other :: others, .cons one all, .entry spaces standing more⟩

end Labels

section Items

variable {Label Value : Type} {entry : Label → Rule} {item : Reader Value}
  {read : Label → Option Value} {labels : List Label} {text rest : List Char}

theorem next_item_of_before {first : Bool} {c : Char} {more : List Char}
    (before : Before first text (c :: more)) (apart : isBetween c = false) :
    nextItem first text = .ok (some (c :: more)) := by
  have visible := visible_of_not_between apart
  have notBracket : c ≠ ']' := by
    intro same
    rw [same] at apart
    cases apart
  cases first with
  | true => simp [nextItem, skip_spaces_cons before visible, notBracket]
  | false =>
      obtain ⟨comma, spaces, moreSpaces⟩ := before
      simp [nextItem, skip_spaces_cons spaces rfl, skip_spaces_cons moreSpaces visible, notBracket]

/-- Items are read one after the other, up to the closing bracket. -/
theorem read_items_along (stands : Stands entry) (first : Bool)
    (entries : Entries ']' entry first labels text rest)
    (reads : ∀ label ∈ labels, ∀ text behind, entry label text behind →
      continuesNumber behind = false →
      (item text).toOption = (read label).map fun value => (value, behind))
    (steps : Nat) (enough : text.length ≤ steps) :
    (readItems item steps first text).toOption =
      (labels.mapM read).map fun values => (values, ']' :: rest) := by
  induction steps generalizing first labels text with
  | zero =>
      have shorter := entries_shorter first stands entries
      omega
  | succ steps induction =>
      rcases entries_cases entries with
        ⟨rfl, spaces⟩ | ⟨label, others, start, behind, rfl, before, standing, more⟩
      · have bracket := skip_spaces_cons spaces rfl
        rw [readItems, next_item_none first bracket, bracket]
        rfl
      · rw [List.forall_mem_cons] at reads
        have one := reads.1 start behind standing (more_ends rfl more)
        have startShorter := before_length before
        have behindShorter := stands.shorter _ _ _ standing
        have later := induction false more reads.2 (by omega)
        obtain ⟨c, inner, rfl, apart⟩ := stands.begins _ _ _ standing
        rw [readItems, next_item_of_before before apart, ok_bind]
        simp only [bind_toOption, one, List.mapM_cons]
        cases read label with
        | none => rfl
        | some value =>
            simp only [Option.map_some, Option.bind_some, later]
            cases others.mapM read <;> rfl

/-- A list is read item by item. -/
theorem read_list_along (stands : Stands entry) (enclosed : Enclosed ']' entry labels text rest)
    (reads : ∀ label ∈ labels, ∀ text behind, entry label text behind →
      continuesNumber behind = false →
      (item text).toOption = (read label).map fun value => (value, behind)) :
    (readList item text).toOption = (labels.mapM read).map fun values => (values, rest) := by
  rw [readList, bind_toOption,
    read_items_along stands true enclosed reads _ (Nat.le_refl _)]
  cases labels.mapM read <;> rfl

/-- A list of which every item can be read is read to the end. -/
theorem read_list_whole {whole : Label → Value} (stands : Stands entry)
    (enclosed : Enclosed ']' entry labels text rest)
    (reads : ∀ label ∈ labels, ∀ text behind, entry label text behind →
      continuesNumber behind = false → item text = .ok (whole label, behind)) :
    readList item text = .ok (labels.map whole, rest) := by
  have each : ∀ label ∈ labels, ∀ text behind, entry label text behind →
      continuesNumber behind = false →
      (item text).toOption = (some (whole label)).map fun value => (value, behind) := by
    intro label member text behind standing ends
    rw [reads label member text behind standing ends]
    rfl
  have read := read_list_along stands enclosed each
  have all : labels.mapM (fun label => some (whole label)) = some (labels.map whole) :=
    List.mapM_pure
  rw [all] at read
  exact ok_of_toOption _ _ read

end Items

section Reading

variable {text start rest : List Char}

theorem read_value_skip (depth : Nat) (spaces : Spaces text start) :
    readValue depth text = readValue depth start := by
  rw [readValue, readValue, skip_spaces spaces]

theorem keyed_read {key : String} {value : Rule} (keyed : Keyed key value text rest) :
    ∃ begin afterKey colon start, text = '"' :: begin ∧ readString begin = .ok (key, afterKey) ∧
      readColon afterKey = .ok ((), colon) ∧ Spaces colon start ∧ value start rest := by
  obtain ⟨afterKey, colon, start, quoted, colonSpaces, spaces, standing⟩ := keyed
  have whole := quoted
  obtain ⟨begin, _, rfl, _⟩ := whole
  exact ⟨begin, afterKey, colon, start, rfl, ok_of_toOption _ _ (read_quoted quoted),
    (read_colon_iff _ _).mpr (skip_spaces_cons colonSpaces rfl), spaces, standing⟩

theorem read_value_digit (depth : Nat) {c : Char} {more : List Char} (digit : isDigit c = true) :
    readValue depth (c :: more) = (do
      let (number, rest) ← readNumber false (c :: more)
      .ok (.num number, rest)) := by
  have visible := visible_of_not_between (digit_not_between c digit)
  have other (d : Char) (outside : isDigit d = false) : c ≠ d := by
    intro same
    rw [same, outside] at digit
    cases digit
  rw [readValue, skip_spaces_cons (spaces_refl _) visible]
  simp only [if_neg (other 'n' rfl), if_neg (other 't' rfl), if_neg (other 'f' rfl),
    if_neg (other '-' rfl), if_pos digit]

theorem read_flat {value : Json} (depth : Nat) (flat : Flat value text rest)
    (ends : continuesNumber rest = false) :
    readValue depth text = .ok (value.arranged, rest) := by
  cases flat with
  | null rest =>
      rw [readValue]
      rfl
  | true rest =>
      rw [readValue]
      rfl
  | false rest =>
      rw [readValue]
      rfl
  | negative rest alone =>
      have read := read_number_longer alone ends
      rw [readValue]
      change (readNumber true _ >>= _) = _
      rw [read]
      rfl
  | number rest alone =>
      have read := read_number_longer alone ends
      obtain ⟨c, more, rfl, digit⟩ := unsigned_begins (unsigned_of_read alone)
      rw [List.cons_append] at read ⊢
      rw [read_value_digit depth digit, read]
      rfl
  | quoted quoted =>
      have whole := quoted
      obtain ⟨key, _, rfl, _⟩ := whole
      have read := ok_of_toOption _ _ (read_quoted quoted)
      rw [readValue]
      change (readString key >>= _) = _
      rw [read]
      rfl

theorem read_value_list (depth : Nat) (text : List Char) :
    (readValue (depth + 1) ('[' :: text)).toOption =
      (readList (readValue depth) text).toOption.map fun read => (.arr read.1, read.2) := by
  rw [readValue]
  change (readList (readValue depth) _ >>= _).toOption = _
  cases readList (readValue depth) text <;> rfl

theorem read_value_object (depth : Nat) (text : List Char) :
    (readValue (depth + 1) ('\x7b' :: text)).toOption =
      (readObject (readMember depth) [] text).toOption.map fun read => (.obj read.1, read.2) := by
  rw [readValue]
  change (readObject (readMember depth) [] _ >>= _).toOption = _
  cases readObject (readMember depth) [] text <;> rfl

/-- A member whose value is read, or cannot be, is taken by what is read. -/
theorem keyed_follows {Label : Type} {depth : Nat} (key : Label → String) (value : Label → Rule)
    (result : Label → Option Json) (label : Label)
    (read : ∀ text behind, value label text behind → continuesNumber behind = false →
      (readValue depth text).toOption = (result label).map fun value => (value, behind)) :
    Follows (fun label => Keyed (key label) (value label)) (readMember depth)
      (fun taken label => (result label).map fun value => putMember (key label) value taken)
      label := by
  intro taken text behind keyed ends
  obtain ⟨begin, afterKey, colon, start, rfl, quoted, separated, spaces, standing⟩ :=
    keyed_read keyed
  refine ⟨begin, rfl, ?_⟩
  rw [quoted, ok_bind]
  simp only [readMember, separated, ok_bind, read_value_skip depth spaces, bind_toOption,
    read start behind standing ends]
  cases result label <;> rfl

/-- Whatever text a value is spelled by, it is read from it with its members in order. -/
theorem read_spelling (depth : Nat) {value : Json} (spelling : Spelling depth value text rest)
    (distinct : value.Distinct) (ends : continuesNumber rest = false) :
    readValue depth text = .ok (value.arranged, rest) := by
  induction depth generalizing value text rest with
  | zero => exact read_flat 0 spelling ends
  | succ depth induction =>
      rcases spelling with flat | compound
      · exact read_flat (depth + 1) flat ends
      · apply ok_of_toOption
        cases compound with
        | list enclosed =>
            cases distinct with
            | arr items each =>
                have listed := read_list_whole (spelling_stands depth) enclosed
                  (fun item member text behind spelling ends =>
                    induction spelling (each item member) ends)
                rw [read_value_list, listed, arranged, arranged_items]
                rfl
        | object order enclosed =>
            cases distinct with
            | obj members keys each =>
                have follows (member : String × Json) (given : member ∈ _) :
                    Follows (fun member : String × Json => Keyed member.1
                      (Spelling depth member.2)) (readMember depth)
                      (fun taken member => some (putMember member.1 member.2.arranged taken))
                      member :=
                  keyed_follows Prod.fst (fun member => Spelling depth member.2)
                    (fun member => some member.2.arranged) member
                    fun text behind spelling ends => congrArg Except.toOption
                      (induction spelling (each member (order.mem_iff.mp given)) ends)
                have gathered := read_object_along (members_stand (spelling_stands depth)) enclosed
                  follows []
                rw [put_all_members, arranged_members_perm order keys] at gathered
                rw [read_value_object, gathered, arranged]
                rfl

/-- A text of some value from which the given one is read. -/
def ReadAs (depth : Nat) (read : Json) : Rule := fun text rest =>
  (∃ value, Spelling depth value text rest) ∧ readValue depth text = .ok (read, rest)

theorem read_as_stands (depth : Nat) : Stands (ReadAs depth) where
  begins := fun _ text rest ⟨⟨value, spelling⟩, _⟩ =>
    (spelling_stands depth).begins value text rest spelling
  shorter := fun _ text rest ⟨⟨value, spelling⟩, _⟩ =>
    (spelling_stands depth).shorter value text rest spelling

/-- From a text of a value something is read in any case, also if an object has a key twice. -/
theorem some_read_spelling (depth : Nat) {value : Json}
    (spelling : Spelling depth value text rest) (ends : continuesNumber rest = false) :
    ∃ read, readValue depth text = .ok (read, rest) := by
  induction depth generalizing value text rest with
  | zero => exact ⟨_, read_flat 0 spelling ends⟩
  | succ depth induction =>
      -- Of two members with one key the last counts, so entries are told by what is read of them.
      have found {value : Json} {text rest : List Char} (spelling : Spelling depth value text rest)
          (ends : continuesNumber rest = false) : ∃ read, ReadAs depth read text rest := by
        obtain ⟨read, same⟩ := induction spelling ends
        exact ⟨read, ⟨value, spelling⟩, same⟩
      rcases spelling with flat | compound
      · exact ⟨_, read_flat (depth + 1) flat ends⟩
      · cases compound with
        | @list items _ _ enclosed =>
            have each : ∀ item ∈ items, ∀ text behind, Spelling depth item text behind →
                continuesNumber behind = false → ∃ read, True ∧ ReadAs depth read text behind := by
              intro item member text behind spelling ends
              obtain ⟨read, standing⟩ := found spelling ends
              exact ⟨read, trivial, standing⟩
            obtain ⟨reads, _, enclosed⟩ := enclosed_relabel rfl enclosed each
            have listed := read_list_whole (read_as_stands depth) enclosed
              fun read member text behind standing ends => standing.2
            refine ⟨.arr reads, ok_of_toOption _ _ ?_⟩
            rw [read_value_list, listed, List.map_id']
            rfl
        | @object members _ _ _ order enclosed =>
            have each : ∀ member ∈ members, ∀ text behind,
                Keyed member.1 (Spelling depth member.2) text behind →
                continuesNumber behind = false → ∃ read : String × Json, True ∧
                  Keyed read.1 (ReadAs depth read.2) text behind := by
              rintro member given text behind ⟨afterKey, colon, start, quoted, gap, spaces,
                spelling⟩ ends
              obtain ⟨read, standing⟩ := found spelling ends
              exact ⟨(member.1, read), trivial, afterKey, colon, start, quoted, gap, spaces,
                standing⟩
            obtain ⟨reads, _, enclosed⟩ := enclosed_relabel rfl enclosed each
            have follows (member : String × Json) (given : member ∈ reads) :=
              keyed_follows Prod.fst (fun member => ReadAs depth member.2)
                (fun member => some member.2) member
                fun text behind standing ends => congrArg Except.toOption standing.2
            have gathered := read_object_along (members_stand (read_as_stands depth)) enclosed
              follows []
            obtain ⟨taken, all⟩ : ∃ taken, reads.foldlM (fun taken member =>
                (some member.2).map fun value => putMember member.1 value taken) [] =
                  some taken := ⟨_, List.foldlM_pure⟩
            refine ⟨.obj taken, ok_of_toOption _ _ ?_⟩
            rw [read_value_object, gathered, all]
            rfl

end Reading

section Printing

theorem quoted_print (string : String) (rest : List Char) :
    Quoted (some string) (printString string ++ rest) rest :=
  quoted_of_read string (read_printed_string string rest)

theorem keyed_print (key : String) {value : Rule} {text rest : List Char}
    (standing : value text rest) : Keyed key value (printString key ++ ':' :: text) rest :=
  ⟨_, _, _, quoted_print key _, spaces_refl _, spaces_refl _, standing⟩

variable {Label : Type} {entry : Label → Rule} {labels : List Label}

theorem more_print_items {items : List Json}
    (each : List.Forall₂ (fun item label => ∀ rest, entry label (item.print ++ rest) rest) items
      labels)
    (rest : List Char) : More ']' entry labels (followItems items ++ rest) rest := by
  induction each with
  | nil => exact .close (spaces_refl _)
  | cons first _ induction =>
      rw [follow_items_cons, List.cons_append, List.append_assoc]
      exact .entry (spaces_refl _) (spaces_refl _) (first _) induction

/-- Written items stand in a list by whatever rule each of them stands by. -/
theorem enclosed_print_items {items : List Json}
    (each : List.Forall₂ (fun item label => ∀ rest, entry label (item.print ++ rest) rest) items
      labels)
    (rest : List Char) : Enclosed ']' entry labels (printItems items ++ rest) rest := by
  cases each with
  | nil => exact .close (spaces_refl _)
  | cons first others =>
      rw [print_items_cons, List.append_assoc]
      exact .entry (spaces_refl _) (first _) (more_print_items others rest)

theorem more_print_members {members : List (String × Json)}
    (each : List.Forall₂ (fun member label => ∀ rest, entry label
      (printString member.1 ++ ':' :: (member.2.print ++ rest)) rest) members labels)
    (rest : List Char) : More '\x7d' entry labels (followMembers members ++ rest) rest := by
  induction each with
  | nil => exact .close (spaces_refl _)
  | cons first _ induction =>
      rw [follow_members_cons]
      simp only [List.cons_append, List.append_assoc]
      exact .entry (spaces_refl _) (spaces_refl _) (first _) induction

theorem enclosed_print_members {members : List (String × Json)}
    (each : List.Forall₂ (fun member label => ∀ rest, entry label
      (printString member.1 ++ ':' :: (member.2.print ++ rest)) rest) members labels)
    (rest : List Char) : Enclosed '\x7d' entry labels (printMembers members ++ rest) rest := by
  cases each with
  | nil => exact .close (spaces_refl _)
  | cons first others =>
      rw [print_members_cons]
      simp only [List.cons_append, List.append_assoc]
      exact .entry (spaces_refl _) (first _) (more_print_members others rest)

theorem spelling_flat {value : Json} {text rest : List Char} (depth : Nat)
    (flat : Flat value text rest) : Spelling depth value text rest := by
  cases depth with
  | zero => exact flat
  | succ depth => exact .inl flat

/-- What is written for a value is one of its texts. -/
theorem spelling_print {depth : Nat} {value : Json} (readable : Readable depth value)
    (rest : List Char) : Spelling depth value (value.print ++ rest) rest := by
  induction readable generalizing rest with
  | null => exact spelling_flat _ (.null rest)
  | bool flag =>
      cases flag with
      | true => exact spelling_flat _ (.true rest)
      | false => exact spelling_flat _ (.false rest)
  | natural number fits =>
      rw [print, natural_text]
      apply spelling_flat
      exact .number rest ((read_number_natural_iff _ _ _ _).mpr
        ⟨rfl, (List.append_nil _).symm, fits, rfl⟩)
  | str text => exact spelling_flat _ (.quoted (quoted_print text rest))
  | arr items each induction =>
      rw [print]
      exact .inr (.list (enclosed_print_items (List.forall₂_same.mpr induction) rest))
  | obj members each induction =>
      rw [print]
      have keyed : ∀ member ∈ members, ∀ rest, Keyed member.1 (Spelling _ member.2)
          (printString member.1 ++ ':' :: (member.2.print ++ rest)) rest :=
        fun member given rest => keyed_print member.1 (induction member given rest)
      exact .inr (.object (.refl _)
        (enclosed_print_members (List.forall₂_same.mpr keyed) rest))

end Printing

end FlagBoard.Json
