import FlagBoard.Proofs.Json.Documents
import FlagBoard.Proofs.Json.Values
import Mathlib

/-!
The two ways of reading by a schema. Where no object has a key twice, a text is read by a schema
just as the value is taken that the text is read to: in the order of the text or of the keys, with
unknown members passed over or known by their names, it is refused both times or comes to the same.
-/

namespace FlagBoard.Json

section Outcomes

variable {Fault Item Result State : Type}

theorem map_toOption (outcome : Except Fault Item) (change : Item → Result) :
    (outcome.map change).toOption = outcome.toOption.map change := by
  cases outcome <;> rfl

theorem mapM_toOption (read : Item → Except Fault Result) (items : List Item) :
    (items.mapM read).toOption = items.mapM fun item => (read item).toOption := by
  induction items with
  | nil => rfl
  | cons item items induction =>
      rw [List.mapM_cons, List.mapM_cons, bind_toOption, ← induction]
      cases read item with
      | error fault => rfl
      | ok result => cases items.mapM read <;> rfl

theorem foldlM_toOption (step : State → Item → Except Fault State) (items : List Item)
    (state : State) :
    (items.foldlM step state).toOption =
      items.foldlM (fun state item => (step state item).toOption) state := by
  induction items generalizing state with
  | nil => rfl
  | cons item items induction =>
      rw [List.foldlM_cons, List.foldlM_cons, bind_toOption]
      cases step state item with
      | error fault => rfl
      | ok next => exact induction next

/-- Items of which any two may change places may come in any order. -/
theorem foldlM_perm {step : State → Item → Option State}
    (swap : ∀ state one other,
      (step state one).bind (step · other) = (step state other).bind (step · one))
    {first second : List Item} (order : first.Perm second) (state : State) :
    first.foldlM step state = second.foldlM step state := by
  induction order generalizing state with
  | nil => rfl
  | cons item _ induction =>
      rw [List.foldlM_cons, List.foldlM_cons]
      exact congrArg (step state item >>= ·) (funext induction)
  | swap one other items =>
      have both := congrArg (·.bind fun state => items.foldlM step state) (swap state other one)
      simpa only [List.foldlM_cons, Option.bind_eq_bind, Option.bind_assoc] using both
  | trans _ _ before after => exact (before state).trans (after state)

end Outcomes

section Members

theorem put_member_perm {key : String} {value : Json} {taken : List (String × Json)}
    (fresh : key ∉ taken.map Prod.fst) :
    (putMember key value taken).Perm ((key, value) :: taken) := by
  induction taken with
  | nil => exact .refl _
  | cons member taken induction =>
      rw [List.map_cons, List.mem_cons, not_or] at fresh
      rw [putMember]
      split
      · exact .refl _
      · rw [if_neg fresh.1]
        exact (List.Perm.cons member (induction fresh.2)).trans (.swap _ _ _)

/-- With keys of their own, arranged members are the same members in another order. -/
theorem arranged_members_perm_append (taken members : List (String × Json))
    (keys : ((members ++ taken).map Prod.fst).Nodup) :
    (arrangedMembers taken members).Perm
      (members.map (fun member => (member.1, member.2.arranged)) ++ taken) := by
  induction members generalizing taken with
  | nil => exact .refl _
  | cons member members induction =>
      obtain ⟨key, value⟩ := member
      rw [List.cons_append, List.map_cons, List.nodup_cons, List.map_append, List.mem_append,
        not_or] at keys
      have put : (putMember key value.arranged taken).Perm ((key, value.arranged) :: taken) :=
        put_member_perm keys.1.2
      have order : (members ++ putMember key value.arranged taken).Perm
          ((key, value.arranged) :: (members ++ taken)) :=
        (put.append_left members).trans List.perm_middle
      have later := induction (putMember key value.arranged taken)
        ((order.map Prod.fst).nodup_iff.mpr (List.nodup_cons.mpr
          ⟨by rw [List.map_append, List.mem_append, not_or]; exact keys.1, by simpa using keys.2⟩))
      rw [arrangedMembers, List.map_cons, List.cons_append]
      exact later.trans ((put.append_left _).trans List.perm_middle)

end Members

section Taking

def Fields.take (fields : Fields) (draft : fields.Draft) (member : String × Json) :
    Option fields.Draft :=
  (fields.putMember member.1 member.2 draft).toOption

variable {name : String} {aliases : List String} {required : Bool} {schema : Schema} {rest : Fields}
  {seen : Option schema.Value} {others : rest.Draft} {member : String × Json}

theorem take_mine (mine : member.1 = name ∨ member.1 ∈ aliases) :
    (Fields.field name aliases required schema rest).take (seen, others) member =
      if seen.isSome then none
      else (schema.readTree member.2).toOption.map fun value => (some value, others) := by
  simp only [Fields.take, Fields.putMember, if_pos mine]
  cases seen with
  | none => exact map_toOption _ _
  | some value => rfl

theorem take_other (foreign : ¬ (member.1 = name ∨ member.1 ∈ aliases)) :
    (Fields.field name aliases required schema rest).take (seen, others) member =
      (rest.take others member).map fun others => (seen, others) := by
  simp only [Fields.take, Fields.putMember, if_neg foreign]
  exact map_toOption _ _

/-- A member of a field and one of the other fields do not meet. -/
theorem take_mine_other {one other : String × Json} (mine : one.1 = name ∨ one.1 ∈ aliases)
    (foreign : ¬ (other.1 = name ∨ other.1 ∈ aliases))
    (draft : (Fields.field name aliases required schema rest).Draft) :
    let fields := Fields.field name aliases required schema rest
    (fields.take draft one).bind (fields.take · other) =
      (fields.take draft other).bind (fields.take · one) := by
  obtain ⟨seen, others⟩ := draft
  dsimp only
  rw [take_mine mine, take_other foreign]
  cases seen <;> cases read : (schema.readTree one.2).toOption <;>
    cases taken : rest.take others other <;>
      simp [take_mine mine, take_other foreign, read, taken]

/-- Whether two members are taken, and as what, does not depend on which comes first. -/
theorem take_swap : (fields : Fields) → (draft : fields.Draft) → (one other : String × Json) →
    (fields.take draft one).bind (fields.take · other) =
      (fields.take draft other).bind (fields.take · one)
  | .nil, _, _, _ => rfl
  | .field name aliases required schema rest, (seen, others), one, other => by
      by_cases first : one.1 = name ∨ one.1 ∈ aliases
      · by_cases second : other.1 = name ∨ other.1 ∈ aliases
        · rw [take_mine first, take_mine second]
          -- Only one of two members of one field is taken, so neither order comes to anything.
          cases seen <;> cases (schema.readTree one.2).toOption <;>
            cases (schema.readTree other.2).toOption <;>
              simp [take_mine first, take_mine second]
        · exact take_mine_other first second (seen, others)
      · by_cases second : other.1 = name ∨ other.1 ∈ aliases
        · exact (take_mine_other second first (seen, others)).symm
        · have later := congrArg (Option.map fun others => (seen, others))
            (take_swap rest others one other)
          rw [take_other first, take_other second, Option.bind_map, Option.bind_map]
          simpa only [Function.comp_def, take_other first, take_other second, Option.map_bind]
            using later

end Taking

theorem not_digit_head {c d : Char} {more others : List Char} (digit : isDigit c = true)
    (same : c :: more = d :: others) (plain : isDigit d = false) : False := by
  rw [(List.cons.inj same).1, plain] at digit
  cases digit

/-- How the text of a value begins and goes on, by the kind of the value. -/
inductive Opening (depth : Nat) (rest : List Char) : Json → List Char → Prop
  | null : Opening depth rest .null ('n' :: 'u' :: 'l' :: 'l' :: rest)
  | true : Opening depth rest (.bool true) ('t' :: 'r' :: 'u' :: 'e' :: rest)
  | false : Opening depth rest (.bool false) ('f' :: 'a' :: 'l' :: 's' :: 'e' :: rest)
  | negative {number : Number} {text : List Char}
      (read : readNumber Bool.true text = .ok (number, rest)) :
      Opening depth rest (.num number) ('-' :: text)
  | number {number : Number} {c : Char} {text : List Char} (digit : isDigit c = Bool.true)
      (read : readNumber Bool.false (c :: text) = .ok (number, rest)) :
      Opening depth rest (.num number) (c :: text)
  | str {string : String} {text : List Char} (read : readString text = .ok (string, rest)) :
      Opening depth rest (.str string) ('"' :: text)
  | arr {deeper : Nat} {items : List Json} {text : List Char} (deep : depth = deeper + 1)
      (enclosed : Enclosed ']' (Spelling deeper) items text rest) :
      Opening depth rest (.arr items) ('[' :: text)
  | obj {deeper : Nat} {given members : List (String × Json)} {text : List Char}
      (deep : depth = deeper + 1) (order : given.Perm members)
      (enclosed : Enclosed '\x7d' (fun member => Keyed member.1 (Spelling deeper member.2)) given
        text rest) :
      Opening depth rest (.obj members) ('\x7b' :: text)

section Openings

variable {depth : Nat} {value : Json} {text rest : List Char}

theorem flat_opening (flat : Flat value text rest) (ends : continuesNumber rest = false) :
    Opening depth rest value text := by
  cases flat with
  | null => exact .null
  | true => exact .true
  | false => exact .false
  | negative rest alone => exact .negative (read_number_longer alone ends)
  | number rest alone =>
      have read := read_number_longer alone ends
      obtain ⟨c, more, rfl, digit⟩ := unsigned_begins (unsigned_of_read alone)
      exact .number digit read
  | quoted quoted =>
      have whole := quoted
      obtain ⟨key, _, rfl, _⟩ := whole
      exact .str (ok_of_toOption _ _ (read_quoted quoted))

theorem spelling_opening (spelling : Spelling depth value text rest)
    (ends : continuesNumber rest = false) : Opening depth rest value text := by
  cases depth with
  | zero => exact flat_opening spelling ends
  | succ depth =>
      rcases spelling with flat | compound
      · exact flat_opening flat ends
      · cases compound with
        | list enclosed => exact .arr rfl enclosed
        | object order enclosed => exact .obj rfl order enclosed

/-- Only null begins with its first letter. -/
theorem opening_begins (opening : Opening depth rest value text) (some : value ≠ .null) :
    ∃ c more, text = c :: more ∧ isSpace c = false ∧ c ≠ 'n' := by
  cases opening with
  | null => exact absurd rfl some
  | number digit read =>
      refine ⟨_, _, rfl, visible_of_not_between (digit_not_between _ digit), ?_⟩
      rintro rfl
      cases digit
  | _ => exact ⟨_, _, rfl, rfl, by decide⟩

end Openings

/-- A text of a value is read by a schema just as the value is taken by it. -/
def Schema.Agrees (schema : Schema) : Prop :=
  ∀ depth value text start rest, Spaces text start → Spelling depth value start rest →
    value.Distinct → continuesNumber rest = false →
    (schema.read depth text).toOption =
      (schema.readTree value.arranged).toOption.map fun result => (result, rest)

def Fields.EachAgrees : Fields → Prop
  | .nil => True
  | .field _ _ _ schema rest => schema.Agrees ∧ rest.EachAgrees

section Schemas

/-- No schema minds the spaces in front of a value. -/
theorem read_skip (schema : Schema) (depth : Nat) {text start : List Char}
    (skipped : skipSpace text = start) (begins : skipSpace start = start) :
    schema.read depth text = schema.read depth start := by
  cases schema with
  | any => rw [Schema.read, Schema.read, readValue, readValue, skipped, begins]
  | _ => rw [Schema.read, Schema.read, skipped, begins]

/-- A schema agrees if it does where the reader stands at the value. -/
theorem agrees_of_opening {schema : Schema}
    (reads : ∀ depth value start rest, skipSpace start = start → Opening depth rest value start →
      value.Distinct →
      (schema.read depth start).toOption =
        (schema.readTree value.arranged).toOption.map fun result => (result, rest)) :
    schema.Agrees := by
  intro depth value text start rest spaces spelling distinct ends
  obtain ⟨c, more, rfl, apart⟩ := (spelling_stands depth).begins _ _ _ spelling
  have visible := visible_of_not_between apart
  have begins := skip_spaces_cons (spaces_refl (c :: more)) visible
  rw [read_skip schema depth (skip_spaces_cons spaces visible) begins]
  exact reads depth value _ rest begins (spelling_opening spelling ends) distinct

theorem text_agrees : Schema.text.Agrees := by
  apply agrees_of_opening
  intro depth value start rest begins opening distinct
  rw [Schema.read, begins]
  cases opening with
  | str read =>
      change (readString _).toOption = _
      rw [read]
      rfl
  | number digit read =>
      split
      case h_1 same => exact (not_digit_head digit same rfl).elim
      case h_2 => rfl
  | _ => rfl

theorem flag_agrees : Schema.flag.Agrees := by
  apply agrees_of_opening
  intro depth value start rest begins opening distinct
  rw [Schema.read, begins]
  cases opening with
  | number digit read =>
      split
      case h_1 same => exact (not_digit_head digit same rfl).elim
      case h_2 same => exact (not_digit_head digit same rfl).elim
      case h_3 => rfl
  | _ => rfl

/-- A number is narrowed when it is read as it is when it is taken. -/
theorem narrowed_agrees (schema : Schema) (wanted : Wanted)
    (narrow : Number → Except Mismatch schema.Value)
    (read : ∀ depth text, schema.read depth text = readNarrowed wanted narrow (skipSpace text))
    (taken : ∀ number, schema.readTree (.num number) = narrow number)
    (refused : ∀ value : Json, (∀ number, value ≠ .num number) →
      (schema.readTree value).toOption = none) : schema.Agrees := by
  apply agrees_of_opening
  intro depth value start rest begins opening distinct
  rw [read, begins]
  cases opening with
  | negative read =>
      rw [arranged, taken, readNarrowed]
      change (readNumber true _ >>= _).toOption = _
      rw [read, ok_bind]
      dsimp only
      cases narrow _ <;> rfl
  | @number number c more digit read =>
      have notMinus : c ≠ '-' := by
        rintro rfl
        cases digit
      rw [arranged, taken, readNarrowed]
      simp only [if_neg notMinus, if_pos digit, read, ok_bind]
      cases narrow number <;> rfl
  | _ => rw [refused _ (by intro number same; cases same)]; rfl

theorem natural_agrees : Schema.natural.Agrees := by
  apply narrowed_agrees .natural .natural Number.toNatural
  · exact fun depth text => by rw [Schema.read]
  · exact fun number => by rw [Schema.readTree]
  · intro value none
    cases value with
    | num number => exact absurd rfl (none number)
    | _ => rfl

theorem integer_agrees : Schema.integer.Agrees := by
  apply narrowed_agrees .integer .integer Number.toInteger
  · exact fun depth text => by rw [Schema.read]
  · exact fun number => by rw [Schema.readTree]
  · intro value none
    cases value with
    | num number => exact absurd rfl (none number)
    | _ => rfl

theorem any_agrees : Schema.any.Agrees := by
  intro depth value text start rest spaces spelling distinct ends
  rw [Schema.read, read_value_skip depth spaces, read_spelling depth spelling distinct ends]
  rfl

theorem optional_agrees {inner : Schema} (agrees : inner.Agrees) :
    (Schema.optional inner).Agrees := by
  intro depth value text start rest spaces spelling distinct ends
  have opening := spelling_opening spelling ends
  by_cases null : value = .null
  · subst null
    cases opening with
    | null =>
        rw [Schema.read, skip_spaces_cons spaces rfl]
        rfl
  · obtain ⟨c, more, rfl, visible, notNull⟩ := opening_begins opening null
    have read := agrees depth value _ _ rest (spaces_refl _) spelling distinct ends
    have taken : (Schema.optional inner).readTree value.arranged =
        (inner.readTree value.arranged).map some := by
      cases value with
      | null => exact absurd rfl null
      | _ => simp only [arranged, Schema.readTree]
    rw [read_optional_other inner depth c more spaces visible notNull, bind_toOption, read, taken,
      map_toOption]
    cases (inner.readTree value.arranged).toOption <;> rfl

theorem items_agree {item : Schema} (agrees : item.Agrees) {depth : Nat} {items : List Json}
    {text rest : List Char} (enclosed : Enclosed ']' (Spelling depth) items text rest)
    (distinct : ∀ item ∈ items, item.Distinct) :
    (readList (item.read depth) text).toOption =
      ((arrangedItems items).mapM item.readTree).toOption.map fun values => (values, rest) := by
  have listed := read_list_along (spelling_stands depth) enclosed
    fun label member text behind spelling ends =>
      agrees depth label text text behind (spaces_refl _) spelling (distinct label member) ends
  rw [listed, mapM_toOption, arranged_items, List.mapM_map]
  rfl

theorem list_agrees {item : Schema} (agrees : item.Agrees) : (Schema.list item).Agrees := by
  apply agrees_of_opening
  intro depth value start rest begins opening distinct
  rw [Schema.read, begins]
  cases opening with
  | arr deep enclosed =>
      subst deep
      cases distinct with
      | arr items each => exact items_agree agrees enclosed each
  | number digit read =>
      split
      case h_1 same => exact (not_digit_head digit same rfl).elim
      case h_2 => rfl
  | _ => rfl

theorem list_or_null_agrees {item : Schema} (agrees : item.Agrees) :
    (Schema.listOrNull item).Agrees := by
  apply agrees_of_opening
  intro depth value start rest begins opening distinct
  rw [Schema.read, begins]
  cases opening with
  | null => rfl
  | arr deep enclosed =>
      subst deep
      cases distinct with
      | arr items each => exact items_agree agrees enclosed each
  | number digit read =>
      split
      case h_1 same => exact (not_digit_head digit same rfl).elim
      case h_2 same => exact (not_digit_head digit same rfl).elim
      case h_3 => rfl
  | _ => rfl

end Schemas

section Records

variable {depth : Nat} {text start rest : List Char}

theorem member_agrees : (fields : Fields) → fields.EachAgrees → (key : String) → (value : Json) →
    (draft : fields.Draft) → (colon : List Char) → readColon text = .ok ((), colon) →
    Spaces colon start → Spelling depth value start rest → value.Distinct →
    continuesNumber rest = false →
    (fields.readMember depth key draft text).toOption =
      (fields.take draft (key, value.arranged)).map fun draft => (draft, rest)
  | .nil, _, key, value, (), colon, separated, spaces, spelling, distinct, ends => by
      -- A member of no field is passed over, and what can be read can be passed over.
      have read := read_spelling depth spelling distinct ends
      obtain ⟨content, inner, moreSpaces, standing⟩ := read_value_nested depth start _ rest read
      have passed := skip_value_complete (spaces_trans spaces moreSpaces) ⟨depth, standing⟩ ends
      simp only [Fields.readMember, separated, ok_bind, passed]
      rfl
  | .field name aliases required schema others, ⟨agrees, each⟩, key, value, (seen, draft), colon,
      separated, spaces, spelling, distinct, ends => by
      by_cases mine : key = name ∨ key ∈ aliases
      · have read := agrees depth value colon start rest spaces spelling distinct ends
        rw [take_mine mine]
        cases seen with
        | some seen =>
            simp only [Fields.readMember, if_pos mine]
            rfl
        | none =>
            simp only [Fields.readMember, if_pos mine, separated, ok_bind, bind_toOption, read]
            cases (schema.readTree value.arranged).toOption <;> rfl
      · have later := member_agrees others each key value draft colon separated spaces spelling
          distinct ends
        rw [take_other mine]
        simp only [Fields.readMember, if_neg mine, bind_toOption, later]
        cases others.take draft (key, value.arranged) <;> rfl

/-- Where another item stands, a list is not closed. -/
theorem close_list_of_before {first : Bool} {c : Char} {more : List Char}
    (before : Before first text (c :: more)) (apart : isBetween c = false) :
    (closeList text).toOption = none := by
  cases closed : (closeList text).toOption with
  | none => rfl
  | some read =>
      obtain ⟨⟨⟩, behind⟩ := read
      have bracket := (close_list_iff _ _).mp (ok_of_toOption _ _ closed)
      cases first with
      | true =>
          rw [skip_spaces_cons before (visible_of_not_between apart)] at bracket
          rw [(List.cons.inj bracket).1] at apart
          cases apart
      | false =>
          obtain ⟨comma, spaces, _⟩ := before
          rw [skip_spaces_cons spaces rfl] at bracket
          cases bracket

def Fields.readListed (fields : Fields) (title : String) (total place depth : Nat)
    (text : List Char) : Option (fields.Value × List Char) :=
  (fields.readPlaces title total place depth text).toOption.bind fun read =>
    (closeList read.2).toOption.map fun closed => (read.1, closed.2)

section Listed

variable {name title : String} {aliases : List String} {required : Bool} {schema : Schema}
  {others : Fields} {total place : Nat}

theorem listed_absent (next : nextItem (place == 0) text = .ok none) :
    (Fields.field name aliases required schema others).readListed title total place depth text =
      if required then none
      else (others.readListed title total (place + 1) depth text).map fun read =>
        ((schema.absent, read.1), read.2) := by
  rw [Fields.readListed, Fields.readPlaces, next, ok_bind, Fields.readListed]
  dsimp only
  cases required with
  | true => rfl
  | false =>
      cases others.readPlaces title total (place + 1) depth text with
      | error fault => rfl
      | ok read =>
          change (closeList read.2).toOption.map _ = ((closeList read.2).toOption.map _).map _
          rw [Option.map_map]
          rfl

theorem listed_item (next : nextItem (place == 0) text = .ok (some start)) :
    (Fields.field name aliases required schema others).readListed title total place depth text =
      (schema.read depth start).toOption.bind fun first =>
        (others.readListed title total (place + 1) depth first.2).map fun read =>
          ((first.1, read.1), read.2) := by
  rw [Fields.readListed, Fields.readPlaces, next, ok_bind]
  dsimp only
  cases schema.read depth start with
  | error fault => rfl
  | ok first =>
      rw [ok_bind]
      change _ = Option.map _ (others.readListed title total (place + 1) depth first.2)
      rw [Fields.readListed]
      cases others.readPlaces title total (place + 1) depth first.2 with
      | error fault => rfl
      | ok read =>
          change (closeList read.2).toOption.map _ = ((closeList read.2).toOption.map _).map _
          rw [Option.map_map]
          rfl

end Listed

/-- The items of a list are read by place as they are taken, and too many are refused both times. -/
theorem listed_agree : (fields : Fields) → fields.EachAgrees → (title : String) →
    (total place : Nat) → (text : List Char) → (items : List Json) →
    Entries ']' (Spelling depth) (place == 0) items text rest →
    (∀ item ∈ items, item.Distinct) →
    fields.readListed title total place depth text =
      (fields.readItems title total place (arrangedItems items)).toOption.bind fun values =>
        if items.length ≤ fields.count then some (values, rest) else none
  | .nil, _, title, total, place, text, items, entries, _ => by
      rw [Fields.readListed, Fields.readPlaces, Fields.readItems]
      change (closeList text).toOption.map _ = _
      rcases entries_cases entries with
        ⟨rfl, spaces⟩ | ⟨item, others, start, behind, rfl, before, standing, more⟩
      · rw [(close_list_iff text rest).mpr (skip_spaces_cons spaces rfl)]
        rfl
      · obtain ⟨c, inner, rfl, apart⟩ := (spelling_stands depth).begins _ _ _ standing
        rw [close_list_of_before before apart]
        rfl
  | .field name aliases required schema others, ⟨agrees, each⟩, title, total, place, text, items,
      entries, distinct => by
      rcases entries_cases entries with
        ⟨rfl, spaces⟩ | ⟨item, items, start, behind, rfl, before, standing, more⟩
      · have later := listed_agree others each title total (place + 1) text []
          (entries_close _ spaces) distinct
        rw [listed_absent (next_item_none _ (skip_spaces_cons spaces rfl)), later, arrangedItems,
          Fields.readItems]
        cases required with
        | true => rfl
        | false => cases others.readItems title total (place + 1) [] <;> rfl
      · rw [List.forall_mem_cons] at distinct
        have later := listed_agree others each title total (place + 1) behind items more distinct.2
        have read := agrees depth item start start behind (spaces_refl _) standing distinct.1
          (more_ends rfl more)
        obtain ⟨c, inner, rfl, apart⟩ := (spelling_stands depth).begins _ _ _ standing
        rw [listed_item (next_item_of_before before apart), read, arrangedItems, Fields.readItems]
        cases schema.readTree item.arranged with
        | error mismatch => rfl
        | ok value =>
            change Option.map _ (others.readListed title total (place + 1) depth behind) = _
            rw [later, ok_bind]
            cases others.readItems title total (place + 1) (arrangedItems items) with
            | error mismatch => rfl
            | ok values => simp [Except.toOption, Fields.count]

theorem draft_agrees {fields : Fields} (each : fields.EachAgrees)
    {given members : List (String × Json)} (order : given.Perm members)
    (enclosed : Enclosed '\x7d' (fun member => Keyed member.1 (Spelling depth member.2)) given text
      rest)
    (keys : (members.map Prod.fst).Nodup) (distinct : ∀ member ∈ members, member.2.Distinct) :
    (readObject (fun key draft => fields.readMember depth key draft) fields.empty text).toOption =
      ((arrangedMembers [] members).foldlM fields.take fields.empty).map
        fun draft => (draft, rest) := by
  have follows (member : String × Json) (isGiven : member ∈ given) :
      Follows (fun member : String × Json => Keyed member.1 (Spelling depth member.2))
        (fun key draft => fields.readMember depth key draft)
        (fun draft member => fields.take draft (member.1, member.2.arranged)) member := by
    intro draft text behind keyed ends
    obtain ⟨begin, afterKey, colon, start, rfl, quoted, separated, spaces, standing⟩ :=
      keyed_read keyed
    refine ⟨begin, rfl, ?_⟩
    rw [quoted, ok_bind]
    exact member_agrees fields each member.1 member.2 draft colon separated spaces standing
      (distinct member (order.mem_iff.mp isGiven)) ends
  have gathered := read_object_along (members_stand (spelling_stands depth)) enclosed follows
    fields.empty
  -- The text gives the members in any order, the value in the order of their keys.
  have sorted : (given.map fun member => (member.1, member.2.arranged)).Perm
      (arrangedMembers [] members) := by
    have arranged := arranged_members_perm_append [] members (by rwa [List.append_nil])
    rw [List.append_nil] at arranged
    exact (order.map _).trans arranged.symm
  rw [gathered, ← foldlM_perm (take_swap fields) sorted, List.foldlM_map]

theorem read_record_list (title : String) (fields : Fields) (depth : Nat) (text : List Char) :
    ((Schema.record title fields).read (depth + 1) ('[' :: text)).toOption =
      fields.readListed title fields.count 0 depth text := by
  rw [Schema.read]
  change (fields.readPlaces title fields.count 0 depth text >>= _).toOption = _
  rw [bind_toOption, Fields.readListed]
  cases fields.readPlaces title fields.count 0 depth text with
  | error fault => rfl
  | ok read =>
      change (closeList read.2 >>= _).toOption = (closeList read.2).toOption.map _
      cases closeList read.2 <;> rfl

theorem record_agrees (title : String) {fields : Fields} (each : fields.EachAgrees) :
    (Schema.record title fields).Agrees := by
  apply agrees_of_opening
  intro depth value start rest begins opening distinct
  cases opening with
  | @arr depth items text deep enclosed =>
      subst deep
      cases distinct with
      | arr items distinct =>
          have few : fields.count < (arrangedItems items).length ↔
              ¬ items.length ≤ fields.count := by
            rw [arranged_items, List.length_map, Nat.not_le]
          rw [read_record_list, listed_agree fields each title _ 0 text items enclosed distinct,
            arranged, Schema.readTree, bind_toOption]
          cases (fields.readItems title fields.count 0 (arrangedItems items)).toOption with
          | none => rfl
          | some values =>
              dsimp only [Option.bind_some]
              by_cases fit : items.length ≤ fields.count
              · rw [if_pos fit, if_neg (few.not.mpr (not_not.mpr fit))]
                rfl
              · rw [if_neg fit, if_pos (few.mpr fit)]
                rfl
  | @obj depth given members text deep order enclosed =>
      subst deep
      cases distinct with
      | obj members keys distinct =>
          have gathered := draft_agrees each order enclosed keys distinct
          have taken := foldlM_toOption (fun draft (member : String × Json) =>
            fields.putMember member.1 member.2 draft) (arrangedMembers [] members) fields.empty
          rw [read_record_object title fields depth text (spaces_refl _), bind_toOption, gathered,
            arranged, Schema.readTree, bind_toOption, taken]
          change _ = ((List.foldlM fields.take fields.empty _).bind _).map _
          cases (arrangedMembers [] members).foldlM fields.take fields.empty with
          | none => rfl
          | some draft =>
              dsimp only [Option.map_some, Option.bind_some]
              cases fields.finish draft <;> rfl
  | number digit read =>
      rw [Schema.read, begins]
      split
      case h_1 same => exact (not_digit_head digit same rfl).elim
      case h_2 same => exact (not_digit_head digit same rfl).elim
      case h_3 => rfl
  | _ =>
      rw [Schema.read, begins]
      rfl

end Records

mutual

/-- A text of a value whose keys are all apart is read by a schema as the value is taken by it. -/
theorem schema_agrees : (schema : Schema) → schema.Agrees
  | .text => text_agrees
  | .flag => flag_agrees
  | .natural => natural_agrees
  | .integer => integer_agrees
  | .any => any_agrees
  | .optional inner => optional_agrees (schema_agrees inner)
  | .list item => list_agrees (schema_agrees item)
  | .listOrNull item => list_or_null_agrees (schema_agrees item)
  | .record title fields => record_agrees title (fields_agree fields)

theorem fields_agree : (fields : Fields) → fields.EachAgrees
  | .nil => trivial
  | .field _ _ _ schema rest => ⟨schema_agrees schema, fields_agree rest⟩

end

end FlagBoard.Json
