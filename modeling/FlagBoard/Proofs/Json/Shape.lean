import FlagBoard.Json.Schema
import Mathlib

/-!
What it means for a value to have a shape, said without reading it. A record holds a field under one
of its names or, in a list, in its place; it has its shape if every field that must be there is held
once, and every other at most once. Taking a value by a schema succeeds exactly on such values.
-/

namespace FlagBoard.Json

/-- What a value holds for a field of a record: the members under one of its names, or the item in
its place. -/
def held (place : Nat) (names : List String) : Json → List Json
  | .arr items => items[place]?.toList
  | .obj members => (members.filter fun member => member.1 ∈ names).map Prod.snd
  | _ => []

/-- Values that may stand for a record of some number of fields. -/
def IsRecord (count : Nat) : Json → Prop
  | .arr items => items.length ≤ count
  | .obj _ => True
  | _ => False

def IsText (json : Json) (text : String) : Prop := json = .str text

def IsFlag (json : Json) (flag : Bool) : Prop := json = .bool flag

def IsNatural (json : Json) (number : UInt32) : Prop := json = .num (.natural number.toNat)

/-- A number written with digits and perhaps a minus, within 32 bits. -/
def IsInteger (json : Json) (number : Int32) : Prop :=
  ∃ size : Nat, (json = .num (.natural size) ∧ number.toInt = size) ∨
    (json = .num (.negative size) ∧ number.toInt = -size)

section Combined

variable {Value : Type} (shape : Json → Value → Prop)

def IsOptional (json : Json) : Option Value → Prop
  | none => json = .null
  | some value => json ≠ .null ∧ shape json value

def IsList (json : Json) (values : List Value) : Prop :=
  ∃ items, json = .arr items ∧ List.Forall₂ shape items values

def IsListOrNull (json : Json) (values : List Value) : Prop :=
  (json = .null ∧ values = []) ∨ IsList shape json values

/-- A field that must be given: it is held once, and has the shape. -/
def Given (held : List Json) (value : Value) : Prop := ∃ json, held = [json] ∧ shape json value

def Defaulted (default : Value) (held : List Json) (value : Value) : Prop :=
  (held = [] ∧ value = default) ∨ Given shape held value

end Combined

mutual

/-- A value has the shape of a schema, and stands for what the schema is read into. -/
def Schema.Fits : (schema : Schema) → Json → schema.Value → Prop
  | .text => IsText
  | .flag => IsFlag
  | .natural => IsNatural
  | .integer => IsInteger
  | .any => Eq
  | .optional inner => IsOptional inner.Fits
  | .list item => IsList item.Fits
  | .listOrNull item => IsListOrNull item.Fits
  | .record _ fields => fun json values => json.IsRecord fields.count ∧ fields.Fit 0 json values

/-- A value holds all fields of a record, from a place on. -/
def Fields.Fit : (fields : Fields) → Nat → Json → fields.Value → Prop
  | .nil, _, _, () => True
  | .field name aliases required schema rest, place, json, (value, values) =>
      (if required then Given schema.Fits (json.held place (name :: aliases)) value
        else Defaulted schema.Fits schema.absent (json.held place (name :: aliases)) value) ∧
      rest.Fit (place + 1) json values

end

def Fields.names : Fields → List String
  | .nil => []
  | .field name aliases _ _ rest => name :: aliases ++ rest.names

mutual

/-- No two fields of a record share a name. -/
def Schema.Separate : Schema → Prop
  | .text | .flag | .natural | .integer | .any => True
  | .optional inner => inner.Separate
  | .list item => item.Separate
  | .listOrNull item => item.Separate
  | .record _ fields => fields.Separate

def Fields.Separate : Fields → Prop
  | .nil => True
  | .field name aliases _ schema rest =>
      schema.Separate ∧ (∀ key ∈ name :: aliases, key ∉ rest.names) ∧ rest.Separate

end

section Outcomes

variable {Fault First Second : Type}

@[simp] theorem ok_bind (value : First) (next : First → Except Fault Second) :
    (Except.ok value >>= next) = next value := rfl

theorem bind_eq_ok_iff (first : Except Fault First) (next : First → Except Fault Second)
    (result : Second) :
    first >>= next = .ok result ↔ ∃ value, first = .ok value ∧ next value = .ok result := by
  cases first with
  | error fault => simp [bind, Except.bind]
  | ok value => simp

theorem map_eq_ok_iff (first : Except Fault First) (change : First → Second) (result : Second) :
    first.map change = .ok result ↔ ∃ value, first = .ok value ∧ change value = result := by
  cases first <;> simp [Except.map]

theorem mapM_eq_ok_iff (read : First → Except Fault Second) (items : List First)
    (values : List Second) :
    items.mapM read = .ok values ↔
      List.Forall₂ (fun item value => read item = .ok value) items values := by
  induction items generalizing values with
  | nil => simp [pure, Except.pure, eq_comm]
  | cons item items induction =>
      simp only [List.mapM_cons, bind_eq_ok_iff, induction, List.forall₂_cons_left_iff]
      constructor
      · rintro ⟨value, first, rest, later, same⟩
        cases same
        exact ⟨value, rest, first, later, rfl⟩
      · rintro ⟨value, rest, first, later, rfl⟩
        exact ⟨value, first, rest, later, rfl⟩

end Outcomes

theorem to_natural_eq_ok_iff (number : Number) (value : UInt32) :
    number.toNatural = .ok value ↔ number = .natural value.toNat := by
  cases number with
  | natural size =>
      have bound := value.toNat_lt
      simp only [Number.toNatural, Number.natural.injEq]
      split_ifs with small
      · simp only [Except.ok.injEq, ← UInt32.toNat_inj, Nat.toUInt32_eq, UInt32.toNat_ofNat',
          Nat.mod_eq_of_lt small]
      · simp only [false_iff]
        omega
  | negative size => simp [Number.toNatural]
  | floating size => simp [Number.toNatural]

theorem to_integer_eq_ok_iff (number : Number) (value : Int32) :
    number.toInteger = .ok value ↔ IsInteger (.num number) value := by
  have least := value.le_toInt
  have most := value.toInt_lt
  cases number with
  | natural size =>
      simp only [Number.toInteger, IsInteger, num.injEq, Number.natural.injEq, reduceCtorEq,
        false_and, or_false, exists_eq_left']
      split_ifs with small
      · have same : (Int32.ofNat size).toInt = size := Int32.toInt_ofNat_of_lt small
        simp only [Except.ok.injEq, ← Int32.toInt_inj, same, eq_comm]
      · simp only [false_iff]
        omega
  | negative size =>
      simp only [Number.toInteger, IsInteger, num.injEq, Number.negative.injEq, reduceCtorEq,
        false_and, false_or, exists_eq_left']
      split_ifs with small
      · have same : (Int32.ofInt (-(size : Int))).toInt = -(size : Int) :=
          Int32.toInt_ofInt_of_le (by omega) (by omega)
        simp only [Except.ok.injEq, ← Int32.toInt_inj, same, eq_comm]
      · simp only [false_iff]
        omega
  | floating size => simp [Number.toInteger, IsInteger]

/-- Taking a value by a schema succeeds exactly on the values of its shape. -/
def Schema.Exact (schema : Schema) : Prop :=
  ∀ json value, schema.readTree json = .ok value ↔ schema.Fits json value

def Fields.EachExact : Fields → Prop
  | .nil => True
  | .field _ _ _ schema rest => schema.Exact ∧ rest.EachExact

/-- What an object holds for a field: nothing yet, or one value of its shape. -/
def Seen {Value : Type} (shape : Json → Value → Prop) (held : List Json) : Option Value → Prop
  | none => held = []
  | some value => Given shape held value

/-- A draft has seen what an object holds for each of the fields. -/
def Fields.Gathered (members : List (String × Json)) : (fields : Fields) → fields.Draft → Prop
  | .nil, () => True
  | .field name aliases _ schema rest, (seen, others) =>
      Seen schema.Fits ((Json.obj members).held 0 (name :: aliases)) seen ∧
        rest.Gathered members others

/-- Takes the members that one field is held under, of which there may be one. -/
def takeOnce (schema : Schema) (name : String) (seen : Option schema.Value) (json : Json) :
    Except Mismatch (Option schema.Value) :=
  match seen with
  | some _ => .error (.repeatedField name)
  | none => (schema.readTree json).map some

theorem take_once_eq_ok_iff (schema : Schema) (exact : schema.Exact) (name : String)
    (held : List Json) (seen : Option schema.Value) :
    held.foldlM (takeOnce schema name) none = .ok seen ↔ Seen schema.Fits held seen := by
  match held with
  | [] => cases seen <;> simp [Seen, Given, pure, Except.pure]
  | [json] =>
      simp only [List.foldlM_cons, List.foldlM_nil, takeOnce, bind_eq_ok_iff, map_eq_ok_iff,
        exact json, pure, Except.pure, Except.ok.injEq]
      cases seen <;> simp [Seen, Given]
  | first :: second :: rest =>
      have repeated (value : schema.Value) :
          (second :: rest).foldlM (takeOnce schema name) (some value) ≠ .ok seen := by
        simp [takeOnce, bind_eq_ok_iff]
      rw [List.foldlM_cons, bind_eq_ok_iff]
      constructor
      · rintro ⟨taken, read, later⟩
        obtain ⟨value, _, rfl⟩ := (map_eq_ok_iff _ _ _).mp read
        exact absurd later (repeated value)
      · intro held
        cases seen <;> simp [Seen, Given] at held

/-- A member under an unknown name changes nothing. -/
theorem put_unknown_member : (fields : Fields) → (key : String) → (json : Json) →
    (draft : fields.Draft) → key ∉ fields.names → fields.putMember key json draft = .ok draft
  | .nil, _, _, (), _ => rfl
  | .field name aliases required schema rest, key, json, (seen, others), unknown => by
      simp only [Fields.names, List.cons_append, List.mem_cons, List.mem_append, not_or] at unknown
      have other : ¬ (key = name ∨ key ∈ aliases) := not_or.mpr ⟨unknown.1, unknown.2.1⟩
      simp only [Fields.putMember, if_neg other,
        put_unknown_member rest key json others unknown.2.2, Except.map]

/-- The members of an object go to a field and to the other fields apart from each other. -/
theorem fold_members_field (name : String) (aliases : List String) (required : Bool)
    (schema : Schema) (rest : Fields) (apart : ∀ key ∈ name :: aliases, key ∉ rest.names)
    (members : List (String × Json)) (seen seen' : Option schema.Value)
    (others others' : rest.Draft) :
    members.foldlM (fun draft member =>
        (Fields.field name aliases required schema rest).putMember member.1 member.2 draft)
        (seen, others) = .ok (seen', others') ↔
      ((Json.obj members).held 0 (name :: aliases)).foldlM (takeOnce schema name) seen = .ok seen' ∧
      members.foldlM (fun draft member => rest.putMember member.1 member.2 draft) others =
        .ok others' := by
  induction members generalizing seen others with
  | nil => simp [held, pure, Except.pure]
  | cons member members induction =>
      obtain ⟨key, json⟩ := member
      simp only [held] at induction ⊢
      by_cases mine : key ∈ name :: aliases
      · have taken : key = name ∨ key ∈ aliases := List.mem_cons.mp mine
        have put : (Fields.field name aliases required schema rest).putMember key json
            (seen, others) = (takeOnce schema name seen json).map fun seen => (seen, others) := by
          simp only [Fields.putMember, if_pos taken, takeOnce]
          cases seen with
          | some value => rfl
          | none => cases schema.readTree json <;> rfl
        simp only [List.foldlM_cons, put, put_unknown_member rest key json others (apart key mine),
          List.filter_cons, decide_eq_true mine, if_true, List.map_cons, ok_bind, bind_eq_ok_iff,
          map_eq_ok_iff]
        constructor
        · rintro ⟨_, ⟨next, first, rfl⟩, later⟩
          obtain ⟨held, kept⟩ := (induction next others).mp later
          exact ⟨⟨next, first, held⟩, kept⟩
        · rintro ⟨⟨next, first, held⟩, kept⟩
          exact ⟨_, ⟨next, first, rfl⟩, (induction next others).mpr ⟨held, kept⟩⟩
      · have passed : ¬ (key = name ∨ key ∈ aliases) := fun taken => mine (List.mem_cons.mpr taken)
        simp only [List.foldlM_cons, Fields.putMember, if_neg passed, List.filter_cons,
          decide_eq_false mine, Bool.false_eq_true, if_false, bind_eq_ok_iff, map_eq_ok_iff]
        constructor
        · rintro ⟨_, ⟨next, first, rfl⟩, later⟩
          obtain ⟨held, kept⟩ := (induction seen next).mp later
          exact ⟨held, next, first, kept⟩
        · rintro ⟨held, next, first, kept⟩
          exact ⟨_, ⟨next, first, rfl⟩, (induction seen next).mpr ⟨held, kept⟩⟩

theorem fold_members_eq_ok_iff : (fields : Fields) → fields.EachExact → fields.Separate →
    (members : List (String × Json)) → (draft : fields.Draft) →
    (members.foldlM (fun draft member => fields.putMember member.1 member.2 draft) fields.empty =
      .ok draft ↔ fields.Gathered members draft)
  | .nil, _, _, members, () => by
      have unread : ∀ members : List (String × Json),
          members.foldlM (fun draft member => Fields.nil.putMember member.1 member.2 draft) () =
            .ok () := by
        intro members
        induction members with
        | nil => rfl
        | cons member members induction => exact induction
      simp only [Fields.Gathered, iff_true]
      exact unread members
  | .field name aliases required schema rest, exact, separate, members, (seen, others) => by
      rw [Fields.empty, fold_members_field name aliases required schema rest separate.2.1,
        take_once_eq_ok_iff schema exact.1,
        fold_members_eq_ok_iff rest exact.2 separate.2.2 members others]
      rfl

/-- Where every field is held as it should be, the record is complete. -/
theorem finish_eq_ok_iff : (fields : Fields) → (members : List (String × Json)) → (place : Nat) →
    (values : fields.Value) →
    ((∃ draft, fields.Gathered members draft ∧ fields.finish draft = .ok values) ↔
      fields.Fit place (.obj members) values)
  | .nil, _, _, () => by simp [Fields.Gathered, Fields.finish, Fields.Fit]
  | .field name aliases required schema rest, members, place, (value, values) => by
      have later := finish_eq_ok_iff rest members (place + 1) values
      have sameHeld : (Json.obj members).held place (name :: aliases) =
          (Json.obj members).held 0 (name :: aliases) := rfl
      rw [Fields.Fit, ← later, sameHeld]
      constructor
      · rintro ⟨⟨seen, others⟩, ⟨held, gathered⟩, finished⟩
        cases seen with
        | some seen =>
            simp only [Fields.finish, map_eq_ok_iff] at finished
            obtain ⟨_, finished, same⟩ := finished
            cases same
            refine ⟨?_, others, gathered, finished⟩
            cases required
            · exact Or.inr held
            · exact held
        | none =>
            cases required
            · simp only [Fields.finish, Bool.false_eq_true, if_false, map_eq_ok_iff] at finished
              obtain ⟨_, finished, same⟩ := finished
              cases same
              exact ⟨Or.inl ⟨held, rfl⟩, others, gathered, finished⟩
            · simp [Fields.finish] at finished
      · rintro ⟨fits, others, gathered, finished⟩
        cases required
        · rcases fits with ⟨absent, rfl⟩ | given
          · exact ⟨(none, others), ⟨absent, gathered⟩,
              by simp [Fields.finish, finished, Except.map]⟩
          · exact ⟨(some value, others), ⟨given, gathered⟩,
              by simp [Fields.finish, finished, Except.map]⟩
        · exact ⟨(some value, others), ⟨fits, gathered⟩,
            by simp [Fields.finish, finished, Except.map]⟩

/-- Takes a record from a list: every field from the item in its place. -/
theorem read_items_eq_ok_iff : (fields : Fields) → fields.EachExact → (title : String) →
    (total place : Nat) → (items : List Json) → (values : fields.Value) →
    (fields.readItems title total place (items.drop place) = .ok values ↔
      fields.Fit place (.arr items) values)
  | .nil, _, _, _, _, _, () => by simp [Fields.readItems, Fields.Fit]
  | .field name aliases required schema rest, exact, title, total, place, items,
      (value, values) => by
      have later := read_items_eq_ok_iff rest exact.2 title total (place + 1) items values
      by_cases inside : place < items.length
      · have held : (Json.arr items).held place (name :: aliases) = [items[place]] := by
          simp [held, inside]
        have given : Given schema.Fits [items[place]] value ↔ schema.Fits items[place] value := by
          simp [Given]
        have defaulted : Defaulted schema.Fits schema.absent [items[place]] value ↔
            schema.Fits items[place] value := by
          simp [Defaulted, given]
        rw [List.drop_eq_getElem_cons inside, Fields.readItems, Fields.Fit, held, given, defaulted,
          ite_self, ← later]
        simp only [bind_eq_ok_iff, exact.1 items[place]]
        constructor
        · rintro ⟨_, first, _, rest, same⟩
          cases same
          exact ⟨first, rest⟩
        · rintro ⟨first, rest⟩
          exact ⟨value, first, values, rest, rfl⟩
      · have held : (Json.arr items).held place (name :: aliases) = [] := by
          simp [held, List.getElem?_eq_none (Nat.le_of_not_lt inside)]
        have ended : items.drop place = [] := List.drop_eq_nil_of_le (by omega)
        have endedNext : items.drop (place + 1) = [] := List.drop_eq_nil_of_le (by omega)
        rw [endedNext] at later
        rw [ended, Fields.readItems, Fields.Fit, held, ← later]
        cases required
        · simp only [Bool.false_eq_true, if_false, map_eq_ok_iff]
          constructor
          · rintro ⟨_, rest, same⟩
            cases same
            exact ⟨Or.inl ⟨rfl, rfl⟩, rest⟩
          · rintro ⟨⟨_, rfl⟩ | ⟨_, impossible, _⟩, rest⟩
            · exact ⟨values, rest, rfl⟩
            · cases impossible
        · simp [Given]

mutual

theorem schema_exact : (schema : Schema) → schema.Separate → schema.Exact
  | .text, _, json, value => by
      cases json <;> simp [Schema.readTree, Schema.Fits, IsText]
  | .flag, _, json, value => by
      cases json <;> simp [Schema.readTree, Schema.Fits, IsFlag]
  | .natural, _, json, value => by
      cases json <;> simp [Schema.readTree, Schema.Fits, IsNatural, to_natural_eq_ok_iff]
  | .integer, _, json, value => by
      cases json with
      | num number => exact to_integer_eq_ok_iff number value
      | _ => simp [Schema.readTree, Schema.Fits, IsInteger]
  | .any, _, json, value => by
      simp [Schema.readTree, Schema.Fits]
  | .optional inner, separate, json, value => by
      have exact := schema_exact inner separate
      cases json <;> cases value <;>
        simp [Schema.readTree, Schema.Fits, IsOptional, map_eq_ok_iff, exact _ _]
  | .list item, separate, json, values => by
      have exact := schema_exact item separate
      cases json <;> simp [Schema.readTree, Schema.Fits, IsList, mapM_eq_ok_iff, exact _ _]
  | .listOrNull item, separate, json, values => by
      have exact := schema_exact item separate
      cases json with
      | null => simp [Schema.readTree, Schema.Fits, IsListOrNull, IsList, eq_comm]
      | arr items =>
          simp [Schema.readTree, Schema.Fits, IsListOrNull, IsList, mapM_eq_ok_iff, exact _ _]
      | _ => simp [Schema.readTree, Schema.Fits, IsListOrNull, IsList]
  | .record title fields, separate, json, values => by
      have exact := fields_each_exact fields separate
      cases json with
      | arr items =>
          have read := read_items_eq_ok_iff fields exact title fields.count 0 items values
          rw [List.drop_zero] at read
          simp only [Schema.readTree, Schema.Fits, IsRecord, bind_eq_ok_iff, ← read]
          by_cases long : fields.count < items.length
          · simp [long, Nat.not_le.mpr long]
          · simp [long, Nat.le_of_not_lt long]
      | obj members =>
          have folded := fold_members_eq_ok_iff fields exact separate members
          have finished := finish_eq_ok_iff fields members 0 values
          simp only [Schema.readTree, Schema.Fits, IsRecord, true_and, bind_eq_ok_iff, ← finished,
            folded]
          have unwrap (draft : fields.Draft) :
              (fields.finish draft).mapError Mismatch.missingField = .ok values ↔
                fields.finish draft = .ok values := by
            cases fields.finish draft <;> simp [Except.mapError]
          simp only [unwrap]
      | _ => simp [Schema.readTree, Schema.Fits, IsRecord]

theorem fields_each_exact : (fields : Fields) → fields.Separate → fields.EachExact
  | .nil, _ => trivial
  | .field _ _ _ schema rest, separate =>
      ⟨schema_exact schema separate.1, fields_each_exact rest separate.2.2⟩

end

end FlagBoard.Json
