import FlagBoard.Json.Skip
import FlagBoard.Json.Tree

/-!
The shapes that values are read into. A schema is read in two ways: from a text, where every fault
has a place, and from a value that was read before, whose members come in the order of their keys.
A record may stand as an object or as the list of its fields. Unknown members are passed over, a
field that is absent takes its default if it has one, and a field may be given only once.
-/

namespace FlagBoard.Json

mutual

inductive Schema
  | text
  | flag
  | natural
  | integer
  | any
  | optional (inner : Schema)
  | list (item : Schema)
  /-- A list for which `null` may stand when it is empty. -/
  | listOrNull (item : Schema)
  | record (title : String) (fields : Fields)

/-- The fields of a record in order, each with its name, the other names it goes by, and whether
it must be present. -/
inductive Fields
  | nil
  | field (name : String) (aliases : List String) (required : Bool) (schema : Schema)
      (rest : Fields)

end

mutual

/-- What a schema is read into. -/
@[reducible] def Schema.Value : Schema → Type
  | .text => String
  | .flag => Bool
  | .natural => UInt32
  | .integer => Int32
  | .any => Json
  | .optional inner => Option inner.Value
  | .list item => List item.Value
  | .listOrNull item => List item.Value
  | .record _ fields => fields.Value

/-- The fields of a record as a nested pair. -/
@[reducible] def Fields.Value : Fields → Type
  | .nil => Unit
  | .field _ _ _ schema rest => schema.Value × rest.Value

end

/-- The fields that have been seen so far. -/
@[reducible] def Fields.Draft : Fields → Type
  | .nil => Unit
  | .field _ _ _ schema rest => Option schema.Value × rest.Draft

namespace Fields

def empty : (fields : Fields) → fields.Draft
  | .nil => ()
  | .field _ _ _ _ rest => (none, rest.empty)

def count : Fields → Nat
  | .nil => 0
  | .field _ _ _ _ rest => rest.count + 1

end Fields

mutual

def Schema.absent : (schema : Schema) → schema.Value
  | .text => ""
  | .flag => false
  | .natural => (0 : UInt32)
  | .integer => (0 : Int32)
  | .any => Json.null
  | .optional _ => none
  | .list _ => []
  | .listOrNull _ => []
  | .record _ fields => fields.absent

def Fields.absent : (fields : Fields) → fields.Value
  | .nil => ()
  | .field _ _ _ schema rest => (schema.absent, rest.absent)

end

/-- The record of the fields seen, or the name of the first that is missing. -/
def Fields.finish : (fields : Fields) → fields.Draft → Except String fields.Value
  | .nil, () => .ok ()
  | .field name _ required schema rest, (seen, others) =>
      match seen with
      | some value => (rest.finish others).map fun values => (value, values)
      | none =>
          if required then .error name
          else (rest.finish others).map fun values => (schema.absent, values)

def Number.toNatural : Number → Except Mismatch UInt32
  | .natural n =>
      if n < 0x100000000 then .ok n.toUInt32 else .error (.outOfRange (.natural n) .natural)
  | .negative n => .error (.outOfRange (.negative n) .natural)
  | .floating x => .error (.wrongKind (.number (.floating x)) .natural)

def Number.toInteger : Number → Except Mismatch Int32
  | .natural n =>
      if n < 0x80000000 then .ok (Int32.ofNat n) else .error (.outOfRange (.natural n) .integer)
  | .negative n =>
      if n ≤ 0x80000000 then .ok (Int32.ofInt (-(n : Int)))
      else .error (.outOfRange (.negative n) .integer)
  | .floating x => .error (.wrongKind (.number (.floating x)) .integer)

/-! Reading from a text. -/

/-- The fault of a value of the wrong kind. A scalar is read to its end first, and a fault inside
it comes before the other. -/
def wrongKind (wanted : Wanted) : List Char → Fault
  | [] => .here .endInValue []
  | c :: rest =>
      let report {Value : Type} (found : Value → Found) : Except Fault (Value × List Char) → Fault
        | .error fault => fault
        | .ok (value, rest) => .shape (.wrongKind (found value) wanted) rest
      if c = 'n' then report (fun _ => .null) (readWord ['u', 'l', 'l'] rest)
      else if c = 't' then report (fun _ => .bool true) (readWord ['r', 'u', 'e'] rest)
      else if c = 'f' then report (fun _ => .bool false) (readWord ['a', 'l', 's', 'e'] rest)
      else if c = '-' then report .number (readNumber true rest)
      else if isDigit c then report .number (readNumber false (c :: rest))
      else if c = '"' then report .text (readString rest)
      else if c = '[' then .shape (.wrongKind .list wanted) (c :: rest)
      else if c = '\x7b' then .shape (.wrongKind .object wanted) (c :: rest)
      else .next .noValue (c :: rest)

def readNarrowed {Value : Type} (wanted : Wanted) (narrow : Number → Except Mismatch Value) :
    Reader Value := fun text => do
  let (number, rest) ←
    match text with
    | [] => .error (.here .endInValue [])
    | c :: rest =>
        if c = '-' then readNumber true rest
        else if isDigit c then readNumber false (c :: rest)
        else .error (wrongKind wanted (c :: rest))
  match narrow number with
  | .ok value => .ok (value, rest)
  | .error mismatch => .error (.shape mismatch rest)

/-- A mismatch noticed between the members of an object: its place is behind the spaces that
follow, and behind the closing brace if that comes next. -/
def mismatchInObject (mismatch : Mismatch) (text : List Char) : Fault :=
  match skipSpace text with
  | '\x7d' :: rest => .shape mismatch rest
  | rest => .shape mismatch rest

mutual

/-- Reads a value of the given shape, in which lists and objects may be nested to a given depth. -/
def Schema.read : (schema : Schema) → Nat → Reader schema.Value
  | .text, _, text =>
      match skipSpace text with
      | '"' :: rest => readString rest
      | other => .error (wrongKind .text other)
  | .flag, _, text =>
      match skipSpace text with
      | 't' :: rest => do
          let (_, rest) ← readWord ['r', 'u', 'e'] rest
          .ok (true, rest)
      | 'f' :: rest => do
          let (_, rest) ← readWord ['a', 'l', 's', 'e'] rest
          .ok (false, rest)
      | other => .error (wrongKind .flag other)
  | .natural, _, text => readNarrowed .natural Number.toNatural (skipSpace text)
  | .integer, _, text => readNarrowed .integer Number.toInteger (skipSpace text)
  | .any, depth, text => readValue depth text
  | .optional inner, depth, text =>
      match skipSpace text with
      | 'n' :: rest => do
          let (_, rest) ← readWord ['u', 'l', 'l'] rest
          .ok (none, rest)
      | other => do
          let (value, rest) ← inner.read depth other
          .ok (some value, rest)
  | .list item, depth, text =>
      match skipSpace text with
      | '[' :: rest =>
          match depth with
          | 0 => .error (.next .tooDeep ('[' :: rest))
          | depth + 1 => readList (item.read depth) rest
      | other => .error (wrongKind .list other)
  | .listOrNull item, depth, text =>
      match skipSpace text with
      | 'n' :: rest => do
          let (_, rest) ← readWord ['u', 'l', 'l'] rest
          .ok ([], rest)
      | '[' :: rest =>
          match depth with
          | 0 => .error (.next .tooDeep ('[' :: rest))
          | depth + 1 => readList (item.read depth) rest
      | other => .error (wrongKind .list other)
  | .record title fields, depth, text =>
      match skipSpace text with
      | '[' :: rest =>
          match depth with
          | 0 => .error (.next .tooDeep ('[' :: rest))
          | depth + 1 => do
              let (values, afterFields) ← fields.readPlaces title fields.count 0 depth rest
              let (_, rest) ← closeList afterFields
              .ok (values, rest)
      | '\x7b' :: rest =>
          match depth with
          | 0 => .error (.next .tooDeep ('\x7b' :: rest))
          | depth + 1 => do
              let (draft, rest) ←
                readObject (fun key draft => fields.readMember depth key draft) fields.empty rest
              match fields.finish draft with
              | .ok values => .ok (values, rest)
              | .error name => .error (.shape (.missingField name) rest)
      | other => .error (wrongKind (.record title) other)

def Fields.readMember : (fields : Fields) → Nat → String → fields.Draft → Reader fields.Draft
  | .nil, _, _, (), text => do
      let (_, afterColon) ← readColon text
      let rest ← skipValue afterColon
      .ok ((), rest)
  | .field name aliases _ schema rest, depth, key, (seen, others), text =>
      if key = name ∨ key ∈ aliases then
        match seen with
        | some _ => .error (mismatchInObject (.repeatedField name) text)
        | none => do
            let (_, afterColon) ← readColon text
            let (value, afterValue) ← schema.read depth afterColon
            .ok ((some value, others), afterValue)
      else do
        let (others, afterValue) ← rest.readMember depth key others text
        .ok ((seen, others), afterValue)

/-- Reads the fields of a record by their place in a list, as far as the list goes. -/
def Fields.readPlaces : (fields : Fields) → String → Nat → Nat → Nat → Reader fields.Value
  | .nil, _, _, _, _, text => .ok ((), text)
  | .field _ _ required schema rest, title, total, place, depth, text => do
      match ← nextItem (place == 0) text with
      | some start =>
          let (value, afterValue) ← schema.read depth start
          let (values, afterFields) ← rest.readPlaces title total (place + 1) depth afterValue
          .ok ((value, values), afterFields)
      | none =>
          if required then
            .error (.shape (.tooFewItems place title total) ((skipSpace text).drop 1))
          else
            let (values, afterFields) ← rest.readPlaces title total (place + 1) depth text
            .ok ((schema.absent, values), afterFields)

end

/-- Reads a whole text as a value of the given shape. Only spaces may follow it. -/
def Schema.readText (schema : Schema) (text : String) : Except ReadError schema.Value :=
  let chars := text.toList
  let result : Except Fault schema.Value := do
    let (value, rest) ← schema.read depthLimit chars
    match skipSpace rest with
    | [] => .ok value
    | more => .error (.next .trailingText more)
  result.mapError (Fault.locate chars)

/-! Reading from a value. -/

mutual

def Schema.readTree : (schema : Schema) → Json → Except Mismatch schema.Value
  | .text, .str s => .ok s
  | .text, other => .error (.wrongKind (found other) .text)
  | .flag, .bool b => .ok b
  | .flag, other => .error (.wrongKind (found other) .flag)
  | .natural, .num n => n.toNatural
  | .natural, other => .error (.wrongKind (found other) .natural)
  | .integer, .num n => n.toInteger
  | .integer, other => .error (.wrongKind (found other) .integer)
  | .any, value => .ok value
  | .optional _, .null => .ok none
  | .optional inner, other => (inner.readTree other).map some
  | .list item, .arr items => items.mapM item.readTree
  | .list _, other => .error (.wrongKind (found other) .list)
  | .listOrNull _, .null => .ok []
  | .listOrNull item, .arr items => items.mapM item.readTree
  | .listOrNull _, other => .error (.wrongKind (found other) .list)
  | .record title fields, .arr items => do
      let values ← fields.readItems title fields.count 0 items
      if fields.count < items.length then .error (.tooManyItems items.length)
      else .ok values
  | .record _ fields, .obj members => do
      let draft ← members.foldlM (fun draft member => fields.putMember member.1 member.2 draft)
        fields.empty
      (fields.finish draft).mapError .missingField
  | .record title _, other => .error (.wrongKind (found other) (.record title))

def Fields.putMember : (fields : Fields) → String → Json → fields.Draft →
    Except Mismatch fields.Draft
  | .nil, _, _, () => .ok ()
  | .field name aliases _ schema rest, key, value, (seen, others) =>
      if key = name ∨ key ∈ aliases then
        match seen with
        | some _ => .error (.repeatedField name)
        | none => (schema.readTree value).map fun value => (some value, others)
      else (rest.putMember key value others).map fun others => (seen, others)

/-- Takes the items of a list as the fields of the record, as far as the list goes. -/
def Fields.readItems : (fields : Fields) → String → Nat → Nat → List Json →
    Except Mismatch fields.Value
  | .nil, _, _, _, _ => .ok ()
  | .field _ _ _ schema rest, title, total, place, item :: items => do
      let value ← schema.readTree item
      let values ← rest.readItems title total (place + 1) items
      .ok (value, values)
  | .field _ _ required schema rest, title, total, place, [] =>
      if required then .error (.tooFewItems place title total)
      else (rest.readItems title total (place + 1) []).map fun values => (schema.absent, values)

end

end FlagBoard.Json
