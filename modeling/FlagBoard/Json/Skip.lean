import FlagBoard.Json.Reader

/-!
Passing over a value nobody asked for. Its syntax is checked, but not how deep it goes, whether its
numbers are finite or whether its surrogates are paired.
-/

namespace FlagBoard.Json

def skipString : Bool → Reader Unit
  | _, [] => .error (.here .endInString [])
  | false, c :: rest =>
      if c = '"' then .ok ((), rest)
      else if c = '\\' then skipString true rest
      else if c.toNat < 0x20 then .error (.here .controlCharacter (c :: rest))
      else skipString false rest
  | true, c :: rest =>
      if c = 'u' then
        if !hasFourBytes rest then .error (.here .endInString [])
        else if (rest.take 4).all fun digit => (hexValue digit).isSome then skipString false rest
        else .error (.after .badEscape 4 rest)
      else if (letterEscape c).isSome then skipString false rest
      else .error (.next .badEscape (c :: rest))

def skipDigits (text : List Char) : Except Fault (List Char) :=
  match takeDigits text with
  | ([], rest) => .error (.next .badNumber rest)
  | (_, rest) => .ok rest

def skipNumber (text : List Char) : Except Fault (List Char) := do
  let afterWhole ←
    match text with
    | '0' :: d :: rest =>
        if isDigit d then .error (.next .badNumber (d :: rest)) else .ok (d :: rest)
    | other => skipDigits other
  let afterFraction ←
    match afterWhole with
    | '.' :: rest => skipDigits rest
    | other => .ok other
  match afterFraction with
  | c :: rest =>
      if c = 'e' ∨ c = 'E' then
        match rest with
        | '+' :: more => skipDigits more
        | '-' :: more => skipDigits more
        | more => skipDigits more
      else .ok (c :: rest)
  | [] => .ok []

def skipItems (item : List Char → Except Fault (List Char)) :
    Nat → Bool → List Char → Except Fault (List Char)
  | 0, _, _ => .error (.here .endInList [])
  | steps + 1, first, text =>
      match skipSpace text with
      | [] => .error (.here .endInList [])
      | c :: rest =>
          if c = ']' then .ok rest
          else if first then do
            let afterItem ← item (c :: rest)
            skipItems item steps false afterItem
          else if c = ',' then do
            let afterItem ← item rest
            skipItems item steps false afterItem
          else .error (.next .noListEnd (c :: rest))

def skipMember (item : List Char → Except Fault (List Char)) (text : List Char) :
    Except Fault (List Char) := do
  match skipSpace text with
  | [] => .error (.here .endInObject [])
  | c :: rest =>
      if c = '"' then
        let (_, afterKey) ← skipString false rest
        let (_, afterColon) ← readColon afterKey
        item afterColon
      else .error (.next .noKey (c :: rest))

def skipMembers (item : List Char → Except Fault (List Char)) :
    Nat → Bool → List Char → Except Fault (List Char)
  | 0, _, _ => .error (.here .endInObject [])
  | steps + 1, first, text =>
      match skipSpace text with
      | [] => .error (.here .endInObject [])
      | c :: rest =>
          if c = '\x7d' then .ok rest
          else if first then do
            let afterMember ← skipMember item (c :: rest)
            skipMembers item steps false afterMember
          else if c = ',' then do
            let afterMember ← skipMember item rest
            skipMembers item steps false afterMember
          else .error (.next .noObjectEnd (c :: rest))

/-- Passes over a value in which lists and objects are nested to a given depth at most. -/
def skipNested : Nat → List Char → Except Fault (List Char)
  | depth, text =>
      match skipSpace text with
      | [] => .error (.here .endInValue [])
      | c :: rest =>
          if c = 'n' then (·.2) <$> readWord ['u', 'l', 'l'] rest
          else if c = 't' then (·.2) <$> readWord ['r', 'u', 'e'] rest
          else if c = 'f' then (·.2) <$> readWord ['a', 'l', 's', 'e'] rest
          else if c = '-' then skipNumber rest
          else if isDigit c then skipNumber (c :: rest)
          else if c = '"' then (·.2) <$> skipString false rest
          else if c = '[' then
            match depth with
            | 0 => .error (.here .endInList [])
            | depth + 1 => skipItems (skipNested depth) (rest.length + 1) true rest
          else if c = '\x7b' then
            match depth with
            | 0 => .error (.here .endInObject [])
            | depth + 1 => skipMembers (skipNested depth) (rest.length + 1) true rest
          else .error (.next .noValue (c :: rest))

/-- Passes over a value. No text is nested deeper than it is long. -/
def skipValue (text : List Char) : Except Fault (List Char) := skipNested text.length text

end FlagBoard.Json
