import FlagBoard.Json.Reader

/-!
Reading a JSON text as a value. Of several members with one key the last counts.
-/

namespace FlagBoard.Json

/-- Reads a value, in which lists and objects may be nested to a given depth. -/
def readValue : Nat → Reader Json
  | depth, text =>
      match skipSpace text with
      | [] => .error (.here .endInValue [])
      | c :: rest =>
          if c = 'n' then do
            let (_, rest) ← readWord ['u', 'l', 'l'] rest
            .ok (.null, rest)
          else if c = 't' then do
            let (_, rest) ← readWord ['r', 'u', 'e'] rest
            .ok (.bool true, rest)
          else if c = 'f' then do
            let (_, rest) ← readWord ['a', 'l', 's', 'e'] rest
            .ok (.bool false, rest)
          else if c = '-' then do
            let (number, rest) ← readNumber true rest
            .ok (.num number, rest)
          else if isDigit c then do
            let (number, rest) ← readNumber false (c :: rest)
            .ok (.num number, rest)
          else if c = '"' then do
            let (string, rest) ← readString rest
            .ok (.str string, rest)
          else if c = '[' then
            match depth with
            | 0 => .error (.next .tooDeep (c :: rest))
            | depth + 1 => do
                let (items, rest) ← readList (readValue depth) rest
                .ok (.arr items, rest)
          else if c = '\x7b' then
            match depth with
            | 0 => .error (.next .tooDeep (c :: rest))
            | depth + 1 => do
                let member (key : String) (members : List (String × Json)) :
                    Reader (List (String × Json)) := fun text => do
                  let (_, afterColon) ← readColon text
                  let (value, rest) ← readValue depth afterColon
                  .ok (putMember key value members, rest)
                let (members, rest) ← readObject member [] rest
                .ok (.obj members, rest)
          else .error (.next .noValue (c :: rest))

end FlagBoard.Json
