/-!
The cookie that tells the platform who asks. It is sent as given or not at all: a token that cannot
stand in a header is refused before anything is sent.
-/

namespace FlagBoard.Http

/-- Whether a character may stand in a header: a tab, or anything that is no control character. -/
def isHeaderChar (c : Char) : Bool := c == '\t' || (32 ≤ c.toNat && c.toNat != 127)

def sessionCookie (token : String) : String := "session=" ++ token

def isHeaderValue (value : String) : Bool := value.toList.all isHeaderChar

/-- The cookie of a session, if there is a session; nothing at all if its token cannot be sent. -/
def cookie? : Option String → Option (Option String)
  | none => some none
  | some token =>
      let value := sessionCookie token
      if isHeaderValue value then some (some value) else none

end FlagBoard.Http
