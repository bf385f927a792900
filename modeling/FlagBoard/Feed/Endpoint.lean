/-!
Where the live feed is found. The address of a feed keeps the scheme and authority of the page that
shows it, over sockets instead of plain requests, and has the path of the feed and nothing else.
-/

namespace FlagBoard

inductive Endpoint
  | scores
  | challenges
  deriving DecidableEq, Repr

def Endpoint.path : Endpoint → String
  | .scores => "/scores"
  | .challenges => "/challengesFrontend"

inductive PageError
  | noScheme (page : String)
  | noHost (page : String)
  deriving DecidableEq, Repr

def PageError.message : PageError → String
  | .noScheme page => "page URL has no http(s) scheme: " ++ page
  | .noHost page => "page URL has no host: " ++ page

def stripStart : List Char → List Char → Option (List Char)
  | [], text => some text
  | _ :: _, [] => none
  | expected :: more, c :: rest => if c = expected then stripStart more rest else none

def endsAuthority (c : Char) : Bool := c == '/' || c == '?' || c == '#'

/-- The scheme for sockets that belongs to the scheme of a page, and the text behind the latter. -/
def pageScheme? (page : List Char) : Option (String × List Char) :=
  match stripStart "https://".toList page with
  | some rest => some ("wss", rest)
  | none => (stripStart "http://".toList page).map fun rest => ("ws", rest)

def streamUrl (page : String) (endpoint : Endpoint) : Except PageError String :=
  match pageScheme? page.toList with
  | none => .error (.noScheme page)
  | some (scheme, rest) =>
      let authority := rest.takeWhile fun c => !endsAuthority c
      if authority.isEmpty then .error (.noHost page)
      else .ok (scheme ++ "://" ++ String.ofList authority ++ endpoint.path)

end FlagBoard
