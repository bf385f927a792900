import FlagBoard.Http.Cookie
import FlagBoard.Http.Failure
import FlagBoard.Http.SocketAddress

/-!
The request that opens a feed. Its address is read strictly, and the session stands in its header
as it is.
-/

namespace FlagBoard

structure Handshake where
  path : String
  query : Option String
  host : String
  cookie : Option String
  deriving DecidableEq, Repr

namespace Handshake

def method : String := "GET"

def ofUrl (url : String) (session : Option String) : Except Failure Handshake :=
  match SocketAddress.read? url.toList with
  | none => .error .handshake
  | some address =>
      match Http.cookie? session with
      | none => .error .header
      | some cookie =>
          .ok ⟨String.ofList address.path, address.query.map String.ofList,
            String.ofList address.host, cookie⟩

end Handshake

end FlagBoard
