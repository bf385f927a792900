import FlagBoard.Http.Address
import FlagBoard.Http.Cookie
import FlagBoard.Http.Failure
import FlagBoard.Http.SocketAddress
import FlagBoard.Submission.Request
import FlagBoard.Team.Lab
import FlagBoard.Team.Vpn

/-!
Requests to the platform and what their replies mean. Every call makes one request at most, and the
server is any function from requests to replies, or to the reasons why there are none. Actions are
judged by the body of the reply alone; everything else needs a status of success first.
-/

namespace FlagBoard.Http

inductive Method
  | post
  | get
  deriving DecidableEq, Repr

structure Request where
  method : Method
  address : Address
  cookie : Option String
  body : Option Json
  deriving Repr

structure Response where
  status : Nat
  body : List UInt8
  deriving DecidableEq, Repr

namespace Response

def isSuccess (response : Response) : Bool := 200 ≤ response.status && response.status < 300

def text (response : Response) : String := String.ofList (Text.Utf8.decode response.body)

end Response

/-- What comes of a request: a reply, or the reason why there is none. -/
abbrev Server := Request → Except TransportFault Response

structure Sent (Result : Type) where
  requests : List Request
  result : Except Failure Result

namespace Sent

variable {Result Next : Type}

def refused (failure : Failure) : Sent Result := ⟨[], .error failure⟩

def andThen (sent : Sent Result) (next : Result → Except Failure Next) : Sent Next :=
  ⟨sent.requests, sent.result.bind next⟩

end Sent

def Address.isStrict (address : Address) : Bool := (SocketAddress.read? address.text).isSome

/-- One who asks: where the platform is, and the cookie that is sent along. -/
structure Client where
  base : String
  cookie : Option String
  deriving DecidableEq, Repr

namespace Client

def trimBase (base : String) : String :=
  String.ofList (base.toList.reverse.dropWhile (· == '/')).reverse

def new (base : String) (session : Option String) : Except Failure Client :=
  match cookie? session with
  | some cookie => .ok ⟨trimBase base, cookie⟩
  | none => .error .header

/-- Where a request for a route goes. The address is read leniently, and what comes of it has to
pass as one that a request can be made at. -/
def address (client : Client) (route : Route) : Except TransportFault Address :=
  match Address.read? (client.base ++ route.path).toList with
  | none => .error .noAddress
  | some address =>
      if address.isWeb && address.isStrict then .ok address
      else .error (.unaskable (String.ofList address.text))

def post (client : Client) (server : Server) (route : Route) (body : Json) : Sent Response :=
  match client.address route with
  | .error fault => .refused (.transport fault)
  | .ok address =>
      let request : Request := ⟨.post, address, client.cookie, some body⟩
      ⟨[request], (server request).mapError .transport⟩

def readVerdict (response : Response) : Except Failure Verdict :=
  match Reply.read response.text with
  | .ok reply => .ok reply.verdict
  | .error error => .error (.reply error)

def requireSuccess (route : Route) (response : Response) : Except Failure Response :=
  if response.isSuccess then .ok response else .error (.status route.path response.status)

/-- Stands for a byte that is no text. It can be passed over in a string that nobody asks for, and
nowhere else: it is no escape behind a backslash, half a pair of surrogates in a string that is
read, and no token outside of strings. -/
def strayMark : List Char := ['x', '\\', 'u', 'd', 'c', '0', '0']

def readBody {Value : Type} (read : String → Except Json.ReadError Value) (response : Response) :
    Except Failure Value :=
  let bytes := response.body
  let text := (Text.Utf8.decode? bytes).getD
    (Text.Utf8.decodeMarked strayMark bytes.length bytes)
  (read (String.ofList text)).mapError fun _ => .transport .badBody

def act (client : Client) (server : Server) (route : Route) (body : Json) : Sent Verdict :=
  (client.post server route body).andThen readVerdict

def fetch {Value : Type} (client : Client) (server : Server) (route : Route)
    (read : String → Except Json.ReadError Value) : Sent Value :=
  (client.post server route emptyBody).andThen fun response => do
    readBody read (← requireSuccess route response)

def submitFlag (client : Client) (server : Server) (tag flag : String) : Sent Verdict :=
  match FlagRequest.ofInput tag flag with
  | .ok request => client.act server .verifyFlag request.toJson
  | .error error => .refused (.submit error)

def resetChallenge (client : Client) (server : Server) (tag : String) : Sent Verdict :=
  client.act server .resetChallenge (tagBody tag)

def toggleChallenge (client : Client) (server : Server) (tag : String) : Sent Verdict :=
  client.act server .toggleChallenge (tagBody tag)

def resetFrontend (client : Client) (server : Server) : Sent Verdict :=
  client.act server .resetFrontend emptyBody

def vpnStatus (client : Client) (server : Server) : Sent (List VpnSlot) :=
  client.fetch server .vpnStatus VpnSlot.readList

def labInfo (client : Client) (server : Server) : Sent Lab := client.fetch server .labInfo Lab.read

def vpnDownload (client : Client) (server : Server) (id : String) : Sent String :=
  (client.post server .vpnDownload (slotBody id)).andThen fun response =>
    (requireSuccess .vpnDownload response).map Response.text

end Client

end FlagBoard.Http
