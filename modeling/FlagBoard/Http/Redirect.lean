import FlagBoard.Http.Client

/-!
Redirects. A reply may send those who asked to another address, and they ask there in its place,
for a while. What is posted is posted again or a page is asked for instead, as the reply has it, and
the cookie goes along for as long as the host and the service stay the same.
-/

namespace FlagBoard.Http

structure Redirect where
  address : Address
  /-- Whether the same is asked there. Otherwise it is a page. -/
  repeats : Bool
  deriving DecidableEq, Repr

structure Answer where
  response : Response
  redirect : Option Redirect
  deriving DecidableEq, Repr

abbrev Network := Request → Option Answer

def Address.place (address : Address) : List Char × Option Nat :=
  let (host, digits) := splitService false (address.authority.getD [])
  let usual := match Form.ofScheme address.scheme with
    | .served usual => some usual
    | .file | .other => none
  (host, if digits.isEmpty then usual else numberIn 10 digits)

def Request.redirected (request : Request) (redirect : Redirect) : Request where
  method := if redirect.repeats then request.method else .get
  address := redirect.address
  cookie := if request.address.place = redirect.address.place then request.cookie else none
  body := if redirect.repeats then request.body else none

namespace Network

/-- The requests that are made for one, and what comes of them, with redirects left. An address that
does not pass as one is not followed, and the reply stands. -/
def follow (network : Network) (left : Nat) (request : Request) :
    List Request × Except TransportFault Response :=
  match network request with
  | none => ([request], .error (.noReply (String.ofList request.address.text)))
  | some ⟨response, none⟩ => ([request], .ok response)
  | some ⟨response, some redirect⟩ =>
      if !redirect.address.isStrict then ([request], .ok response)
      else
        match left with
        | 0 => ([request], .error (.redirects (String.ofList request.address.text)))
        | left + 1 =>
            if redirect.address.isWeb then
              let (more, result) := network.follow left (request.redirected redirect)
              (request :: more, result)
            else ([request], .error (.unaskable (String.ofList redirect.address.text)))

def mostRedirects : Nat := 10

def trail (network : Network) (request : Request) : List Request :=
  (network.follow mostRedirects request).1

def server (network : Network) : Server := fun request => (network.follow mostRedirects request).2

end Network

end FlagBoard.Http
