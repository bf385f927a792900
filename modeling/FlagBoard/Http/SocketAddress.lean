import FlagBoard.Text.Utf8

/-!
Addresses as requests take them. They are read strictly: nothing is escaped or resolved, and what
may not stand for itself makes the address none.
-/

namespace FlagBoard

structure SocketAddress where
  authority : List Char
  path : List Char
  query : Option (List Char)
  deriving DecidableEq, Repr

namespace SocketAddress

def mostBytes : Nat := 65534

def mostSchemeChars : Nat := 64

def isSchemeChar (c : Char) : Bool := c.isAlphanum || "+-.~".toList.contains c

def isAuthorityChar (c : Char) : Bool := c.isAlphanum || "!$&'()*+,-.:;=@[]_~".toList.contains c

/-- Characters of a path: all but controls, spaces and a few signs. -/
def isPathChar (c : Char) : Bool :=
  33 ≤ c.toNat && c != '\x7f' && c != '#' && c != '<' && c != '>' && c != '?' && c != '\x60'

def isQueryChar (c : Char) : Bool :=
  33 ≤ c.toNat && c != '\x7f' && c != '"' && c != '#' && c != '<' && c != '>'

structure Scan where
  /-- Colons that may stand before the number of a service. -/
  colons : Nat
  opened : Bool
  closed : Bool
  /-- Whether there was an escape that can only belong to the host. -/
  escaped : Bool
  deriving DecidableEq, Repr

def Scan.take (scan : Scan) (c : Char) : Option Scan :=
  if c = ':' then if 8 ≤ scan.colons then none else some { scan with colons := scan.colons + 1 }
  else if c = '[' then
    if scan.escaped || scan.opened then none else some { scan with opened := true }
  else if c = ']' then
    if !scan.opened || scan.closed then none
    else some { scan with closed := true, colons := 0, escaped := false }
  else if c = '@' then some { scan with colons := 0, escaped := false }
  else if c = '%' then some { scan with escaped := true }
  else if isAuthorityChar c then some scan
  else none

/-- Whether a text is an authority: brackets match, a host has one number at most, and there is
something behind an `@`. -/
def isAuthority (text : List Char) : Bool :=
  match text.foldlM Scan.take ⟨0, false, false, false⟩ with
  | some scan =>
      scan.opened == scan.closed && scan.colons ≤ 1 && !scan.escaped && text.getLast? != some '@'
  | none => false

/-- The text before and behind the slashes of a scheme, if there is a scheme. -/
def cutScheme (text : List Char) : Option (List Char × List Char) :=
  match text.dropWhile isSchemeChar with
  | ':' :: '/' :: '/' :: rest =>
      if text.length ≤ 3 then none else some (text.takeWhile isSchemeChar, rest)
  | _ => none

def readTarget (text : List Char) : Option (List Char × Option (List Char)) :=
  let path := text.takeWhile fun c => c != '?' && c != '#'
  if !path.all isPathChar then none
  else
    match text.drop path.length with
    | '?' :: rest =>
        let query := rest.takeWhile (· != '#')
        if query.all isQueryChar then some (path, some query) else none
    | _ => some (path, none)

/-- Reads an address. Without a scheme it is an authority and nothing else, and a lone star, which
asks a server about itself, is not even that. -/
def read? (text : List Char) : Option SocketAddress :=
  if mostBytes < Text.Utf8.size text then none
  else
    match cutScheme text with
    | none =>
        if text.isEmpty || text == ['*'] || !isAuthority text then none else some ⟨text, [], none⟩
    | some (scheme, rest) => do
        let authority := rest.takeWhile fun c => c != '/' && c != '?' && c != '#'
        if mostSchemeChars < scheme.length || authority.isEmpty || !isAuthority authority then none
        else
          let (path, query) ← readTarget (rest.drop authority.length)
          some ⟨authority, if path.isEmpty then ['/'] else path, query⟩

/-- The host with the number of its service: the authority behind its first `@`. -/
def host (address : SocketAddress) : List Char :=
  match address.authority.dropWhile (· != '@') with
  | [] => address.authority
  | _ :: host => host

end SocketAddress

end FlagBoard
