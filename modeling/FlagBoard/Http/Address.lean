import FlagBoard.Http.Host
import FlagBoard.Text.Percent

/-!
Web addresses, read as leniently as browsers do: white space around them is dropped, backslashes
count as slashes, dots in the path are resolved, and what may not stand for itself is escaped.
-/

namespace FlagBoard.Http

/-- An address in its usual form. Who asks is not part of it. -/
structure Address where
  scheme : List Char
  /-- The host with the number of its service, if it is not the usual one. -/
  authority : Option (List Char)
  path : List Char
  query : Option (List Char)
  fragment : Option (List Char)
  deriving DecidableEq, Repr

namespace Address

def marked (mark : Char) : Option (List Char) → List Char
  | none => []
  | some part => mark :: part

def text (address : Address) : List Char :=
  address.scheme ++ ':' ::
    (address.authority.elim [] fun authority => '/' :: '/' :: authority) ++
    address.path ++ marked '?' address.query ++ marked '#' address.fragment

/-- What a request asks the host for: all but the fragment. -/
def target (address : Address) : List Char := address.path ++ marked '?' address.query

inductive Form
  /-- With a host, whose usual service has a number. -/
  | served (usual : Nat)
  /-- With a path in a file system, mostly without a host. -/
  | file
  /-- In a way of their own. They are only ever shown. -/
  | other
  deriving DecidableEq, Repr

def Form.ofScheme (scheme : List Char) : Form :=
  let services := [("http", 80), ("https", 443), ("ws", 80), ("wss", 443), ("ftp", 21)]
  match services.lookup (String.ofList scheme) with
  | some usual => .served usual
  | none => if scheme = "file".toList then .file else .other

def escapeFragment (text : List Char) : List Char :=
  text.flatMap (Text.Percent.encodeBut [' ', '"', '<', '>', '\x60'])

def escapePath (text : List Char) : List Char :=
  text.flatMap (Text.Percent.encodeBut [' ', '"', '<', '>', '\x60', '#', '?', '\x7b', '\x7d'])

/-- A query; with a host also its single quotes are escaped. -/
def escapeQuery (special : Bool) (text : List Char) : List Char :=
  text.flatMap
    (Text.Percent.encodeBut ([' ', '"', '<', '>', '#'] ++ if special then ['\''] else []))

def plainDots (part : List Char) : List Char :=
  match part with
  | '%' :: '2' :: c :: rest =>
      if c.toLower = 'e' then '.' :: plainDots rest else '%' :: '2' :: c :: plainDots rest
  | c :: rest => c :: plainDots rest
  | [] => []

def isDrive (part : List Char) : Bool :=
  match part with
  | [letter, mark] => letter.isAlpha && (mark == ':' || mark == '|')
  | _ => false

/-- The parts so far, given the last first, without the last. A drive is never left. -/
def leave (done : List (List Char)) : List (List Char) :=
  if done.head?.any isDrive then done else done.drop 1

/-- The parts of a path with its dots resolved; the parts so far are given the last first. -/
def resolveDots : List (List Char) → List (List Char) → List (List Char)
  | done, [] => done.reverse
  | done, part :: rest =>
      if plainDots part = ['.', '.'] then
        resolveDots (if rest.isEmpty then [] :: leave done else leave done) rest
      else if plainDots part = ['.'] then
        resolveDots (if rest.isEmpty then [] :: done else done) rest
      else resolveDots (part :: done) rest

def pathParts (text : List Char) : List (List Char) :=
  resolveDots [] (cutAt '/' (if text.head? = some '/' then text.drop 1 else text))

def joinPath (parts : List (List Char)) : List Char :=
  parts.flatMap fun part => '/' :: escapePath part

def readPath (text : List Char) : List Char := joinPath (pathParts text)

def readService (usual : Option Nat) (digits : List Char) : Option (Option Nat) :=
  if digits.isEmpty then some none
  else do
    let number ← numberIn 10 digits
    if 65535 < number then none
    else if usual = some number then some none
    else some (some number)

/-- The host of an authority, and the digits behind its colon. A colon in brackets belongs to the
host. -/
def splitService : Bool → List Char → List Char × List Char
  | _, [] => ([], [])
  | inBrackets, c :: rest =>
      if c = ':' ∧ !inBrackets then ([], rest)
      else
        let inside := if c = '[' then true else if c = ']' then false else inBrackets
        let (host, digits) := splitService inside rest
        (c :: host, digits)

def printAuthority (host : List Char) (service : Option Nat) : List Char :=
  host ++ service.elim [] fun number => ':' :: (toString number).toList

def splitUser (text : List Char) : Option (List Char) × List Char :=
  let behind := (text.reverse.takeWhile (· != '@')).reverse
  if behind.length = text.length then (none, text)
  else (some (text.take (text.length - behind.length - 1)), behind)

def readAuthority (usual : Nat) (text : List Char) : Option (List Char) := do
  let (hostText, digits) := splitService false (splitUser text).2
  let host ← readHost hostText
  some (printAuthority host (← readService (some usual) digits))

/-- Reads a host of any kind and the number of its service, and gives what stands behind them before
the path. Without a host there is no number, and nobody who asks. -/
def readOpaqueAuthority (text : List Char) : Option (List Char × List Char) := do
  let (user, hostPart) := splitUser text
  let (hostText, service) := splitService false hostPart
  let digits := service.takeWhile (· != '\\')
  let isNamed := user.any fun user => user != [':'] && !user.isEmpty
  let isNobody := user == some [] && hostPart.isEmpty
  if hostText.isEmpty && (isNamed || isNobody || hostPart.contains ':') then none
  else
    let host ← readOpaqueHost hostText
    some (printAuthority host (← readService none digits), service.drop digits.length)

def cutFragment (text : List Char) : List Char × Option (List Char) :=
  match text.dropWhile (· != '#') with
  | [] => (text, none)
  | _ :: fragment => (text.takeWhile (· != '#'), some fragment)

def cutQuery (text : List Char) : List Char × Option (List Char) :=
  match text.dropWhile (· != '?') with
  | [] => (text, none)
  | _ :: query => (text.takeWhile (· != '?'), some query)

def clean (text : List Char) : List Char :=
  let isEdge (c : Char) : Bool := c.toNat ≤ 32
  let inner := ((text.dropWhile isEdge).reverse.dropWhile isEdge).reverse
  inner.filter fun c => c != '\t' && c != '\n' && c != '\r'

def cutScheme (text : List Char) : Option (List Char × List Char) :=
  let isSchemeChar (c : Char) : Bool := c.isAlphanum || c == '+' || c == '-' || c == '.'
  match text with
  | c :: _ =>
      if !c.isAlpha then none
      else
        match text.dropWhile isSchemeChar with
        | ':' :: rest => some ((text.takeWhile isSchemeChar).map Char.toLower, rest)
        | _ => none
  | [] => none

def slashed (text : List Char) : List Char := text.map fun c => if c = '\\' then '/' else c

def readServed (scheme : List Char) (usual : Nat) (text : List Char) : Option Address := do
  let inner := (slashed text).dropWhile (· == '/')
  let authority ← readAuthority usual (inner.takeWhile (· != '/'))
  some ⟨scheme, some authority, readPath (inner.dropWhile (· != '/')), none, none⟩

/-- A path in a file system without empty parts at its start, and whether that is a drive. -/
def readFilePath (text : List Char) : List Char × Bool :=
  let parts := pathParts text
  let onDrive := parts.head?.any isDrive
  let parts := match onDrive, parts with
    | true, drive :: rest => (drive.take 1 ++ [':']) :: rest
    | _, parts => parts.dropWhile List.isEmpty
  (if parts.isEmpty then ['/'] else joinPath parts, onDrive)

/-- The host of a file; none is written for the local one. -/
def readFileHost (text : List Char) : Option (List Char) :=
  if text.isEmpty then some []
  else (readHost text).map fun host => if host = "localhost".toList then [] else host

/-- An address of a file, less its query and fragment. What stands on a drive has no host, and a
drive is never one. -/
def readFile (scheme text : List Char) : Option Address := do
  match slashed text with
  | '/' :: '/' :: rest =>
      let hostText := rest.takeWhile (· != '/')
      if isDrive hostText then
        some ⟨scheme, some [], (readFilePath rest).1, none, none⟩
      else
        let host ← readFileHost hostText
        let (path, onDrive) := readFilePath (rest.drop hostText.length)
        some ⟨scheme, some (if onDrive then [] else host), path, none, none⟩
  | path => some ⟨scheme, some [], (readFilePath path).1, none, none⟩

/-- An address of any other scheme, less its query and fragment. Two slashes that begin a path are
told from those of a host by a dot before them. -/
def readOther (scheme text : List Char) : Option Address := do
  match text with
  | '/' :: '/' :: rest =>
      let (authority, left) ← readOpaqueAuthority (rest.takeWhile (· != '/'))
      let behind := left ++ rest.dropWhile (· != '/')
      some ⟨scheme, some authority, if behind.isEmpty then [] else readPath behind, none, none⟩
  | '/' :: _ =>
      let path := readPath text
      let safe := if ['/', '/'].isPrefixOf path then '/' :: '.' :: path else path
      some ⟨scheme, none, safe, none, none⟩
  | _ => some ⟨scheme, none, text.flatMap (Text.Percent.encodeBut []), none, none⟩

def read? (text : List Char) : Option Address := do
  let (scheme, rest) ← cutScheme (clean text)
  let (beforeFragment, fragment) := cutFragment rest
  let (beforeQuery, query) := cutQuery beforeFragment
  let form := Form.ofScheme scheme
  let address ← match form with
    | .served usual => readServed scheme usual beforeQuery
    | .file => readFile scheme beforeQuery
    | .other => readOther scheme beforeQuery
  some { address with
    query := query.map (escapeQuery (form != .other)), fragment := fragment.map escapeFragment }

def isWeb (address : Address) : Bool :=
  address.scheme == "http".toList || address.scheme == "https".toList

end Address

end FlagBoard.Http
