/-!
Command lines: options with a leading dash, positional arguments, and subcommands that bring a
grammar of their own. Words are taken from left to right. A value is only checked when the next
option, a further argument or the end of the line closes it, and what a subcommand has to complain
of comes before what is still open above it.
-/

namespace FlagBoard.Command

/-- Why a command line is refused, or answered by a description of the command. -/
inductive Refusal
  | help
  | helpOnNothing
  | noSubcommand
  | unknownSubcommand
  | unknownArgument
  | missingArgument
  /-- A value is missing, or none of those to choose from. -/
  | badValue
  | badNumber
  | valueForSwitch
  /-- An option is given twice. -/
  | repeatedOption
  deriving DecidableEq, Repr

inductive ValueKind
  | text
  /-- A number of 64 bits. -/
  | number
  | choice (values : List String)
  deriving DecidableEq, Repr

structure Choice where
  long : String
  short : Option Char
  /-- The kind of its value; a switch has none. -/
  value : Option ValueKind
  deriving DecidableEq, Repr

structure Positional where
  name : String
  value : ValueKind
  deriving DecidableEq, Repr

/-- A command with its options, arguments and subcommands. A command that has subcommands needs
one of them. -/
inductive Grammar
  | mk (name : String) (options : List Choice) (positionals : List Positional)
      (subcommands : List Grammar)

namespace Grammar

def name : Grammar → String
  | .mk name _ _ _ => name

def options : Grammar → List Choice
  | .mk _ options _ _ => options

def positionals : Grammar → List Positional
  | .mk _ _ positionals _ => positionals

def subcommands : Grammar → List Grammar
  | .mk _ _ _ subcommands => subcommands

end Grammar

def readNumber (text : String) : Option Nat :=
  let digits := match text.toList with
    | '+' :: rest => rest
    | other => other
  if digits.isEmpty || !digits.all Char.isDigit then none
  else
    let number := digits.foldl (fun number c => number * 10 + (c.toNat - '0'.toNat)) 0
    if number < 0x10000000000000000 then some number else none

def ValueKind.check (kind : ValueKind) (value : String) : Except Refusal Unit :=
  match kind with
  | .text => .ok ()
  | .number => if (readNumber value).isSome then .ok () else .error .badNumber
  | .choice values => if value ∈ values then .ok () else .error .badValue

/-- What waits for the next word: an option for its value, or a value for its check. -/
inductive Open
  | nothing
  | wanting (option : Choice)
  | filled (name : String) (kind : ValueKind) (isOption : Bool) (value : String)
  deriving DecidableEq, Repr

structure LineState where
  /-- The values by the names of their options and arguments, in order. -/
  values : List (String × String)
  waiting : Open
  /-- Whether only arguments may follow. -/
  onlyArguments : Bool
  /-- Number of arguments so far. -/
  arguments : Nat
  deriving DecidableEq, Repr

namespace LineState

def start : LineState := ⟨[], .nothing, false, 0⟩

/-- Adds a value under a name. An option can be given once. -/
def add (progress : LineState) (name : String) (kind : ValueKind) (isOption : Bool)
    (value : String) : Except Refusal LineState :=
  if isOption && (progress.values.lookup name).isSome then .error .repeatedOption
  else do
    kind.check value
    .ok { progress with values := progress.values ++ [(name, value)], waiting := .nothing }

def settle (progress : LineState) : Except Refusal LineState :=
  match progress.waiting with
  | .nothing => .ok progress
  | .wanting _ => .error .badValue
  | .filled name kind isOption value => progress.add name kind isOption value

end LineState

/-- What a command line says: the values of the command, and the subcommand with its values. -/
structure ParsedLine where
  values : List (String × String)
  path : List String
  deriving DecidableEq, Repr

inductive Taken
  | next (progress : LineState)
  /-- The word is the name of a subcommand. -/
  | enter (grammar : Grammar)
  /-- The word asks for help on the subcommand that follows. -/
  | help

/-- Takes an option. An attached value is taken at once, otherwise the next word may be one. -/
def takeOption (progress : LineState) (option : Choice) (attached : Option String) :
    Except Refusal LineState :=
  match option.value, attached with
  | some kind, some value => do (← progress.settle).add option.long kind true value
  | some _, none => do .ok { ← progress.settle with waiting := .wanting option }
  | none, some _ => .error .valueForSwitch
  | none, none => do (← progress.settle).add option.long .text true "true"

/-- A word behind two dashes: the name, and the value behind an equals sign if there is one. -/
def splitLong (word : List Char) : String × Option String :=
  match word.dropWhile (· != '=') with
  | [] => (String.ofList word, none)
  | _ :: value => (String.ofList (word.takeWhile (· != '=')), some (String.ofList value))

def takeLong (grammar : Grammar) (progress : LineState) (word : List Char) :
    Except Refusal LineState :=
  let (name, attached) := splitLong word
  if name = "help" then
    if attached.isSome then .error .valueForSwitch
    else do
      let _ ← progress.settle
      .error .help
  else
    match grammar.options.find? fun option => option.long == name with
    | some option => takeOption progress option attached
    | none => .error .unknownArgument

/-- Takes options of one letter each, of which the last may have its value attached. -/
def takeShort (grammar : Grammar) (progress : LineState) : List Char → Except Refusal LineState
  | [] => .ok progress
  | c :: rest =>
      if c = 'h' then do
        let _ ← progress.settle
        .error .help
      else
        match grammar.options.find? fun option => option.short == some c with
        | none => .error .unknownArgument
        | some option =>
            if option.value.isNone then do
              takeShort grammar (← takeOption progress option none) rest
            else
              match rest with
              | [] => takeOption progress option none
              | '=' :: value => takeOption progress option (some (String.ofList value))
              | value => takeOption progress option (some (String.ofList value))

def findSubcommand (grammar : Grammar) (word : String) : Option Grammar :=
  grammar.subcommands.find? fun subcommand => subcommand.name == word

def asksHelp (grammar : Grammar) (word : String) : Bool :=
  word == "help" && !grammar.subcommands.isEmpty

def takeArgument (grammar : Grammar) (progress : LineState) (word : String) :
    Except Refusal LineState :=
  match grammar.positionals[progress.arguments]? with
  | some positional => do
      let settled ← progress.settle
      .ok { settled with
              waiting := .filled positional.name positional.value false word
              arguments := settled.arguments + 1 }
  | none =>
      let isName := (findSubcommand grammar word).isSome || asksHelp grammar word
      if grammar.subcommands.isEmpty || (progress.onlyArguments && isName) then
        .error .unknownArgument
      else .error .unknownSubcommand

def takeWord (grammar : Grammar) (progress : LineState) (word : String) :
    Except Refusal LineState :=
  match word.toList with
  | ['-', '-'] => .ok { progress with onlyArguments := true }
  | '-' :: '-' :: long => takeLong grammar progress long
  | '-' :: c :: short => takeShort grammar progress (c :: short)
  | _ =>
      match progress.waiting with
      | .wanting option =>
          .ok { progress with
                  waiting := .filled option.long (option.value.getD .text) true word }
      | _ => takeArgument grammar progress word

def take (grammar : Grammar) (progress : LineState) (word : String) : Except Refusal Taken :=
  let isValue := match progress.waiting with
    | .wanting _ => true
    | _ => false
  if progress.onlyArguments then (takeArgument grammar progress word).map .next
  else if isValue then (takeWord grammar progress word).map .next
  else if asksHelp grammar word then .ok .help
  else
    match findSubcommand grammar word with
    | some subcommand => .ok (.enter subcommand)
    | none => (takeWord grammar progress word).map .next

/-- The refusal for a request for help: the words must name a subcommand of the one before. Help
on help is help. -/
def helpFor (grammar : Grammar) : List String → Refusal
  | [] => .help
  | word :: rest =>
      if asksHelp grammar word then if rest.isEmpty then .help else .unknownSubcommand
      else
        match findSubcommand grammar word with
        | some subcommand => helpFor subcommand rest
        | none => .unknownSubcommand

/-- Closes a command line without a subcommand. Every argument must be there; where a subcommand
is needed, a line that says nothing at all is answered by help. -/
def close (grammar : Grammar) (given : Bool) (progress : LineState) :
    Except Refusal ParsedLine := do
  let settled ← progress.settle
  if !grammar.subcommands.isEmpty then
    .error (if settled.values.isEmpty && !given then .helpOnNothing else .noSubcommand)
  else if settled.arguments < grammar.positionals.length then .error .missingArgument
  else .ok ⟨settled.values, []⟩

/-- Reads words by a grammar. `given` tells whether values come from elsewhere too. -/
def readWords (grammar : Grammar) (given : Bool) (progress : LineState) :
    List String → Except Refusal ParsedLine
  | [] => close grammar given progress
  | word :: rest => do
      match ← take grammar progress word with
      | .next next => readWords grammar given next rest
      | .help => .error (helpFor grammar rest)
      | .enter subcommand =>
          let inner ← readWords subcommand false .start rest
          let settled ← progress.settle
          .ok ⟨settled.values ++ inner.values, subcommand.name :: inner.path⟩

end FlagBoard.Command
