import FlagBoard.Markdown.Source

/-!
Raw HTML in Markdown: the extent of a tag, comment, instruction or declaration inside a text, and
the lines that begin a block of HTML. Raw HTML is recognised only to be dropped.
-/

namespace FlagBoard.Markdown.RawHtml

def isTagChar (c : Char) : Bool := isAlphanumeric c || c == '-'

def isNameStart (c : Char) : Bool := isLetter c || c == '_' || c == ':'

def isNameChar (c : Char) : Bool := isAlphanumeric c || c == '_' || c == '.' || c == ':' || c == '-'

def endsValue (c : Char) : Bool :=
  c == '\'' || c == '"' || c == ' ' || c == '=' || c == '>' || c == '<' || c == '\x60' || isBreak c

/-- How a tag goes on in the next line: the place to go on at, by the place where the line begins.
Where there is no such rule, a tag ends with its line. -/
abbrev OnBreak := Option (Nat → Nat)

/-- Passes gaps and line breaks, in as many steps as are given. Something must follow. -/
def passSpace (source : Source) (onBreak : OnBreak) : Nat → Nat → Option Nat
  | 0, _ => none
  | steps + 1, place =>
      let next := source.passWhile isGap place
      if source.endsLine next then do
        let resume ← onBreak
        let line ← if next < source.size then source.pastBreak next else none
        passSpace source onBreak steps (resume line)
      else some next

/-- Passes a value up to and with its closing quote, in as many steps as are given. -/
def passQuoted (source : Source) (onBreak : OnBreak) (quote : Char) : Nat → Nat → Option Nat
  | 0, _ => none
  | steps + 1, place => do
      let c ← source[place]?
      if c = quote then some (place + 1)
      else if isBreak c then
        let resume ← onBreak
        let line ← source.pastBreak place
        passQuoted source onBreak quote steps (resume line)
      else passQuoted source onBreak quote steps (place + 1)

def passValue (source : Source) (onBreak : OnBreak) (place : Nat) : Option Nat := do
  let c ← source[place]?
  if c = '"' ∨ c = '\'' then passQuoted source onBreak c source.size (place + 1)
  else if endsValue c then none
  else some (source.passWhile (fun d => !endsValue d) place)

/-- Passes an attribute. The gaps behind it are left unless a value follows them. -/
def passAttribute (source : Source) (onBreak : OnBreak) (place : Nat) : Option Nat :=
  if source[place]?.any isNameStart then do
    let behind := source.passWhile isNameChar place
    let next ← passSpace source onBreak source.size behind
    if source[next]? = some '=' then
      passValue source onBreak (← passSpace source onBreak source.size (next + 1))
    else some behind
  else none

/-- Passes the attributes of a tag and its end, in as many steps as are given. -/
def passAttributes (source : Source) (onBreak : OnBreak) : Nat → Nat → Option Nat
  | 0, _ => none
  | steps + 1, place => do
      let next ← passSpace source onBreak source.size place
      if source[next]? = some '>' then some (next + 1)
      else if source[next]? = some '/' then
        if source[next + 1]? = some '>' then some (next + 2) else none
      else if next = place then none
      else passAttributes source onBreak steps (← passAttribute source onBreak next)

def passTag (source : Source) (onBreak : OnBreak) (place : Nat) : Option Nat :=
  let closes := source[place]? == some '/'
  let name := if closes then place + 1 else place
  if source[name]?.any isLetter then
    let behind := source.passWhile isTagChar name
    if closes then
      let next := source.passWhile isGap behind
      if source[next]? = some '>' then some (next + 1) else none
    else passAttributes source onBreak source.size behind
  else none

/-- Passes a comment, marked section or declaration from behind its exclamation mark. -/
def passDeclaration (source : Source) (place : Nat) : Option Nat :=
  if source.holdsAt ['-', '-'] place then source.findPast ['-', '-', '>'] place
  else if source.holdsAt "[CDATA[".toList place then
    let first := source.passWhile (· != ']') (place + 7)
    let last := source.passWhile (· == ']') first
    if first < last ∧ source[last]? = some '>' then some (last + 1) else none
  else if source[place]?.any isLetter then source.findPast ['>'] place
  else none

def passInline (source : Source) (resume : Nat → Nat) (place : Nat) : Option Nat :=
  if source[place]? = some '!' then passDeclaration source (place + 1)
  else if source[place]? = some '?' then source.findPast ['?', '>'] (place + 1)
  else passTag source (some resume) place

def blockTags : List String :=
  ["address", "article", "aside", "base", "basefont", "blockquote", "body", "caption", "center",
   "col", "colgroup", "dd", "details", "dialog", "dir", "div", "dl", "dt", "fieldset",
   "figcaption", "figure", "footer", "form", "frame", "frameset", "h1", "h2", "h3", "h4", "h5",
   "h6", "head", "header", "hr", "html", "iframe", "legend", "li", "link", "main", "menu",
   "menuitem", "nav", "noframes", "ol", "optgroup", "option", "p", "param", "search", "section",
   "summary", "table", "tbody", "td", "tfoot", "th", "thead", "title", "tr", "track", "ul"]

def verbatimTags : List String := ["pre", "style", "script", "textarea"]

/-- The text that ends a block of HTML of its own kind, by the place behind the angle bracket. -/
def blockEnding (source : Source) (place : Nat) : Option (List Char) :=
  let verbatim := verbatimTags.find? fun tag =>
    let stop := place + tag.length
    (source.slice place stop).map lowerLetter == tag.toList &&
      source[stop]?.all fun c => isGapOrBreak c || c == '>'
  match verbatim with
  | some tag => some ("</".toList ++ tag.toList ++ ['>'])
  | none =>
      if source.holdsAt "!--".toList place then some "-->".toList
      else if source.holdsAt "?".toList place then some "?>".toList
      else if source.holdsAt "![CDATA[".toList place then some "]]>".toList
      else if source[place]? = some '!' ∧ source[place + 1]?.any isLetter then some ['>']
      else none

/-- Whether a line begins a block of HTML by one of the block tags, from behind its angle bracket
on. -/
def startsBlockTag (source : Source) (place : Nat) : Bool :=
  let name := if source[place]? = some '/' then place + 1 else place
  let stop := source.passWhile isAlphanumeric name
  blockTags.contains (String.ofList ((source.slice name stop).map lowerLetter)) &&
    (source[stop]?.all (fun c => c == ' ' || c == '\t' || c == '>' || isBreak c) ||
      source.holdsAt ['/', '>'] stop)

def isLoneTag (source : Source) (place : Nat) : Bool :=
  (passTag source none place).any source.isBlank

end FlagBoard.Markdown.RawHtml
