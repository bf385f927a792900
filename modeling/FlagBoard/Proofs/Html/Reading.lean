import FlagBoard.Html.Piece
import Mathlib

/-!
How HTML is read. A text is cut into tags and characters, one character at a time, and these are put
together to a tree of elements. The reader is a strict one: it refuses whatever leaves a choice to
those who read it, such as a comment, a lone angle bracket, an attribute without quotes, a reference
to a character that is never written, or an end tag that does not fit. So every reader of HTML
cuts a text that is not refused into the same tags. What is printed is read as it was meant.
-/

namespace FlagBoard.Html

inductive Token
  | start (tag : String) (attributes : List (String × String))
  | stop (tag : String)
  | char (c : Char)
  deriving DecidableEq, Repr

/-- The character that a reference such as `&amp;` stands for, given the text between its marks. -/
def referenced? (name : List Char) : Option Char :=
  let known := [("amp", '&'), ("lt", '<'), ("gt", '>'), ("quot", '"'), ("#39", '\''),
    ("#x27", '\'')]
  known.lookup (String.ofList name)

def isReferenceChar (c : Char) : Bool := c.isAlphanum || c == '#'

def isNameChar (c : Char) : Bool := c.isAlphanum || c == '-'

structure StartTag where
  tag : String
  attributes : List (String × String)
  deriving DecidableEq, Repr

namespace StartTag

def token (start : StartTag) : Token := .start start.tag start.attributes

def put (start : StartTag) (name value : List Char) : StartTag :=
  { start with attributes := start.attributes ++ [(String.ofList name, String.ofList value)] }

end StartTag

inductive Place
  | text
  /-- Behind the `&` of a reference in a text. -/
  | reference (name : List Char)
  /-- Behind the `<` of a tag. -/
  | tagOpened
  /-- Behind the `</` of an end tag. -/
  | endOpened
  | endName (tag : List Char)
  | startName (tag : List Char)
  /-- Behind a space in a start tag. -/
  | spaced (tag : StartTag)
  | attributeName (tag : StartTag) (name : List Char)
  /-- Behind the `=` of an attribute. -/
  | assigned (tag : StartTag) (name : List Char)
  | value (tag : StartTag) (name read : List Char)
  /-- Behind the `&` of a reference in a value. -/
  | valueReference (tag : StartTag) (name read inside : List Char)
  /-- Behind the closing quote of a value. -/
  | quoted (tag : StartTag)
  /-- Behind the slash that closes a tag. -/
  | slashed (tag : StartTag)
  deriving DecidableEq, Repr

/-- Takes the next character, and gives what is complete with it; nothing if it does not fit. -/
def Place.step : Place → Char → Option (Place × List Token)
  | .text, c =>
      if c = '<' then some (.tagOpened, [])
      else if c = '&' then some (.reference [], [])
      else if c = '>' then none
      else some (.text, [.char c])
  | .reference name, c =>
      if c = ';' then (referenced? name).map fun meant => (.text, [.char meant])
      else if isReferenceChar c then some (.reference (name ++ [c]), [])
      else none
  | .tagOpened, c =>
      if c = '/' then some (.endOpened, [])
      else if c.isAlpha then some (.startName [c], [])
      else none
  | .endOpened, c => if c.isAlpha then some (.endName [c], []) else none
  | .endName tag, c =>
      if c = '>' then some (.text, [.stop (String.ofList tag)])
      else if isNameChar c then some (.endName (tag ++ [c]), [])
      else none
  | .startName tag, c =>
      if c = '>' then some (.text, [.start (String.ofList tag) []])
      else if c = ' ' then some (.spaced ⟨String.ofList tag, []⟩, [])
      else if isNameChar c then some (.startName (tag ++ [c]), [])
      else none
  | .spaced tag, c =>
      if c = '/' then some (.slashed tag, [])
      else if c.isAlpha then some (.attributeName tag [c], [])
      else none
  | .attributeName tag name, c =>
      if c = '=' then some (.assigned tag name, [])
      else if c = '>' then some (.text, [(tag.put name []).token])
      else if c = ' ' then some (.spaced (tag.put name []), [])
      else if isNameChar c then some (.attributeName tag (name ++ [c]), [])
      else none
  | .assigned tag name, c => if c = '"' then some (.value tag name [], []) else none
  | .value tag name read, c =>
      if c = '"' then some (.quoted (tag.put name read), [])
      else if c = '&' then some (.valueReference tag name read [], [])
      else if c = '<' ∨ c = '>' then none
      else some (.value tag name (read ++ [c]), [])
  | .valueReference tag name read inside, c =>
      if c = ';' then
        (referenced? inside).map fun meant => (.value tag name (read ++ [meant]), [])
      else if isReferenceChar c then some (.valueReference tag name read (inside ++ [c]), [])
      else none
  | .quoted tag, c =>
      if c = '>' then some (.text, [tag.token])
      else if c = ' ' then some (.spaced tag, [])
      else none
  | .slashed tag, c => if c = '>' then some (.text, [tag.token]) else none

/-- Cuts a text into tags and characters. It has to end outside of all tags and references. -/
def Place.read : Place → List Char → Option (List Token)
  | .text, [] => some []
  | _, [] => none
  | place, c :: rest =>
      match place.step c with
      | some (next, tokens) => (next.read rest).map (tokens ++ ·)
      | none => none

/-- HTML as a tree. -/
inductive Node
  | element (tag : String) (attributes : List (String × String)) (content : List Node)
  | char (c : Char)
  deriving Repr

def isVoid (tag : String) : Bool := ["br", "hr", "img", "input"].contains tag

/-- An element that is not closed yet, and what stands before it. -/
structure Unclosed where
  tag : String
  attributes : List (String × String)
  before : List Node
  deriving Repr

/-- Puts tokens together behind some nodes in the innermost of some elements. Every element has to
be closed, the innermost first. -/
def build : List Unclosed → List Node → List Token → Option (List Node)
  | [], done, [] => some done
  | _ :: _, _, [] => none
  | outer, done, .char c :: rest => build outer (done ++ [.char c]) rest
  | outer, done, .start tag attributes :: rest =>
      if isVoid tag then build outer (done ++ [.element tag attributes []]) rest
      else build (⟨tag, attributes, done⟩ :: outer) [] rest
  | [], _, .stop _ :: _ => none
  | inner :: outer, done, .stop tag :: rest =>
      if inner.tag = tag then
        build outer (inner.before ++ [.element inner.tag inner.attributes done]) rest
      else none

def read? (text : String) : Option (List Node) := (Place.text.read text.toList).bind (build [] [])

section Cutting

/-- From one place to another a text is cut into tokens, whatever comes behind it. -/
def Goes (place : Place) (text : List Char) (tokens : List Token) (next : Place) : Prop :=
  ∀ rest, place.read (text ++ rest) = (next.read rest).map (tokens ++ ·)

variable {place next final : Place} {c : Char} {text later : List Char} {tokens more : List Token}

theorem goes_nil (place : Place) : Goes place [] [] place := by
  intro rest
  simp

theorem Goes.append (first : Goes place text tokens next) (second : Goes next later more final) :
    Goes place (text ++ later) (tokens ++ more) final := by
  intro rest
  rw [List.append_assoc, first, second, Option.map_map]
  congr 1
  funext tail
  exact (List.append_assoc ..).symm

theorem goes_step (step : place.step c = some (next, tokens)) : Goes place [c] tokens next := by
  intro rest
  rw [List.singleton_append, Place.read.eq_def]
  cases place <;> simp only [step]

theorem Goes.cons (step : place.step c = some (next, [])) (later : Goes next text tokens final) :
    Goes place (c :: text) tokens final :=
  (goes_step step).append later

/-- Characters that are taken one after the other, each into what has been read. -/
theorem goes_run (at' : List Char → Place) (text : List Char)
    (steps : ∀ c ∈ text, ∀ read, (at' read).step c = some (at' (read ++ [c]), []))
    (read : List Char) : Goes (at' read) text [] (at' (read ++ text)) := by
  induction text generalizing read with
  | nil => simpa using goes_nil (at' read)
  | cons c rest induction =>
      rw [List.forall_mem_cons] at steps
      have later := induction steps.2 (read ++ [c])
      rw [List.append_assoc, List.singleton_append] at later
      exact Goes.cons (steps.1 read) later

end Cutting

section Characters

/-- The text between the marks of a reference. -/
theorem goes_inside (at' : List Char → Place)
    (taken : ∀ read c, c ≠ ';' → isReferenceChar c = true →
      (at' read).step c = some (at' (read ++ [c]), []))
    (name : List Char) (chars : name.all isReferenceChar = true) :
    Goes (at' []) name [] (at' name) := by
  apply goes_run
  intro c member read
  have allowed := List.all_eq_true.mp chars c member
  have other : c ≠ ';' := by rintro rfl; exact absurd allowed (by decide)
  exact taken read c other allowed

theorem goes_reference (name : List Char) (meant : Char) (chars : name.all isReferenceChar = true)
    (known : referenced? name = some meant) :
    Goes .text ('&' :: (name ++ [';'])) [.char meant] .text := by
  have run : Goes (.reference []) name [] (.reference name) := by
    refine goes_inside .reference (fun read c other allowed => ?_) name chars
    rw [Place.step, if_neg other, if_pos allowed]
  refine Goes.cons (by decide) (run.append (goes_step ?_))
  simp [Place.step, known]

/-- A character is written as a reference that means it, or as it is. -/
theorem escape_text_cases (c : Char) :
    (∃ name, escapeText c = '&' :: (name ++ [';']) ∧ name.all isReferenceChar = true ∧
      referenced? name = some c) ∨
    escapeText c = [c] ∧ c ≠ '&' ∧ c ≠ '<' ∧ c ≠ '>' := by
  by_cases amp : c = '&'
  · subst amp
    exact .inl ⟨"amp".toList, by decide, by decide, by decide⟩
  by_cases lt : c = '<'
  · subst lt
    exact .inl ⟨"lt".toList, by decide, by decide, by decide⟩
  by_cases gt : c = '>'
  · subst gt
    exact .inl ⟨"gt".toList, by decide, by decide, by decide⟩
  · exact .inr ⟨by simp [escapeText, amp, lt, gt], amp, lt, gt⟩

theorem goes_escape_text (c : Char) : Goes .text (escapeText c) [.char c] .text := by
  rcases escape_text_cases c with ⟨name, written, chars, known⟩ | ⟨written, amp, lt, gt⟩
  · rw [written]
    exact goes_reference name c chars known
  · rw [written]
    apply goes_step
    simp [Place.step, amp, lt, gt]

theorem goes_text (chars : List Char) :
    Goes .text (chars.flatMap escapeText) (chars.map .char) .text := by
  induction chars with
  | nil => exact goes_nil _
  | cons c rest induction => exact (goes_escape_text c).append induction

/-- What is written as the value of an attribute, and what it means. -/
def Means (written meant : List Char) : Prop :=
  ∀ tag name read, Goes (.value tag name read) written [] (.value tag name (read ++ meant))

theorem means_nil : Means [] [] := by
  intro tag name read
  rw [List.append_nil]
  exact goes_nil _

theorem Means.append {first second meant later : List Char} (start : Means first meant)
    (rest : Means second later) : Means (first ++ second) (meant ++ later) := by
  intro tag name read
  rw [← List.append_assoc]
  exact (start tag name read).append (rest tag name (read ++ meant))

def isPlainInValue (c : Char) : Bool := c != '"' && c != '&' && c != '<' && c != '>'

theorem means_char {c : Char} (plain : isPlainInValue c = true) : Means [c] [c] := by
  intro tag name read
  apply goes_step
  simp_all [Place.step, isPlainInValue]

theorem means_chars {text : List Char} (plain : text.all isPlainInValue = true) :
    Means text text := by
  induction text with
  | nil => exact means_nil
  | cons c rest induction =>
      rw [List.all_cons, Bool.and_eq_true] at plain
      exact (means_char plain.1).append (induction plain.2)

theorem means_reference (inside : List Char) (meant : Char)
    (chars : inside.all isReferenceChar = true) (known : referenced? inside = some meant) :
    Means ('&' :: (inside ++ [';'])) [meant] := by
  intro tag name read
  have run : Goes (.valueReference tag name read []) inside []
      (.valueReference tag name read inside) := by
    refine goes_inside (.valueReference tag name read) (fun _ c other allowed => ?_) inside chars
    rw [Place.step, if_neg other, if_pos allowed]
  refine Goes.cons (by rfl) (run.append (goes_step ?_))
  simp [Place.step, known]

theorem means_escape_text (c : Char) (other : c ≠ '"') : Means (escapeText c) [c] := by
  rcases escape_text_cases c with ⟨name, written, chars, known⟩ | ⟨written, amp, lt, gt⟩
  · rw [written]
    exact means_reference name c chars known
  · rw [written]
    apply means_char
    simp [isPlainInValue, other, amp, lt, gt]

theorem means_escape_value (c : Char) : Means (escapeValue c) [c] := by
  rw [escapeValue]
  split
  · rename_i same
    subst same
    exact means_reference "quot".toList '"' (by decide) (by decide)
  · rename_i other
    exact means_escape_text c other

/-- A text that is written character by character. -/
theorem means_flatMap {escape meaning : Char → List Char} (each : ∀ c, Means (escape c) (meaning c))
    (text : List Char) : Means (text.flatMap escape) (text.flatMap meaning) := by
  induction text with
  | nil => exact means_nil
  | cons c rest induction => exact (each c).append induction

end Characters

section Tags

def isName (name : String) : Bool :=
  match name.toList with
  | [] => false
  | first :: rest => first.isAlpha && rest.all isNameChar

theorem name_parts {name : String} (named : isName name = true) : ∃ first rest,
    name.toList = first :: rest ∧ first.isAlpha = true ∧ ∀ c ∈ rest, isNameChar c = true := by
  rw [isName] at named
  cases chars : name.toList with
  | nil => simp [chars] at named
  | cons first rest =>
      simp only [chars, Bool.and_eq_true, List.all_eq_true] at named
      exact ⟨first, rest, rfl, named⟩

/-- An attribute, and the name and value that it is read as. -/
structure Attribute.Reads (given : Attribute) (read : String × String) : Prop where
  named : isName given.name = true
  name : given.name = read.1
  value : match given.value with
    | none => read.2 = ""
    | some written => Means written read.2.toList

theorem reads_of_text {name : String} (named : isName name = true) (value : String) :
    (Attribute.ofText name value).Reads (name, value) := by
  refine ⟨named, rfl, ?_⟩
  have means := means_flatMap means_escape_value value.toList
  rwa [List.flatMap_singleton'] at means

/-- A place in a start tag where more attributes may follow, or its end. -/
structure Ready (place : Place) (tag : StartTag) : Prop where
  space : place.step ' ' = some (.spaced tag, [])
  close : place.step '>' = some (.text, [tag.token])

variable {place : Place} {tag : StartTag} {c : Char}

theorem name_char_facts (allowed : isNameChar c = true) : c ≠ '>' ∧ c ≠ ' ' ∧ c ≠ '=' := by
  refine ⟨?_, ?_, ?_⟩ <;> rintro rfl <;> exact absurd allowed (by decide)

theorem alpha_ne_slash (alpha : c.isAlpha = true) : c ≠ '/' := by
  rintro rfl
  exact absurd alpha (by decide)

theorem goes_attribute_name (tag : StartTag) (name : String) (named : isName name = true) :
    Goes (.spaced tag) name.toList [] (.attributeName tag name.toList) := by
  obtain ⟨first, rest, chars, alpha, plain⟩ := name_parts named
  rw [chars]
  have begins : (Place.spaced tag).step first = some (.attributeName tag [first], []) := by
    rw [Place.step, if_neg (alpha_ne_slash alpha), if_pos alpha]
  refine Goes.cons begins (goes_run (.attributeName tag) rest ?_ [first])
  intro c member read
  have allowed := plain c member
  have facts := name_char_facts allowed
  rw [Place.step, if_neg facts.2.2, if_neg facts.1, if_neg facts.2.1, if_pos allowed]

theorem goes_attribute {given : Attribute} {read : String × String} (reads : given.Reads read)
    (ready : Ready place tag) :
    ∃ next, Goes place given.print [] next ∧
      Ready next ⟨tag.tag, tag.attributes ++ [read]⟩ := by
  obtain ⟨own, written⟩ := given
  obtain ⟨name, value⟩ := read
  obtain ⟨named, rfl, meant⟩ := reads
  have begins := Goes.cons ready.space (goes_attribute_name tag own named)
  cases written with
  | none =>
      obtain rfl : value = "" := meant
      refine ⟨.attributeName tag own.toList, ?_, ?_⟩
      · rwa [Attribute.print, List.append_nil]
      · constructor <;> simp [Place.step, StartTag.put]
  | some written =>
      have opened : Goes (.attributeName tag own.toList) ['=', '"'] []
          (.value tag own.toList []) := Goes.cons rfl (goes_step rfl)
      have closed : Goes (.value tag own.toList value.toList) ['"'] []
          (.quoted (tag.put own.toList value.toList)) := goes_step rfl
      refine ⟨.quoted (tag.put own.toList value.toList), ?_, ?_⟩
      · have whole := begins.append (opened.append ((meant tag own.toList []).append closed))
        simpa [Attribute.print] using whole
      · constructor <;> simp [Place.step, StartTag.put]

theorem goes_attributes {given : List Attribute} {read : List (String × String)}
    (reads : List.Forall₂ Attribute.Reads given read) (ready : Ready place tag) :
    ∃ next, Goes place (given.flatMap Attribute.print) [] next ∧
      Ready next ⟨tag.tag, tag.attributes ++ read⟩ := by
  induction reads generalizing place tag with
  | nil => exact ⟨place, goes_nil _, by simpa using ready⟩
  | cons first _ induction =>
      obtain ⟨next, goes, readyNext⟩ := goes_attribute first ready
      obtain ⟨last, more, readyLast⟩ := induction readyNext
      refine ⟨last, goes.append more, ?_⟩
      simpa using readyLast

variable {name : String} {given : List Attribute} {read : List (String × String)}

/-- The name of a start tag and all its attributes. -/
theorem goes_start_open (named : isName name = true)
    (reads : List.Forall₂ Attribute.Reads given read) :
    ∃ next, Goes .text ('<' :: name.toList ++ given.flatMap Attribute.print) [] next ∧
      Ready next ⟨name, read⟩ := by
  obtain ⟨first, rest, chars, alpha, plain⟩ := name_parts named
  have whole : String.ofList (first :: rest) = name := by rw [← chars, String.ofList_toList]
  have run : Goes (.startName [first]) rest [] (.startName ([first] ++ rest)) := by
    apply goes_run
    intro c member read
    have allowed := plain c member
    have facts := name_char_facts allowed
    rw [Place.step, if_neg facts.1, if_neg facts.2.1, if_pos allowed]
  have ready : Ready (.startName ([first] ++ rest)) ⟨name, []⟩ := by
    constructor <;> simp [Place.step, StartTag.token, whole]
  have begins : Place.tagOpened.step first = some (.startName [first], []) := by
    rw [Place.step, if_neg (alpha_ne_slash alpha), if_pos alpha]
  obtain ⟨next, goes, readyNext⟩ := goes_attributes reads ready
  rw [chars]
  exact ⟨next, Goes.cons rfl ((Goes.cons begins run).append goes), readyNext⟩

theorem goes_start (named : isName name = true)
    (reads : List.Forall₂ Attribute.Reads given read) :
    Goes .text (Piece.start name given).print [.start name read] .text := by
  obtain ⟨next, goes, ready⟩ := goes_start_open named reads
  exact goes.append (goes_step ready.close)

theorem goes_single (named : isName name = true)
    (reads : List.Forall₂ Attribute.Reads given read) (slash : Bool) :
    Goes .text (Piece.single name given slash).print [.start name read] .text := by
  obtain ⟨next, goes, ready⟩ := goes_start_open named reads
  cases slash with
  | false => exact goes.append (goes_step ready.close)
  | true =>
      have slashed : Goes (.spaced ⟨name, read⟩) ['/', '>'] [.start name read] .text :=
        Goes.cons rfl (goes_step rfl)
      exact goes.append (Goes.cons ready.space slashed)

theorem goes_stop (named : isName name = true) :
    Goes .text (Piece.stop name).print [.stop name] .text := by
  obtain ⟨first, rest, chars, alpha, plain⟩ := name_parts named
  have run : Goes (.endName [first]) rest [] (.endName ([first] ++ rest)) := by
    apply goes_run
    intro c member read
    have allowed := plain c member
    rw [Place.step, if_neg (name_char_facts allowed).1, if_pos allowed]
  have begins : Place.endOpened.step first = some (.endName [first], []) := by
    rw [Place.step, if_pos alpha]
  have closed : Goes (.endName (first :: rest)) ['>'] [.stop name] .text := by
    apply goes_step
    rw [Place.step, if_pos rfl, ← chars, String.ofList_toList]
  rw [Piece.print, chars]
  exact Goes.cons rfl (Goes.cons rfl ((Goes.cons begins run).append closed))

end Tags

section Trees

/-- Pieces that are read as nodes, wherever they stand. -/
def Forms (pieces : List Piece) (nodes : List Node) : Prop :=
  ∃ tokens, Goes .text (pieces.flatMap Piece.print) tokens .text ∧
    ∀ outer done rest, build outer done (tokens ++ rest) = build outer (done ++ nodes) rest

theorem forms_nil : Forms [] [] :=
  ⟨[], goes_nil _, fun outer done rest => by rw [List.append_nil, List.nil_append]⟩

theorem Forms.append {first second : List Piece} {before behind : List Node}
    (start : Forms first before) (rest : Forms second behind) :
    Forms (first ++ second) (before ++ behind) := by
  obtain ⟨tokens, goes, built⟩ := start
  obtain ⟨more, goesOn, builtOn⟩ := rest
  refine ⟨tokens ++ more, ?_, ?_⟩
  · rw [List.flatMap_append]
    exact goes.append goesOn
  · intro outer done rest
    rw [List.append_assoc, built, builtOn, List.append_assoc]

theorem forms_text (chars : List Char) : Forms [.text chars] (chars.map .char) := by
  refine ⟨chars.map .char, ?_, ?_⟩
  · rw [List.flatMap_singleton]
    exact goes_text chars
  · intro outer done rest
    induction chars generalizing done with
    | nil => simp
    | cons c more induction =>
        rw [List.map_cons, List.cons_append, build, induction, List.map_cons, List.append_assoc,
          List.singleton_append]

variable {tag : String} {given : List Attribute} {read : List (String × String)}

theorem forms_element (named : isName tag = true) (filled : isVoid tag = false)
    (reads : List.Forall₂ Attribute.Reads given read) {content : List Piece} {nodes : List Node}
    (inside : Forms content nodes) :
    Forms (element tag given content) [.element tag read nodes] := by
  obtain ⟨tokens, goes, built⟩ := inside
  refine ⟨.start tag read :: tokens ++ [.stop tag], ?_, ?_⟩
  · have whole := ((goes_start named reads).append goes).append (goes_stop named)
    simpa [element] using whole
  · intro outer done rest
    have opened : ∀ more, build outer done (.start tag read :: more) =
        build (⟨tag, read, done⟩ :: outer) [] more := by
      intro more
      cases outer <;> simp [build, filled]
    rw [List.cons_append, List.cons_append, List.append_assoc, opened, built]
    simp [build]

theorem forms_single (named : isName tag = true) (void : isVoid tag = true)
    (reads : List.Forall₂ Attribute.Reads given read) (slash : Bool) :
    Forms [.single tag given slash] [.element tag read []] := by
  refine ⟨[.start tag read], ?_, ?_⟩
  · rw [List.flatMap_singleton]
    exact goes_single named reads slash
  · intro outer done rest
    cases outer <;> simp [build, void]

theorem read_render {pieces : List Piece} {nodes : List Node} (forms : Forms pieces nodes) :
    read? (render pieces) = some nodes := by
  obtain ⟨tokens, goes, built⟩ := forms
  have cut := goes []
  rw [List.append_nil] at cut
  have all := built [] [] []
  rw [List.append_nil, List.nil_append] at all
  rw [read?, render, String.toList_ofList, cut]
  simp [Place.read, all, build]

end Trees

section Walking

mutual

def Node.walk : Node → List Node
  | .char c => [.char c]
  | .element tag attributes content => .element tag attributes content :: walkAll content

def walkAll : List Node → List Node
  | [] => []
  | node :: rest => node.walk ++ walkAll rest

end

theorem walkAll_append (first second : List Node) :
    walkAll (first ++ second) = walkAll first ++ walkAll second := by
  induction first with
  | nil => rfl
  | cons node rest induction =>
      rw [List.cons_append, walkAll, walkAll, induction, List.append_assoc]

theorem walkAll_chars (chars : List Char) :
    walkAll (chars.map Node.char) = chars.map Node.char := by
  induction chars with
  | nil => rfl
  | cons c rest induction =>
      rw [List.map_cons, walkAll, Node.walk, induction, List.singleton_append]

theorem walkAll_element (tag : String) (attributes : List (String × String))
    (content : List Node) : walkAll [.element tag attributes content] =
      .element tag attributes content :: walkAll content := by
  rw [walkAll, walkAll, Node.walk, List.append_nil]

def Node.char? : Node → Option Char
  | .char c => some c
  | .element _ _ _ => none

def textOf (nodes : List Node) : String := String.ofList ((walkAll nodes).filterMap Node.char?)

theorem textOf_chars (chars : List Char) : textOf (chars.map Node.char) = String.ofList chars := by
  rw [textOf, walkAll_chars, List.filterMap_map]
  exact congrArg String.ofList List.filterMap_some

/-- Whether all elements among nodes, however deep they are, are of some sort. -/
def EachElement (sort : String → List (String × String) → Prop) (nodes : List Node) : Prop :=
  ∀ tag attributes content, .element tag attributes content ∈ walkAll nodes → sort tag attributes

/-- Pieces that are read as a tree on their own in which all elements are of some sort. -/
def Legible (sort : String → List (String × String) → Prop) (pieces : List Piece) : Prop :=
  ∃ nodes, Forms pieces nodes ∧ EachElement sort nodes

variable {sort : String → List (String × String) → Prop}

theorem each_append {first second : List Node} (before : EachElement sort first)
    (behind : EachElement sort second) : EachElement sort (first ++ second) := by
  intro tag attributes content member
  rw [walkAll_append, List.mem_append] at member
  cases member with
  | inl start => exact before tag attributes content start
  | inr rest => exact behind tag attributes content rest

theorem each_chars (chars : List Char) : EachElement sort (chars.map .char) := by
  intro tag attributes content member
  simp [walkAll_chars] at member

theorem each_element {tag : String} {read : List (String × String)} {nodes : List Node}
    (own : sort tag read) (inside : EachElement sort nodes) :
    EachElement sort [.element tag read nodes] := by
  intro other attributes content member
  rw [walkAll_element, List.mem_cons] at member
  cases member with
  | inl same =>
      obtain ⟨rfl, rfl, rfl⟩ := Node.element.inj same
      exact own
  | inr deeper => exact inside other attributes content deeper

end Walking

section Outlines

/-- What is left of an element without its attributes and the text in it: its tag, and what is left
of the elements in it. -/
inductive Outline
  | element (tag : String) (inside : List Outline)
  deriving Repr

mutual

def Node.outline : Node → List Outline
  | .char _ => []
  | .element tag _ content => [.element tag (outlineAll content)]

def outlineAll : List Node → List Outline
  | [] => []
  | node :: rest => node.outline ++ outlineAll rest

end

theorem outlineAll_append (first second : List Node) :
    outlineAll (first ++ second) = outlineAll first ++ outlineAll second := by
  induction first with
  | nil => rfl
  | cons node rest induction =>
      rw [List.cons_append, outlineAll, outlineAll, induction, List.append_assoc]

theorem outlineAll_chars (chars : List Char) : outlineAll (chars.map .char) = [] := by
  induction chars with
  | nil => rfl
  | cons c rest induction =>
      rw [List.map_cons, outlineAll, Node.outline, induction, List.nil_append]

theorem outlineAll_element (tag : String) (attributes : List (String × String))
    (content : List Node) :
    outlineAll [.element tag attributes content] = [.element tag (outlineAll content)] := by
  rw [outlineAll, outlineAll, Node.outline, List.append_nil]

/-- Pieces that are read as a tree on their own, in which all elements are of some sort and stand in
each other as an outline tells. -/
def Shaped (sort : String → List (String × String) → Prop) (outline : List Outline)
    (pieces : List Piece) : Prop :=
  ∃ nodes, Forms pieces nodes ∧ EachElement sort nodes ∧ outlineAll nodes = outline

variable {sort : String → List (String × String) → Prop} {outline : List Outline}

theorem shaped_nil : Shaped sort [] [] := ⟨[], forms_nil, nofun, rfl⟩

theorem Shaped.append {more : List Outline} {first second : List Piece}
    (start : Shaped sort outline first) (rest : Shaped sort more second) :
    Shaped sort (outline ++ more) (first ++ second) := by
  obtain ⟨nodes, forms, each, rfl⟩ := start
  obtain ⟨behind, formsOn, eachOn, rfl⟩ := rest
  exact ⟨nodes ++ behind, forms.append formsOn, each_append each eachOn, outlineAll_append ..⟩

theorem shaped_text (chars : List Char) : Shaped sort [] [.text chars] :=
  ⟨_, forms_text chars, each_chars chars, outlineAll_chars chars⟩

variable {tag : String} {given : List Attribute} {read : List (String × String)}

theorem shaped_element (named : isName tag = true) (filled : isVoid tag = false)
    (reads : List.Forall₂ Attribute.Reads given read) (own : sort tag read) {content : List Piece}
    (inside : Shaped sort outline content) :
    Shaped sort [.element tag outline] (element tag given content) := by
  obtain ⟨nodes, forms, each, rfl⟩ := inside
  exact ⟨_, forms_element named filled reads forms, each_element own each, outlineAll_element ..⟩

theorem shaped_single (named : isName tag = true) (void : isVoid tag = true)
    (reads : List.Forall₂ Attribute.Reads given read) (own : sort tag read) (slash : Bool) :
    Shaped sort [.element tag []] [.single tag given slash] :=
  ⟨_, forms_single named void reads slash, each_element own nofun, outlineAll_element ..⟩

end Outlines

section Selecting

def isClassSpace (c : Char) : Bool := [' ', '\t', '\n', '\x0c', '\r'].contains c

def hasClass (attributes : List (String × String)) (name : String) : Bool :=
  (attributes.lookup "class").any fun classes =>
    (classes.toList.splitOnP isClassSpace).contains name.toList

def isElement (tag name : String) : Node → Bool
  | .char _ => false
  | .element own attributes _ => own == tag && hasClass attributes name

def content : Node → List Node
  | .char _ => []
  | .element _ _ content => content

/-- The elements of a tag and a class, in the order of the document. -/
def select (tag name : String) (nodes : List Node) : List Node :=
  (walkAll nodes).filter (isElement tag name)

theorem element_of_other_tag {tag name other : String} {node : Node}
    (element : isElement tag name node = true) (different : tag ≠ other) (otherName : String) :
    isElement other otherName node = false := by
  cases node with
  | char c => rfl
  | element own attributes nodes =>
      simp only [isElement, Bool.and_eq_true, beq_iff_eq] at element
      simp [isElement, element.1, different]

end Selecting

end FlagBoard.Html
