import FlagBoard.Proofs.Html.Reading
import Mathlib

/-!
What stands behind the angle brackets of a text that is read. Inside of a tag the reader refuses
them, so each one opens a tag; and a tree has an element for every tag that it was put together of.
-/

namespace FlagBoard.Html

/-- Behind an angle bracket a text goes on as the start tag or the end tag of some name. -/
def Opens (tag : String) (behind : List Char) : Prop :=
  ∃ rest, behind = tag.toList ++ '>' :: rest ∨ behind = tag.toList ++ ' ' :: rest ∨
    behind = '/' :: tag.toList ++ '>' :: rest

def Token.tag? : Token → Option String
  | .start tag _ => some tag
  | .stop tag => some tag
  | .char _ => none

/-- A tag of some name is among tokens. -/
def Tagged (tag : String) (tokens : List Token) : Prop := ∃ token ∈ tokens, token.tag? = some tag

theorem tagged_cons {tag : String} {token : Token} {rest : List Token} :
    Tagged tag (token :: rest) ↔ token.tag? = some tag ∨ Tagged tag rest := by
  simp [Tagged]

section Cutting

variable {place next : Place} {c : Char} {tag : String} {text : List Char} {tokens new : List Token}

/-- The first character of a text that is read, and the rest of it. -/
theorem read_cons (read : place.read (c :: text) = some tokens) : ∃ next new more,
    place.step c = some (next, new) ∧ next.read text = some more ∧ tokens = new ++ more := by
  cases step : place.step c with
  | none =>
      have refused : place.read (c :: text) = none := by
        rw [Place.read.eq_def]
        cases place <;> simp only [step]
      rw [refused] at read
      cases read
  | some taken =>
      obtain ⟨next, new⟩ := taken
      have goes : place.read (c :: text) = (next.read text).map (new ++ ·) := goes_step step text
      rw [goes] at read
      obtain ⟨more, later, rfl⟩ := Option.map_eq_some_iff.mp read
      exact ⟨next, new, more, rfl, later, rfl⟩

/-- Only in a text may an angle bracket stand. -/
theorem step_bracket (other : place ≠ .text) : place.step '<' = none := by
  cases place with
  | text => exact absurd rfl other
  | _ => simp [Place.step, isReferenceChar, isNameChar, Char.isAlphanum, Char.isAlpha,
      Char.isUpper, Char.isLower, Char.isDigit]

/-- What stands from an angle bracket on is read as a text of its own. -/
theorem read_from_bracket (before : List Char) {behind : List Char}
    (read : place.read (before ++ '<' :: behind) = some tokens) : ∃ first second,
    Place.text.read ('<' :: behind) = some second ∧ tokens = first ++ second := by
  induction before generalizing place tokens with
  | nil =>
      by_cases text : place = .text
      · exact ⟨[], tokens, text ▸ read, rfl⟩
      · obtain ⟨_, _, _, step, _⟩ := read_cons read
        rw [step_bracket text] at step
        cases step
  | cons c rest induction =>
      obtain ⟨next, new, more, _, later, rfl⟩ := read_cons read
      obtain ⟨first, second, found, rfl⟩ := induction later
      exact ⟨new ++ first, second, found, (List.append_assoc ..).symm⟩

def Place.started : Place → Option String
  | .spaced tag => some tag.tag
  | .attributeName tag _ => some tag.tag
  | .assigned tag _ => some tag.tag
  | .value tag _ _ => some tag.tag
  | .valueReference tag _ _ _ => some tag.tag
  | .quoted tag => some tag.tag
  | .slashed tag => some tag.tag
  | _ => none

/-- Each character goes on with the tag, or completes it. -/
theorem started_step (within : place.started = some tag) (step : place.step c = some (next, new)) :
    next.started = some tag ∨ Tagged tag new := by
  have completed {start : StartTag} (same : some start.tag = some tag) :
      Tagged tag [start.token] := ⟨_, List.mem_singleton_self _, same⟩
  cases place with
  | spaced start | attributeName start name | assigned start name | value start name read
  | valueReference start name read inside | quoted start | slashed start =>
      rw [Place.step] at step
      grind [Place.started, StartTag.put, Option.map_eq_some_iff]
  | _ => cases within

/-- A text that is read ends outside of all tags. -/
theorem started_read (within : place.started = some tag) (read : place.read text = some tokens) :
    Tagged tag tokens := by
  induction text generalizing place tokens with
  | nil => cases place <;> cases within <;> cases read
  | cons c rest induction =>
      obtain ⟨next, new, more, step, later, rfl⟩ := read_cons read
      rcases started_step within step with still | ⟨token, member, named⟩
      · obtain ⟨token, member, named⟩ := induction still later
        exact ⟨token, List.mem_append_right new member, named⟩
      · exact ⟨token, List.mem_append_left more member, named⟩

/-- A start tag goes on to the end of its name, and is completed behind it. -/
theorem start_name_read {name : List Char} (read : (Place.startName name).read text = some tokens) :
    ∃ more rest, (text = more ++ '>' :: rest ∨ text = more ++ ' ' :: rest) ∧
      Tagged (String.ofList (name ++ more)) tokens := by
  induction text generalizing name with
  | nil => cases read
  | cons c rest induction =>
      obtain ⟨next, new, more, step, later, rfl⟩ := read_cons read
      rw [Place.step] at step
      split at step
      next same =>
          obtain ⟨rfl, rfl⟩ := Prod.mk.inj (Option.some.inj step)
          exact ⟨[], rest, .inl (by rw [same]; rfl), tagged_cons.mpr (.inl (by simp [Token.tag?]))⟩
      split at step
      next same =>
          obtain ⟨rfl, rfl⟩ := Prod.mk.inj (Option.some.inj step)
          refine ⟨[], rest, .inr (by rw [same]; rfl), ?_⟩
          rw [List.append_nil]
          exact started_read rfl later
      split at step
      · obtain ⟨rfl, rfl⟩ := Prod.mk.inj (Option.some.inj step)
        obtain ⟨more, behind, shape, tagged⟩ := induction later
        rw [List.append_assoc] at tagged
        exact ⟨c :: more, behind, shape.imp (congrArg (c :: ·)) (congrArg (c :: ·)), tagged⟩
      · cases step

/-- An end tag is its name and nothing else. -/
theorem end_name_read {name : List Char} (read : (Place.endName name).read text = some tokens) :
    ∃ more rest, text = more ++ '>' :: rest ∧ Tagged (String.ofList (name ++ more)) tokens := by
  induction text generalizing name with
  | nil => cases read
  | cons c rest induction =>
      obtain ⟨next, new, more, step, later, rfl⟩ := read_cons read
      rw [Place.step] at step
      split at step
      next same =>
          obtain ⟨rfl, rfl⟩ := Prod.mk.inj (Option.some.inj step)
          exact ⟨[], rest, by rw [same]; rfl, tagged_cons.mpr (.inl (by simp [Token.tag?]))⟩
      split at step
      · obtain ⟨rfl, rfl⟩ := Prod.mk.inj (Option.some.inj step)
        obtain ⟨more, behind, shape, tagged⟩ := induction later
        rw [List.append_assoc] at tagged
        exact ⟨c :: more, behind, congrArg (c :: ·) shape, tagged⟩
      · cases step

theorem end_opened_read (read : Place.endOpened.read text = some tokens) :
    ∃ name rest, text = name ++ '>' :: rest ∧ Tagged (String.ofList name) tokens := by
  cases text with
  | nil => cases read
  | cons c rest =>
      obtain ⟨next, new, more, step, later, rfl⟩ := read_cons read
      rw [Place.step] at step
      split at step
      · obtain ⟨rfl, rfl⟩ := Prod.mk.inj (Option.some.inj step)
        obtain ⟨name, behind, rfl, tagged⟩ := end_name_read later
        exact ⟨c :: name, behind, rfl, tagged⟩
      · cases step

/-- An angle bracket in a text opens a tag, and the tag is read. -/
theorem bracket_read (read : Place.text.read ('<' :: text) = some tokens) :
    ∃ tag, Opens tag text ∧ Tagged tag tokens := by
  have inside : Place.tagOpened.read text = some tokens := by
    obtain ⟨next, new, more, step, later, rfl⟩ := read_cons read
    obtain ⟨rfl, rfl⟩ := Prod.mk.inj (Option.some.inj step)
    exact later
  cases text with
  | nil => cases inside
  | cons c rest =>
      obtain ⟨next, new, more, step, later, rfl⟩ := read_cons inside
      rw [Place.step] at step
      split at step
      next slash =>
          obtain ⟨rfl, rfl⟩ := Prod.mk.inj (Option.some.inj step)
          obtain ⟨name, behind, rfl, tagged⟩ := end_opened_read later
          exact ⟨_, ⟨behind, .inr (.inr (by simp [slash]))⟩, tagged⟩
      split at step
      · obtain ⟨rfl, rfl⟩ := Prod.mk.inj (Option.some.inj step)
        obtain ⟨name, behind, shape, tagged⟩ := start_name_read later
        refine ⟨_, ⟨behind, ?_⟩, tagged⟩
        rcases shape with rfl | rfl
        · exact .inl (by simp)
        · exact .inr (.inl (by simp))
      · cases step

end Cutting

section Trees

/-- An element of some tag is among nodes, however deep. -/
def HasTag (tag : String) (nodes : List Node) : Prop :=
  ∃ attributes content, .element tag attributes content ∈ walkAll nodes

variable {tag : String}

theorem hasTag_append {first second : List Node} :
    HasTag tag (first ++ second) ↔ HasTag tag first ∨ HasTag tag second := by
  simp only [HasTag, walkAll_append, List.mem_append, exists_or]

theorem hasTag_char {c : Char} : ¬ HasTag tag [.char c] := by
  simp [HasTag, walkAll, Node.walk]

theorem hasTag_element {own : String} {attributes : List (String × String)} {content : List Node} :
    HasTag tag [.element own attributes content] ↔ own = tag ∨ HasTag tag content := by
  simp only [HasTag, walkAll_element, List.mem_cons, exists_or, Node.element.injEq]
  simp [eq_comm]

/-- A tag is among the elements so far, those around them, or the tokens that are left. -/
def Pending (tag : String) (outer : List Unclosed) (done : List Node) (tokens : List Token) : Prop :=
  HasTag tag done ∨ (∃ inner ∈ outer, inner.tag = tag ∨ HasTag tag inner.before) ∨
    Tagged tag tokens

/-- No tag is lost when a tree is put together. -/
theorem build_keeps {outer : List Unclosed} {done nodes : List Node} {tokens : List Token}
    (built : build outer done tokens = some nodes) (pending : Pending tag outer done tokens) :
    HasTag tag nodes := by
  -- A tag that is taken becomes that of an element, and elements that are moved keep their tags.
  fun_induction build outer done tokens with
  | case1 done =>
      obtain rfl := Option.some.inj built
      simpa [Pending, Tagged] using pending
  | case3 outer done c rest induction =>
      apply induction built
      simpa [Pending, hasTag_append, hasTag_char, tagged_cons, Token.tag?] using pending
  | case4 outer done own attributes rest void induction =>
      apply induction built
      simp only [Pending, hasTag_append, hasTag_element, tagged_cons, Token.tag?] at pending ⊢
      grind
  | case5 outer done own attributes rest filled induction =>
      apply induction built
      simp only [Pending, List.exists_mem_cons_iff, tagged_cons, Token.tag?] at pending ⊢
      grind
  | case7 inner outer done rest induction =>
      apply induction built
      simp only [Pending, hasTag_append, hasTag_element, List.exists_mem_cons_iff, tagged_cons,
        Token.tag?] at pending ⊢
      grind
  | case2 | case6 | case8 => cases built

end Trees

/-- Every angle bracket of a text that is read opens a tag of an element in its tree. -/
theorem brackets_open_tags {text : String} {nodes : List Node} (read : read? text = some nodes)
    {before behind : List Char} (shape : text.toList = before ++ '<' :: behind) :
    ∃ tag, Opens tag behind ∧ HasTag tag nodes := by
  rw [read?, shape] at read
  obtain ⟨tokens, cut, built⟩ := Option.bind_eq_some_iff.mp read
  obtain ⟨first, second, later, rfl⟩ := read_from_bracket before cut
  obtain ⟨tag, opens, token, member, named⟩ := bracket_read later
  have tagged : Tagged tag (first ++ second) :=
    ⟨token, List.mem_append_right first member, named⟩
  exact ⟨tag, opens, build_keeps built (.inr (.inr tagged))⟩

end FlagBoard.Html
