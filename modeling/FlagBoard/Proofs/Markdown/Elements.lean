import FlagBoard.Markdown.InlineReader
import FlagBoard.Proofs.Markdown.Blocks
import Mathlib

/-!
The elements that a document can have. The reading of text makes no blocks of its own, so those of
the document are the ones that its lines were read to, however links, emphasis and raw HTML reach
over them.
-/

namespace FlagBoard.Markdown

/-- An element in which all blocks are of kinds that a block of a document can have. -/
inductive Element.Sound : Element → Prop
  | text (chars : List Char) : Element.Sound (.text chars)
  | code (chars : List Char) : Element.Sound (.code chars)
  | softBreak : Element.Sound .softBreak
  | hardBreak : Element.Sound .hardBreak
  | emphasis (content : List Element) : (∀ element ∈ content, Element.Sound element) →
      Element.Sound (.emphasis content)
  | strong (content : List Element) : (∀ element ∈ content, Element.Sound element) →
      Element.Sound (.strong content)
  | struck (content : List Element) : (∀ element ∈ content, Element.Sound element) →
      Element.Sound (.struck content)
  | link (mail : Bool) (destination title : List Char) (content : List Element) :
      (∀ element ∈ content, Element.Sound element) →
      Element.Sound (.link mail destination title content)
  | image (destination title : List Char) (content : List Element) :
      (∀ element ∈ content, Element.Sound element) →
      Element.Sound (.image destination title content)
  | rawHtml : Element.Sound .rawHtml
  | block (kind : Kind) (content : List Element) : kind.Sound →
      (∀ element ∈ content, Element.Sound element) → Element.Sound (.block kind content)

def SoundElements (elements : List Element) : Prop := ∀ element ∈ elements, element.Sound

section Elements

variable {first rest elements : List Element} {element : Element}

theorem sound_no_elements : SoundElements [] := nofun

theorem sound_element_cons (head : element.Sound) (tail : SoundElements rest) :
    SoundElements (element :: rest) := List.forall_mem_cons.mpr ⟨head, tail⟩

theorem SoundElements.append (before : SoundElements first) (behind : SoundElements rest) :
    SoundElements (first ++ rest) := List.forall_mem_append.mpr ⟨before, behind⟩

theorem SoundElements.reverse (sound : SoundElements elements) : SoundElements elements.reverse :=
  fun part member => sound part (List.mem_reverse.mp member)

end Elements

def Part.Sound : Part → Prop
  | .element given => given.Sound
  | .run _ _ _ _ _ => True

namespace Spans

structure Sound (spans : Spans) : Prop where
  openings : ∀ opening ∈ spans.openings, SoundElements opening.inside
  outside : SoundElements spans.outside

variable {spans : Spans}

theorem run_text_sound (mark : Char) (count : Nat) (space : List Char) :
    (runText mark count space).Sound := .text _

theorem push_sound {elements : List Element} (sound : spans.Sound)
    (added : SoundElements elements) : (spans.push elements).Sound := by
  obtain ⟨openings, outside⟩ := sound
  rw [push]
  split
  next empty => exact ⟨by simp [empty], added.append outside⟩
  next opening rest shape =>
      rw [shape, List.forall_mem_cons] at openings
      exact ⟨List.forall_mem_cons.mpr ⟨added.append openings.1, openings.2⟩, outside⟩

theorem dissolve_sound {openings : List Opening}
    (sound : ∀ opening ∈ openings, SoundElements opening.inside) :
    SoundElements (dissolve openings) := by
  intro element member
  obtain ⟨opening, given, inside⟩ := List.mem_flatMap.mp member
  rcases List.mem_append.mp inside with own | mark
  · exact sound opening given element own
  · rw [List.mem_singleton.mp mark]
    exact run_text_sound _ _ _

theorem wrap_sound (mark : Char) (count : Nat) {content : List Element}
    (sound : SoundElements content) : SoundElements (wrap mark count content) := by
  induction count using Nat.twoStepInduction generalizing content with
  | zero => exact sound
  | one =>
      rw [wrap]
      split
      · exact sound_element_cons (.struck _ sound) sound_no_elements
      · exact sound_element_cons (.emphasis _ sound) sound_no_elements
  | more count induction _ =>
      rw [wrap]
      apply induction
      split
      · exact sound_element_cons (.struck _ sound) sound_no_elements
      · exact sound_element_cons (.strong _ sound) sound_no_elements

/-- Closing spans moves elements into spans and out of runs, and keeps them. -/
theorem close_sound (mark : Char) (length : Nat) (both : Bool) (steps left : Nat)
    (sound : spans.Sound) : (close mark length both steps left spans).1.Sound := by
  induction steps generalizing left spans with
  | zero => exact sound
  | succ steps induction =>
      rw [close]
      split
      · exact sound
      split
      · exact ⟨sound.openings, sound.outside⟩
      next depth _ =>
          split
          · exact sound
          next opening rest shape =>
              have behind : ∀ other ∈ opening :: rest, SoundElements other.inside := by
                rw [← shape]
                exact fun other member => sound.openings other (List.mem_of_mem_drop member)
              rw [List.forall_mem_cons] at behind
              have taken : SoundElements (dissolve (spans.openings.take depth)) :=
                dissolve_sound fun other member =>
                  sound.openings other (List.mem_of_mem_take member)
              apply induction
              apply push_sound
              · refine ⟨?_, sound.outside⟩
                dsimp only
                split
                · exact List.forall_mem_cons.mpr ⟨sound_no_elements, behind.2⟩
                · exact behind.2
              · exact (wrap_sound _ _ (taken.append behind.1).reverse).reverse

/-- What is left of a run that was closed opens spans, or is text. -/
theorem open_run_sound (mark : Char) (count : Nat) (space : List Char) (opens both : Bool)
    {closed : Spans × Nat} (sound : closed.1.Sound) :
    (if closed.2 = 0 then closed.1
      else if opens then
        { closed.1 with openings := ⟨mark, closed.2, count, space, both, []⟩ :: closed.1.openings }
      else closed.1.push [runText mark closed.2 space]).Sound := by
  split
  · exact sound
  split
  · exact ⟨List.forall_mem_cons.mpr ⟨sound_no_elements, sound.openings⟩, sound.outside⟩
  · exact push_sound sound (sound_element_cons (run_text_sound _ _ _) sound_no_elements)

theorem add_sound {part : Part} (own : part.Sound) (sound : spans.Sound) :
    (spans.add part).Sound := by
  cases part with
  | element element => exact push_sound sound (sound_element_cons own sound_no_elements)
  | run mark count space opens closes =>
      rw [add]
      cases closes with
      | true => exact open_run_sound mark count space opens _ (close_sound _ _ _ _ _ sound)
      | false =>
          have kept : (spans, count).1.Sound := sound
          exact open_run_sound mark count space opens _ kept

end Spans

theorem emphasise_sound {parts : List Part} (sound : ∀ part ∈ parts, part.Sound) :
    SoundElements (emphasise parts) := by
  have all : ∀ spans : Spans, spans.Sound → (parts.foldl Spans.add spans).Sound := by
    induction parts with
    | nil => exact fun _ given => given
    | cons part rest induction =>
        rw [List.forall_mem_cons] at sound
        exact fun spans given => induction sound.2 _ (Spans.add_sound sound.1 given)
  have found := all ⟨[], [], 0⟩ ⟨nofun, nofun⟩
  exact ((Spans.dissolve_sound found.openings).append found.outside).reverse

/-- A part of a block of which the blocks in it are of such kinds. -/
def Sibling.Sound : Sibling → Prop
  | .token _ _ _ => True
  | .block _ _ element => element.Sound

/-- Parts of a block of which the blocks in them are of such kinds. -/
def SoundSiblings (siblings : List Sibling) : Prop := ∀ sibling ∈ siblings, sibling.Sound

namespace Sibling

variable {siblings : List Sibling}

theorem start_from_sound (place : Nat) {sibling : Sibling} (sound : sibling.Sound) :
    (sibling.startFrom place).Sound := by
  cases sibling with
  | token start stop part => trivial
  | block start stop element => exact sound

theorem reaching_sound (place : Nat) (sound : SoundSiblings siblings) :
    SoundSiblings (reaching place siblings) :=
  fun sibling member => sound sibling ((List.dropWhile_sublist _).mem member)

theorem behind_sound (place : Nat) (sound : SoundSiblings siblings) :
    SoundSiblings (behind place siblings) := by
  have rest := reaching_sound place sound
  rw [behind]
  split
  · exact nofun
  next first others shape =>
      rw [shape] at rest
      have parts := List.forall_mem_cons.mp rest
      exact List.forall_mem_cons.mpr ⟨start_from_sound place parts.1, parts.2⟩

end Sibling

namespace Reading

structure Sound (reading : Reading) : Prop where
  parts : ∀ part ∈ reading.parts, part.Sound
  brackets : ∀ bracket ∈ reading.brackets, ∀ part ∈ bracket.outer, part.Sound

variable {reading : Reading}

theorem push_sound {element : Element} (own : element.Sound) (sound : reading.Sound) :
    (reading.push element).Sound :=
  ⟨List.forall_mem_cons.mpr ⟨own, sound.parts⟩, sound.brackets⟩

theorem bracket_text_sound {parts : List Part} (bracket : Bracket)
    (sound : ∀ part ∈ parts, part.Sound) (outer : ∀ part ∈ bracket.outer, part.Sound) :
    ∀ part ∈ parts ++ .element (.text bracket.text) :: bracket.outer, part.Sound :=
  List.forall_mem_append.mpr ⟨sound, List.forall_mem_cons.mpr ⟨.text _, outer⟩⟩

theorem flat_sound (sound : reading.Sound) : ∀ part ∈ reading.flat, part.Sound := by
  obtain ⟨parts, brackets⟩ := sound
  rw [flat]
  generalize reading.parts = before at parts
  generalize reading.brackets = opened at brackets
  induction opened generalizing before with
  | nil => exact parts
  | cons bracket rest induction =>
      rw [List.forall_mem_cons] at brackets
      exact induction _ (bracket_text_sound bracket parts brackets.1) brackets.2

variable {bracket : Bracket} {rest : List Bracket}

theorem drop_bracket_sound (sound : reading.Sound) (shape : reading.brackets = bracket :: rest)
    {closing : Element} (own : closing.Sound) :
    (reading.dropBracket bracket rest closing).Sound := by
  have brackets := sound.brackets
  rw [shape, List.forall_mem_cons] at brackets
  refine ⟨?_, brackets.2⟩
  exact bracket_text_sound bracket (List.forall_mem_cons.mpr ⟨own, sound.parts⟩) brackets.1

theorem close_bracket_sound (sound : reading.Sound) (shape : reading.brackets = bracket :: rest)
    (destination title : List Char) :
    (reading.closeBracket bracket rest destination title).Sound := by
  have brackets := sound.brackets
  rw [shape, List.forall_mem_cons] at brackets
  have content : SoundElements (emphasise reading.parts.reverse) :=
    emphasise_sound fun part member => sound.parts part (List.mem_reverse.mp member)
  rw [closeBracket]
  refine ⟨List.forall_mem_cons.mpr ⟨?_, brackets.1⟩, ?_⟩
  · dsimp only [Part.Sound]
    split
    · exact .image _ _ _ content
    · exact .link _ _ _ _ content
  · dsimp only
    split
    · exact brackets.2
    · intro other member
      obtain ⟨outer, given, rfl⟩ := List.mem_map.mp member
      split
      · exact brackets.2 outer given
      · exact brackets.2 outer given

end Reading

namespace Setting

variable (setting : Setting) {reading : Reading} {rest : List Sibling}

/-- What was read so far and what is left to read. -/
def SoundPair (pair : Reading × List Sibling) : Prop := pair.1.Sound ∧ SoundSiblings pair.2

theorem read_reference_sound (bracket : Bracket) (free : Bool) (stop : Nat)
    (sound : SoundSiblings rest) :
    SoundSiblings (setting.readReference bracket free stop rest).2 := by
  rw [readReference.eq_def]
  dsimp only
  split
  · split <;> exact nofun
  next next others =>
      split
      · split
        · exact fun sibling member => sound sibling (List.mem_of_mem_drop member)
        · exact sound
      split
      · split <;> exact sound
      next label labelStop _ =>
          have reached := Sibling.reaching_sound (labelStop - 1) sound
          split
          · exact sound
          next last behind shape =>
              rw [shape] at reached
              have parts := List.forall_mem_cons.mp reached
              split
              · exact parts.2
              · refine List.forall_mem_append.mpr ⟨?_, List.forall_mem_cons.mpr ⟨trivial, parts.2⟩⟩
                exact fun sibling member => sound sibling (List.mem_of_mem_take member)

theorem read_closing_sound (free : Bool) (start stop : Nat) (sound : reading.Sound)
    (left : SoundSiblings rest) :
    SoundPair (setting.readClosing reading free start stop rest) := by
  rw [readClosing]
  split
  · exact ⟨Reading.push_sound (.text _) sound, left⟩
  next bracket outer shape =>
      split
      · exact ⟨Reading.drop_bracket_sound sound shape (.text _), left⟩
      split
      · exact ⟨Reading.close_bracket_sound sound shape _ _, Sibling.behind_sound _ left⟩
      · have behind := setting.read_reference_sound bracket free stop left
        split
        next _ _ found =>
            rw [found] at behind
            exact ⟨Reading.close_bracket_sound sound shape _ _, behind⟩
        next _ found =>
            rw [found] at behind
            exact ⟨Reading.drop_bracket_sound sound shape (.text _), behind⟩

theorem read_angle_sound (start stop : Nat) (sound : reading.Sound) (left : SoundSiblings rest) :
    SoundPair (setting.readAngle reading start stop rest) := by
  rw [readAngle]
  split
  · refine ⟨Reading.push_sound (.link _ _ _ _ ?_) sound, Sibling.behind_sound _ left⟩
    exact sound_element_cons (.text _) sound_no_elements
  split
  · exact ⟨Reading.push_sound .rawHtml sound, Sibling.behind_sound _ left⟩
  · exact ⟨Reading.push_sound (.text _) sound, left⟩

theorem close_ticks_sound {count close : Nat} {behind : List Sibling}
    (sound : SoundSiblings rest) (found : closeTicks count rest = some (close, behind)) :
    SoundSiblings behind := by
  induction rest with
  | nil => cases found
  | cons sibling others induction =>
      have parts := List.forall_mem_cons.mp sound
      rw [closeTicks.eq_def] at found
      split at found
      next shape =>
          obtain ⟨rfl, rfl⟩ := List.cons.inj shape
          split at found
          · obtain ⟨_, rfl⟩ := Prod.mk.inj (Option.some.inj found)
            exact parts.2
          · exact induction parts.2 found
      next shape =>
          obtain ⟨rfl, rfl⟩ := List.cons.inj shape
          exact induction parts.2 found
      · cases found

theorem read_ticks_sound (count : Nat) (escaped : Bool) (start stop : Nat) (sound : reading.Sound)
    (left : SoundSiblings rest) :
    SoundPair (setting.readTicks reading count escaped start stop rest) := by
  have closed {width close : Nat} {behind : List Sibling}
      (found : (if width = 0 then none else closeTicks width rest) = some (close, behind)) :
      SoundSiblings behind :=
    close_ticks_sound left (Option.ite_none_left_eq_some.mp found).2
  rw [readTicks]
  split
  next close behind found =>
      have before : (if escaped then reading.push (.text ['\x60']) else reading).Sound := by
        split
        · exact Reading.push_sound (.text _) sound
        · exact sound
      exact ⟨Reading.push_sound (.code _) before, closed found⟩
  · exact ⟨Reading.push_sound (.text _) sound, left⟩

theorem read_part_sound {part : Sibling} (own : part.Sound) (sound : reading.Sound)
    (left : SoundSiblings rest) : SoundPair (setting.readPart reading part rest) := by
  cases part with
  | block start stop element => exact ⟨Reading.push_sound own sound, left⟩
  | token start stop what =>
      cases what with
      | text => exact ⟨Reading.push_sound (.text _) sound, left⟩
      | meant chars => exact ⟨Reading.push_sound (.text _) sound, left⟩
      | softBreak => exact ⟨Reading.push_sound .softBreak sound, left⟩
      | hardBreak => exact ⟨Reading.push_sound .hardBreak sound, left⟩
      | run mark count opens closes =>
          exact ⟨⟨List.forall_mem_cons.mpr ⟨trivial, sound.parts⟩, sound.brackets⟩, left⟩
      | ticks count escaped => exact setting.read_ticks_sound count escaped start stop sound left
      | angle => exact setting.read_angle_sound start stop sound left
      | opening image =>
          exact ⟨⟨nofun, List.forall_mem_cons.mpr ⟨sound.parts, sound.brackets⟩⟩, left⟩
      | closing free => exact setting.read_closing_sound free start stop sound left

theorem read_parts_sound (steps : Nat) (sound : reading.Sound) (left : SoundSiblings rest) :
    (setting.readParts steps reading rest).Sound := by
  induction steps generalizing reading rest with
  | zero => exact sound
  | succ steps induction =>
      cases rest with
      | nil => exact sound
      | cons part others =>
          have parts := List.forall_mem_cons.mp left
          have next := setting.read_part_sound parts.1 sound parts.2
          exact induction next.1 next.2

theorem read_sound {siblings : List Sibling} (sound : SoundSiblings siblings) :
    SoundElements (setting.read siblings) := by
  have all : (setting.readParts siblings.length ⟨[], []⟩ siblings).Sound :=
    setting.read_parts_sound _ ⟨nofun, nofun⟩ sound
  exact emphasise_sound fun part member =>
    Reading.flat_sound all part (List.mem_reverse.mp member)

end Setting

mutual

theorem node_read_sound (setting : Setting) : (node : Node) → node.Sound →
    (node.read setting).Sound
  | .token _ _ _, _ => trivial
  | .block _ _ _ parts, .block _ _ _ _ own inside =>
      .block _ _ own (Setting.read_sound _ (read_nodes_sound _ parts inside))

theorem read_nodes_sound (setting : Setting) : (nodes : List Node) → SoundNodes nodes →
    SoundSiblings (readNodes setting nodes)
  | [], _ => nofun
  | node :: rest, sound => by
      have parts := List.forall_mem_cons.mp sound
      exact List.forall_mem_cons.mpr
        ⟨node_read_sound setting node parts.1, read_nodes_sound setting rest parts.2⟩

end

/-- A document is made of elements that a document can have. -/
theorem read_document_sound (text : List Char) : SoundElements (readDocument text) :=
  Setting.read_sound _ (read_nodes_sound _ _ (Reader.read_all_sound text.toArray))

end FlagBoard.Markdown
