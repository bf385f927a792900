import FlagBoard.Markdown.BlockReader
import Mathlib

/-!
The blocks that a document can have. A heading has a level from one to six, and of a block of raw
HTML nothing is kept but spaces. Every step of the reader keeps to that, from the lines to the
containers and to the whole document.
-/

namespace FlagBoard.Markdown

/-- A kind that a block of a document can have. -/
def Kind.Sound : Kind → Prop
  | .heading level => 1 ≤ level ∧ level ≤ 6
  | .html spaces => ∀ c ∈ spaces, c = ' '
  | _ => True

inductive Node.Sound : Node → Prop
  | token (start stop : Nat) (part : Token) : Node.Sound (.token start stop part)
  | block (start stop : Nat) (kind : Kind) (parts : List Node) : kind.Sound →
      (∀ part ∈ parts, Node.Sound part) → Node.Sound (.block start stop kind parts)

def SoundNodes (nodes : List Node) : Prop := ∀ node ∈ nodes, node.Sound

section Nodes

variable {first rest nodes : List Node} {node : Node}

theorem sound_nil : SoundNodes [] := nofun

theorem sound_cons (head : node.Sound) (tail : SoundNodes rest) : SoundNodes (node :: rest) :=
  List.forall_mem_cons.mpr ⟨head, tail⟩

theorem SoundNodes.append (before : SoundNodes first) (behind : SoundNodes rest) :
    SoundNodes (first ++ rest) := List.forall_mem_append.mpr ⟨before, behind⟩

theorem SoundNodes.reverse (sound : SoundNodes nodes) : SoundNodes nodes.reverse :=
  fun part member => sound part (List.mem_reverse.mp member)

namespace Node

theorem Sound.parts {start stop : Nat} {kind : Kind} {parts : List Node}
    (sound : (Node.block start stop kind parts).Sound) : SoundNodes parts := by
  cases sound with
  | block _ _ _ _ _ inside => exact inside

theorem sound_leaf (start stop : Nat) {kind : Kind} (own : kind.Sound) :
    (Node.block start stop kind []).Sound := .block _ _ _ _ own nofun

theorem text_sound (start stop : Nat) : SoundNodes (Node.text start stop) := by
  rw [Node.text]
  split
  · exact sound_cons (.token _ _ _) sound_nil
  · exact sound_nil

theorem stop_at_sound (sound : node.Sound) (stop : Nat) : (node.stopAt stop).Sound := by
  cases sound with
  | token start _ part => exact .token _ _ _
  | block start _ kind parts own inside => exact .block _ _ _ _ own inside

theorem dissolve_sound (sound : node.Sound) : SoundNodes node.dissolve := by
  rw [dissolve.eq_def]
  split
  · exact sound.parts
  · exact sound_cons sound sound_nil

theorem tighten_sound (sound : node.Sound) : node.tighten.Sound := by
  rw [tighten.eq_def]
  split
  · split
    · exact sound_leaf _ _ trivial
    · refine .block _ _ _ _ trivial ?_
      intro part member
      obtain ⟨whole, given, inside⟩ := List.mem_flatMap.mp member
      exact dissolve_sound (sound.parts whole given) part inside
  · exact sound

end Node

end Nodes

section Lines

variable (source : Source) (inCell : Bool)

theorem remains_sound (ending : Ending) : SoundNodes ending.remains := by
  cases ending with
  | backslash start => exact Node.text_sound _ _
  | none => exact sound_nil
  | softBreak start => exact sound_nil
  | hardBreak start => exact sound_nil

theorem ending_nodes_sound (ending : Ending) (next : Nat) : SoundNodes (ending.nodes next) := by
  cases ending with
  | none => exact sound_nil
  | softBreak start => exact sound_cons (.token _ _ _) sound_nil
  | hardBreak start => exact sound_cons (.token _ _ _) sound_nil
  | backslash start => exact sound_cons (.token _ _ _) sound_nil

theorem end_line_sound (textStart place : Nat) {parts : List Node} (sound : SoundNodes parts) :
    SoundNodes (source.endLine inCell textStart place parts).parts := by
  have upTo (stop : Nat) : SoundNodes (Node.text textStart stop ++ parts).reverse :=
    ((Node.text_sound _ _).append sound).reverse
  rw [Source.endLine]
  dsimp only
  split
  · exact upTo _
  split
  · exact upTo _
  · exact upTo _

theorem choice_sound {condition : Prop} [Decidable condition] {line other : TextLine}
    (first : SoundNodes line.parts) (second : SoundNodes other.parts) :
    SoundNodes (if condition then line else other).parts := by
  split
  · exact first
  · exact second

/-- A line is cut into tokens only. -/
theorem read_line_from_sound (steps textStart place : Nat) {parts : List Node}
    (sound : SoundNodes parts) :
    SoundNodes (source.readLineFrom inCell steps textStart place parts).parts := by
  induction steps generalizing textStart place parts with
  | zero => exact end_line_sound source inCell textStart place sound
  | succ steps onTo =>
      have ends := end_line_sound source inCell textStart place sound
      have before : SoundNodes (Node.text textStart place ++ parts) :=
        (Node.text_sound _ _).append sound
      have token (start stop : Nat) (part : Token) :
          SoundNodes (.token start stop part :: (Node.text textStart place ++ parts)) :=
        sound_cons (.token _ _ _) before
      rw [Source.readLineFrom]
      dsimp only
      cases source[place]? with
      | none => exact ends
      | some c =>
          -- The choices in their order; all go on with what was read before, or a token more.
          refine choice_sound ends ?_
          apply choice_sound
          · refine choice_sound (onTo _ _ sound) ?_
            refine choice_sound (onTo _ _ (token _ _ _)) ?_
            exact choice_sound (onTo _ _ before) (onTo _ _ before)
          apply choice_sound
          · split
            · exact onTo _ _ (token _ _ _)
            · exact onTo _ _ sound
          refine choice_sound (onTo _ _ (token _ _ _)) ?_
          refine choice_sound (onTo _ _ (token _ _ _)) ?_
          refine choice_sound (onTo _ _ (token _ _ _)) ?_
          refine choice_sound (onTo _ _ (token _ _ _)) ?_
          refine choice_sound (onTo _ _ (token _ _ _)) ?_
          refine choice_sound ends ?_
          split
          · exact onTo _ _ (token _ _ _)
          · exact onTo _ _ sound

theorem read_line_sound (place : Nat) : SoundNodes (source.readLine inCell place).parts :=
  read_line_from_sound source inCell _ place place sound_nil

end Lines

namespace Reader

/-- A reader that has only met blocks that a document can have. -/
structure Sound (reader : Reader) : Prop where
  spine : ∀ opened ∈ reader.spine, SoundNodes opened.parts
  blocks : SoundNodes reader.blocks

section Containers

variable {reader : Reader}

theorem start_sound : start.Sound := ⟨nofun, nofun⟩

theorem push_sound (sound : reader.Sound) {block : Node} (own : block.Sound) :
    (reader.push block).Sound := by
  obtain ⟨spine, blocks⟩ := sound
  rw [push]
  split
  next empty => exact ⟨by simp [empty], sound_cons own blocks⟩
  next opened outer shape =>
      rw [shape, List.forall_mem_cons] at spine
      exact ⟨List.forall_mem_cons.mpr ⟨sound_cons own spine.1, spine.2⟩, blocks⟩

theorem close_sound (stop : Nat) {opened : Opened} (parts : SoundNodes opened.parts) :
    (close stop opened).Sound := by
  rw [close]
  split
  · exact .block _ _ _ _ trivial parts.reverse
  · exact .block _ _ _ _ trivial parts.reverse
  · refine .block _ _ _ _ trivial ?_
    split
    · intro part member
      obtain ⟨loose, given, rfl⟩ := List.mem_map.mp member
      exact Node.tighten_sound (parts.reverse loose given)
    · exact parts.reverse

theorem pop_sound (stop : Nat) (sound : reader.Sound) : (reader.pop stop).Sound := by
  rw [pop]
  split
  · exact sound
  next opened outer shape =>
      have spine := sound.spine
      rw [shape, List.forall_mem_cons] at spine
      apply push_sound
      · exact ⟨spine.2, sound.blocks⟩
      · exact close_sound stop spine.1

theorem pop_to_sound (stop depth : Nat) (sound : reader.Sound) :
    (reader.popTo stop depth).Sound := by
  rw [popTo]
  induction List.range (reader.spine.length - depth) generalizing reader with
  | nil => exact sound
  | cons _ rest induction => exact induction (pop_sound stop sound)

theorem enter_sound (container : Container) (start : Nat) (sound : reader.Sound) :
    (reader.enter container start).Sound :=
  ⟨List.forall_mem_cons.mpr ⟨nofun, sound.spine⟩, sound.blocks⟩

theorem loosen_outer_sound (sound : reader.Sound) : reader.loosenOuter.Sound := by
  rw [loosenOuter]
  split
  next inner _ mark first start parts outer shape =>
      have spine := sound.spine
      rw [shape, List.forall_mem_cons, List.forall_mem_cons] at spine
      refine ⟨?_, sound.blocks⟩
      rw [List.forall_mem_cons, List.forall_mem_cons]
      exact spine
  · exact sound

theorem finish_bare_item_sound (sound : reader.Sound) : reader.finishBareItem.Sound := by
  have popped (stop : Nat) := pop_sound stop sound
  rw [finishBareItem]
  split
  · exact ⟨(popped _).spine, (popped _).blocks⟩
  · exact ⟨sound.spine, sound.blocks⟩

theorem blank_passed_sound (sound : reader.Sound) :
    Sound (if reader.blank then { reader.loosenOuter with blank := false } else reader) := by
  split
  · have loose := loosen_outer_sound sound
    exact ⟨loose.spine, loose.blocks⟩
  · exact sound

theorem finish_list_sound (stop : Nat) (sound : reader.Sound) :
    (reader.finishList stop).Sound := by
  have finished := finish_bare_item_sound sound
  rw [finishList]
  dsimp only
  split
  · exact blank_passed_sound (pop_sound stop finished)
  · exact blank_passed_sound finished

theorem continue_list_sound (mark : ListMark) (place : Nat) (sound : reader.Sound) :
    (reader.continueList mark place).Sound := by
  have finished := finish_bare_item_sound sound
  have fresh {other : Reader} (given : other.Sound) :
      Sound { other.enter (.list true mark.mark mark.start) place with blank := false } :=
    ⟨(enter_sound _ place given).spine, given.blocks⟩
  rw [continueList]
  dsimp only
  split
  next tight existing first start parts outer shape =>
      split
      · have spine := finished.spine
        rw [shape, List.forall_mem_cons] at spine
        exact ⟨List.forall_mem_cons.mpr spine, finished.blocks⟩
      · exact fresh (finish_list_sound place finished)
  · exact fresh (finish_list_sound place finished)
  · exact fresh finished

theorem take_blank_sound (sound : reader.Sound) : reader.takeBlank.Sound := by
  rw [takeBlank]
  split
  · exact sound
  next indent start parts outer shape =>
      have spine := sound.spine
      rw [shape, List.forall_mem_cons] at spine
      exact ⟨List.forall_mem_cons.mpr spine, sound.blocks⟩
  · exact ⟨sound.spine, sound.blocks⟩

end Containers

section Leaves

variable (source : Source) {reader : Reader}

theorem read_indented_sound (owed place : Nat) (sound : reader.Sound) :
    (readIndented source reader owed place).1.Sound := by
  rw [readIndented]
  have pushed (stop : Nat) (text : List Char) :
      (reader.push (.block place stop (.code none text) [])).Sound :=
    push_sound sound (Node.sound_leaf place stop trivial)
  exact ⟨(pushed _ _).spine, (pushed _ _).blocks⟩

theorem read_fenced_sound (mark : Char) (count indent place : Nat) (sound : reader.Sound) :
    (readFenced source reader mark count indent place).1.Sound := by
  rw [readFenced]
  exact push_sound sound (Node.sound_leaf _ _ trivial)

theorem owed_text_spaces (owed : Nat) : ∀ c ∈ owedText owed, c = ' ' :=
  fun _ member => List.eq_of_mem_replicate member

/-- Of raw HTML only the columns are kept that a tab is owed. -/
theorem html_spaces_sound (containers : List Container) (ending : Option (List Char))
    (steps owed place : Nat) :
    ∀ c ∈ (htmlSpaces source containers ending steps owed place).1, c = ' ' := by
  induction steps generalizing owed place with
  | zero => exact nofun
  | succ steps induction =>
      rw [htmlSpaces]
      dsimp only
      split_ifs
      · exact owed_text_spaces owed
      · exact owed_text_spaces owed
      · rw [List.forall_mem_append]
        exact ⟨owed_text_spaces owed, induction _ _⟩

theorem read_html_sound (ending : Option (List Char)) (owed place : Nat) (sound : reader.Sound) :
    (readHtml source reader ending owed place).1.Sound := by
  rw [readHtml]
  exact push_sound sound (Node.sound_leaf _ _ (html_spaces_sound source _ ending _ owed place))

theorem heading_level_sound {place level : Nat} (found : source.headingLevel place = some level) :
    (Kind.heading level).Sound := by
  simp only [Source.headingLevel, Option.ite_none_right_eq_some, Option.some_inj] at found
  obtain ⟨⟨least, most, _⟩, rfl⟩ := found
  exact ⟨least, most⟩

theorem read_heading_sound {level : Nat} (place : Nat) (own : (Kind.heading level).Sound)
    (sound : reader.Sound) : (readHeading source reader level place).1.Sound := by
  rw [readHeading]
  dsimp only
  split
  · exact push_sound sound (Node.sound_leaf _ _ own)
  · refine push_sound sound (.block _ _ _ _ own ?_)
    have line := read_line_sound source false (source.passWhile isGap (place + level))
    split
    · exact sound_nil
    next last before shape =>
        have cut : SoundNodes (last :: before) := by
          rw [← shape]
          refine (line.append ?_).reverse
          split
          · exact Node.text_sound _ _
          · exact sound_nil
        have parts := List.forall_mem_cons.mp cut
        exact SoundNodes.reverse (sound_cons (Node.stop_at_sound parts.1 _) parts.2)

end Leaves

section Tables

variable (source : Source) {reader : Reader}

theorem read_cells_sound (steps place : Nat) :
    ∀ cell ∈ (readCells source steps place).1, SoundNodes cell.2.2 := by
  induction steps generalizing place with
  | zero => exact nofun
  | succ steps induction =>
      rw [readCells]
      dsimp only
      split
      · exact nofun
      · rw [List.forall_mem_cons]
        exact ⟨read_line_sound source true _, induction _⟩

theorem read_row_sound {header : Bool} {columns : List Alignment} {place next : Nat} {row : Node}
    (found : readRow source header columns place = some (row, next)) : row.Sound := by
  simp only [readRow, Option.ite_none_left_eq_some, Option.some_inj, Prod.mk.injEq] at found
  obtain ⟨_, rfl, _⟩ := found
  refine .block _ _ _ _ trivial ?_
  intro cell member
  obtain ⟨⟨alignment, start, stop, parts⟩, given, rfl⟩ := List.mem_map.mp member
  refine .block _ _ _ _ trivial ?_
  rcases List.mem_append.mp (List.of_mem_zip given).2 with read | missing
  · exact read_cells_sound source _ place _ read
  · obtain ⟨_, _, rfl⟩ := Prod.mk.inj (List.eq_of_mem_replicate missing)
    exact sound_nil

theorem read_rows_sound (containers : List Container) (columns : List Alignment)
    (steps place : Nat) : SoundNodes (readRows source containers columns steps place).1 := by
  induction steps generalizing place with
  | zero => exact sound_nil
  | succ steps induction =>
      rw [readRows]
      dsimp only
      split
      · exact sound_nil
      split
      · exact sound_nil
      next row next found => exact sound_cons (read_row_sound source found) (induction _)

theorem read_table_sound (columns : List Alignment) (place body : Nat) (sound : reader.Sound) :
    (readTable source reader columns place body).1.Sound := by
  rw [readTable]
  refine push_sound sound (.block _ _ _ _ trivial (SoundNodes.append ?_ ?_))
  · intro header member
    obtain ⟨⟨row, next⟩, found, rfl⟩ := List.mem_map.mp member
    exact read_row_sound source (Option.mem_toList.mp found)
  · exact read_rows_sound source _ columns _ body

end Tables

section Paragraphs

variable (source : Source) {reader : Reader}

theorem underline_sound {place level next : Nat}
    (found : source.readUnderline place = some (level, next)) : (Kind.heading level).Sound := by
  simp only [Source.readUnderline] at found
  split at found
  · obtain ⟨_, _, same⟩ := Option.map_eq_some_iff.mp found
    obtain ⟨rfl, _⟩ := Prod.mk.inj same
    exact ⟨by decide, by decide⟩
  split at found
  · obtain ⟨_, _, same⟩ := Option.map_eq_some_iff.mp found
    obtain ⟨rfl, _⟩ := Prod.mk.inj same
    exact ⟨by decide, by decide⟩
  · cases found

theorem read_lines_sound (containers : List Container) (steps place : Nat) :
    SoundNodes (readLines source containers steps place).1 ∧
      ∀ level ∈ (readLines source containers steps place).2.1, (Kind.heading level).Sound := by
  induction steps generalizing place with
  | zero => exact ⟨sound_nil, nofun⟩
  | succ steps induction =>
      have line := read_line_sound source false place
      have here := line.append (remains_sound (source.readLine false place).ending)
      rw [readLines]
      dsimp only
      split
      next level next found =>
          refine ⟨here, ?_⟩
          rintro _ ⟨⟩
          split at found
          · exact underline_sound source found
          · cases found
      split
      · exact ⟨here, nofun⟩
      · exact ⟨(line.append (ending_nodes_sound _ _)).append (induction _).1, (induction _).2⟩

theorem read_paragraph_sound (place : Nat) (sound : reader.Sound) :
    (readParagraph source reader place).1.Sound := by
  rw [readParagraph]
  dsimp only
  split
  · exact read_table_sound source _ place _ sound
  · obtain ⟨parts, levels⟩ :=
      read_lines_sound source reader.containers (source.size + 1) place
    refine push_sound sound (.block _ _ _ _ ?_ parts)
    cases level : (readLines source reader.containers (source.size + 1) place).2.1 with
    | none => trivial
    | some level => exact levels _ level

theorem read_text_sound (steps place : Nat) (sound : reader.Sound) :
    (readText source steps reader place).1.Sound := by
  induction steps generalizing reader place with
  | zero => exact read_paragraph_sound source place sound
  | succ steps induction =>
      rw [readText]
      split
      · exact read_paragraph_sound source place sound
      next definition stop found =>
          have defined : Sound { reader with
              definitions := reader.definitions ++ [definition] } := ⟨sound.spine, sound.blocks⟩
          dsimp only
          split
          · exact defined
          · exact induction _ defined

end Paragraphs

section Documents

variable (source : Source) {reader : Reader}

theorem read_leaf_sound (lineStart : Nat) (cursor : Cursor) (sound : reader.Sound) :
    (readLeaf source lineStart reader cursor).1.Sound := by
  have next := finish_list_sound lineStart sound
  rw [readLeaf]
  dsimp only
  split
  · exact take_blank_sound sound
  split
  · exact read_indented_sound source _ _ next
  split
  · exact read_html_sound source _ _ _ next
  split
  · exact push_sound next (Node.sound_leaf _ _ trivial)
  split
  next level found =>
      exact read_heading_sound source _ (heading_level_sound source found) next
  · exact read_fenced_sound source _ _ _ _ next
  · exact read_text_sound source _ _ next

theorem open_containers_sound (lineStart steps : Nat) (cursor : Cursor) (sound : reader.Sound) :
    (openContainers source lineStart steps reader cursor).1.Sound := by
  induction steps generalizing reader cursor with
  | zero => exact read_leaf_sound source lineStart cursor sound
  | succ steps induction =>
      rw [openContainers]
      dsimp only
      split
      · exact read_leaf_sound source lineStart cursor sound
      split
      next mark width behind _ =>
          have entered (place : Nat) := enter_sound (.item width) place
            (continue_list_sound mark place sound)
          split
          · exact ⟨(entered _).spine, (entered _).blocks⟩
          · exact induction _ (entered _)
      split
      · exact induction _ (enter_sound .quote _ (finish_list_sound lineStart sound))
      · exact read_leaf_sound source lineStart cursor sound

theorem read_block_sound (place : Nat) (sound : reader.Sound) :
    (readBlock source reader place).1.Sound := by
  rw [readBlock]
  exact open_containers_sound source place _ _ (pop_to_sound place _ sound)

theorem read_blocks_sound (steps place : Nat) (sound : reader.Sound) :
    (readBlocks source steps reader place).Sound := by
  induction steps generalizing reader place with
  | zero => exact sound
  | succ steps induction =>
      rw [readBlocks]
      split
      · exact sound
      · exact induction _ (read_block_sound source place sound)

/-- A document has only blocks that a document can have. -/
theorem read_all_sound : SoundNodes (readAll source).1 := by
  have all := pop_to_sound source.size 0
    (read_blocks_sound source (source.size + 1) 0 start_sound)
  exact all.blocks.reverse

end Documents

end Reader

end FlagBoard.Markdown
