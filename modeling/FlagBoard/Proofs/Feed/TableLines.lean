import FlagBoard.Proofs.Feed.SolvedRatio
import Mathlib

/-!
The lines of the printed tables. A name is printed as it came, line breaks included, so an entry
takes one line and one more for each line break in its name. The tables have one line for each entry
exactly if no name breaks a line, and none at all if a name is too wide.
-/

namespace FlagBoard

section Lines

/-- A text has one line more than line breaks. -/
theorem length_lines (text : List Char) : (lines text).length = 1 + text.count '\n' := by
  induction text with
  | nil => rfl
  | cons c rest induction =>
      rw [lines]
      by_cases newline : c = '\n'
      · rw [if_pos newline, List.length_cons, induction, newline, List.count_cons_self]
        omega
      · rw [if_neg newline, List.count_cons_of_ne newline, ← induction]
        cases others : lines rest with
        | nil => exact absurd (lines_eq_splitOn rest ▸ others) (List.splitOn_ne_nil _ _)
        | cons line others => rfl

theorem lines_of_unbroken {text : List Char} (unbroken : '\n' ∉ text) : lines text = [text] := by
  rw [lines_eq_splitOn, List.splitOn_eq_singleton unbroken]

theorem lines_append (first rest : List Char) :
    lines (first ++ '\n' :: rest) = lines first ++ lines rest := by
  simp only [lines_eq_splitOn, List.splitOn_append_cons_self]

/-- Texts that are each a line, or several, read as their lines one after the other. -/
theorem flatMap_lines_iff (texts : List (List Char)) :
    texts.flatMap lines = texts ↔ ∀ text ∈ texts, '\n' ∉ text := by
  constructor
  · intro same text member
    rw [← same, List.mem_flatMap] at member
    obtain ⟨whole, _, line⟩ := member
    exact newline_notMem_line whole text line
  · intro unbroken
    calc texts.flatMap lines = texts.flatMap fun text => [text] :=
          List.flatMap_congr fun text member => lines_of_unbroken (unbroken text member)
      _ = texts := List.flatMap_singleton' texts

end Lines

namespace Table

/-- The lines of a table. The last line break ends a line and begins none. -/
def printedLines (table : String) : List (List Char) := (lines table.toList).dropLast

def joined (texts : List (List Char)) : List Char := texts.flatMap (· ++ ['\n'])

theorem lines_joined (texts : List (List Char)) :
    lines (joined texts) = texts.flatMap lines ++ [[]] := by
  induction texts with
  | nil => rfl
  | cons text rest induction =>
      have split : joined (text :: rest) = text ++ '\n' :: joined rest := by simp [joined]
      rw [split, lines_append, induction, List.flatMap_cons, List.append_assoc]

theorem printed_lines_joined (texts : List (List Char)) :
    printedLines (String.ofList (joined texts)) = texts.flatMap lines := by
  rw [printedLines, String.toList_ofList, lines_joined, List.dropLast_concat]

/-- A table whose lines are broken by the names in it and by nothing else: the lines of the entries
follow the header in order, and each entry has one more than line breaks in its name. It is printed
if none of the names is too wide. -/
structure BreaksAtNames (printed : Option String) (header : List Char) (names : List String)
    (entries : List (List Char)) : Prop where
  fits : (∃ table, printed = some table) ↔
    ∀ name ∈ names, Text.Utf8.size name.toList ≤ mostWidth
  inOrder : ∀ table, printed = some table →
    printedLines table = header :: entries.flatMap lines
  counted : ∀ table, printed = some table →
    (printedLines table).length = 1 + (names.map fun name => 1 + name.toList.count '\n').sum
  onePerEntry : (∃ table, printed = some table ∧ printedLines table = header :: entries) ↔
    ∀ name ∈ names, '\n' ∉ name.toList ∧ Text.Utf8.size name.toList ≤ mostWidth

/-- An entry breaks its line where its name does. -/
theorem breaks_at_names {printed : Option String} {header : List Char} {names : List String}
    {entries : List (List Char)}
    (prints : Prints printed names ((header :: entries).map (· ++ ['\n'])))
    (unbroken : '\n' ∉ header)
    (each : entries.map (·.count '\n') = names.map fun name => name.toList.count '\n') :
    BreaksAtNames printed header names entries := by
  have inOrder (table : String) (shown : printed = some table) :
      printedLines table = header :: entries.flatMap lines := by
    have text : table = String.ofList (joined (header :: entries)) := by
      apply String.toList_injective
      rw [prints.lines table shown, String.toList_ofList, joined, List.flatMap_def]
    rw [text, printed_lines_joined, List.flatMap_cons, lines_of_unbroken unbroken]
    rfl
  have whole : entries.flatMap lines = entries ↔ ∀ name ∈ names, '\n' ∉ name.toList := by
    rw [flatMap_lines_iff]
    have zero : (∀ count ∈ entries.map (·.count '\n'), count = 0) ↔
        ∀ count ∈ names.map fun name => name.toList.count '\n', count = 0 := by
      rw [each]
    simpa only [List.forall_mem_map, List.count_eq_zero] using zero
  refine ⟨prints.fits, inOrder, ?_, ?_⟩
  · intro table shown
    have lengths : (entries.map fun entry => (lines entry).length) =
        names.map fun name => 1 + name.toList.count '\n' := by
      calc (entries.map fun entry => (lines entry).length)
          = (entries.map (·.count '\n')).map (1 + ·) := by
            rw [List.map_map]
            exact List.map_congr_left fun entry _ => length_lines entry
        _ = names.map fun name => 1 + name.toList.count '\n' := by
            rw [each, List.map_map]
            rfl
    rw [inOrder table shown, List.length_cons, List.length_flatMap, lengths, Nat.add_comm]
  · rw [forall₂_and, ← whole, ← prints.fits]
    constructor
    · rintro ⟨table, shown, same⟩
      rw [inOrder table shown, List.cons.injEq, and_iff_right rfl] at same
      exact ⟨same, table, shown⟩
    · rintro ⟨same, table, shown⟩
      exact ⟨table, shown, by rw [inOrder table shown, same]⟩

section Unbroken

theorem newline_notMem_number (n : Nat) : '\n' ∉ number n := by
  intro member
  have digit := digit_of_mem_number n '\n' (List.mem_reverse.mpr member)
  exact absurd digit (by decide)

theorem count_number (n : Nat) : (number n).count '\n' = 0 :=
  List.count_eq_zero.mpr (newline_notMem_number n)

theorem count_pad_left (least : Nat) (text : List Char) :
    (padLeft least text).count '\n' = text.count '\n' := by
  simp [padLeft, List.count_append, List.count_replicate]

theorem count_pad_right (least : Nat) (text : List Char) :
    (padRight least text).count '\n' = text.count '\n' := by
  simp [padRight, List.count_append, List.count_replicate]

theorem count_gap : gap.count '\n' = 0 := rfl

end Unbroken

end Table

open Table

namespace Scoreboard

variable (board : Scoreboard)

def headerText : List Char :=
  padLeft 3 ['#'] ++ gap ++ padRight board.nameWidth "team".toList ++ gap ++
    padLeft 6 "points".toList ++ gap ++ "solved".toList

def teamText (index : Nat) (team : Team) : List Char :=
  padLeft 3 (number (index + 1)) ++ gap ++ padRight board.nameWidth team.name.toList ++ gap ++
    padLeft 6 (number team.points.toNat) ++ gap ++ board.ratioText team

theorem team_line_eq (index : Nat) (team : Team) :
    board.teamLine index team = board.teamText index team ++ ['\n'] := by
  simp only [teamLine, teamText, ratioText, List.append_assoc, List.cons_append]

theorem lines_eq : board.headerLine :: board.teams.mapIdx board.teamLine =
    (board.headerText :: board.teams.mapIdx board.teamText).map (· ++ ['\n']) := by
  have header : board.headerLine = board.headerText ++ ['\n'] := by
    simp only [headerLine, headerText, List.append_assoc]
    rfl
  have teams : board.teams.mapIdx board.teamLine =
      (board.teams.mapIdx board.teamText).map (· ++ ['\n']) := by
    apply List.ext_getElem?
    intro index
    rw [List.getElem?_map, List.getElem?_mapIdx, List.getElem?_mapIdx]
    cases board.teams[index]? with
    | none => rfl
    | some team => exact congrArg some (board.team_line_eq index team)
  rw [header, teams, List.map_cons]

theorem count_team_text (index : Nat) (team : Team) :
    (board.teamText index team).count '\n' = team.name.toList.count '\n' := by
  have own : (if team.isOwn then [' ', '*'] else []).count '\n' = 0 := by
    cases team.isOwn <;> rfl
  simp [teamText, ratioText, List.count_append, count_pad_left, count_pad_right, count_gap,
    count_number, own]

theorem breaks_at_team_names :
    BreaksAtNames board.render board.headerText (board.teams.map Team.name)
      (board.teams.mapIdx board.teamText) := by
  refine breaks_at_names (board.lines_eq ▸ board.prints_lines) ?_ ?_
  · rw [← List.count_eq_zero]
    simp [headerText, List.count_append, count_pad_left, count_pad_right, count_gap]
  · apply List.ext_getElem?
    intro index
    rw [List.getElem?_map, List.getElem?_mapIdx, List.getElem?_map, List.getElem?_map]
    cases board.teams[index]? with
    | none => rfl
    | some team => exact congrArg some (board.count_team_text index team)

end Scoreboard

namespace ChallengeBrowser

variable (browser : ChallengeBrowser)

def headerText : List Char :=
  padRight browser.tagWidth "tag".toList ++ gap ++ padLeft 6 "points".toList ++ gap ++
    padRight 6 "status".toList ++ gap ++ "solves".toList

def rowText (row : LiveRow) : List Char :=
  padRight browser.tagWidth row.challenge.tag.toList ++ gap ++
    padLeft 6 (number row.challenge.points.toNat) ++ gap ++ solvesText row

theorem lines_eq : browser.headerLine :: browser.rows.map browser.rowLine =
    (browser.headerText :: browser.rows.map browser.rowText).map (· ++ ['\n']) := by
  have header : browser.headerLine = browser.headerText ++ ['\n'] := by
    simp only [headerLine, headerText, List.append_assoc]
    rfl
  have rows : browser.rows.map browser.rowLine =
      (browser.rows.map browser.rowText).map (· ++ ['\n']) := by
    rw [List.map_map]
    congr 1
    funext row
    simp only [rowLine, rowText, solvesText, Function.comp_apply, List.append_assoc]
  rw [header, rows, List.map_cons]

theorem count_row_text (row : LiveRow) :
    (browser.rowText row).count '\n' = row.challenge.tag.toList.count '\n' := by
  have status : (if row.solvedByOwn then "solved" else "open").toList.count '\n' = 0 := by
    cases row.solvedByOwn <;> rfl
  simp [rowText, solvesText, List.count_append, count_pad_left, count_pad_right, count_gap,
    count_number, status]

theorem breaks_at_tags :
    BreaksAtNames browser.render browser.headerText (browser.rows.map fun row => row.challenge.tag)
      (browser.rows.map browser.rowText) := by
  refine breaks_at_names (browser.lines_eq ▸ browser.prints_lines) ?_ ?_
  · rw [← List.count_eq_zero]
    simp [headerText, List.count_append, count_pad_left, count_pad_right, count_gap]
  · rw [List.map_map, List.map_map]
    exact List.map_congr_left fun row _ => browser.count_row_text row

end ChallengeBrowser

/-- Both tables, in whatever state a view is, are broken into lines at the header, at each entry, and
at the line breaks in names and tags. They have one line for each entry if and only if there are
none of these and no name or tag is too wide to be printed at all. -/
theorem names_break_lines (board : Scoreboard) (browser : ChallengeBrowser) :
    BreaksAtNames board.render board.headerText (board.teams.map Team.name)
        (board.teams.mapIdx board.teamText) ∧
      BreaksAtNames browser.render browser.headerText
        (browser.rows.map fun row => row.challenge.tag) (browser.rows.map browser.rowText) :=
  ⟨board.breaks_at_team_names, browser.breaks_at_tags⟩

def brokenTeam : List Incoming :=
  [.text "\x7b\"msg\":\"teams\",\"values\":[\x7b\"id\":\"1\",\"name\":\"a\\nb\"\x7d]\x7d"]

def brokenTag : List Incoming :=
  [.text ("\x7b\"msg\":\"challengesFrontend\",\"values\":[\x7b\"challenge\":" ++
    "\x7b\"tag\":\"a\\nb\",\"name\":\"n\"\x7d\x7d]\x7d")]

/-- The stream sends one team, and one challenge, with a line break in its name or tag, and the table
has two lines below its header. -/
theorem name_adds_line :
    let board := applyAll (View.start : Scoreboard) brokenTeam
    let browser := applyAll (View.start : ChallengeBrowser) brokenTag
    board.teams.length = 1 ∧ board.render.map (fun table => (printedLines table).length) = some 3 ∧
      board.render = some "  #  team  points  solved\n  1  a\nb        0  0/0\n" ∧
      browser.rows.length = 1 ∧
      browser.render.map (fun table => (printedLines table).length) = some 3 ∧
      browser.render = some "tag  points  status  solves\na\nb       0  open    0\n" := by
  have teams : decodedMessages brokenTeam = [.teams [⟨"1", "a\nb", 0, [], false⟩]] := by
    decide +kernel
  have rows : decodedMessages brokenTag =
      [.rows [⟨⟨"a\nb", "n", 0, "", ""⟩, false, []⟩]] := by decide +kernel
  rw [apply_all_scoreboard, apply_all_browser, teams, rows]
  refine ⟨rfl, ?_, ?_, rfl, ?_, ?_⟩ <;> decide +kernel

end FlagBoard
