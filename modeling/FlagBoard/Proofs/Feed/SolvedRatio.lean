import FlagBoard.Page.ScoreTable
import FlagBoard.Proofs.Feed.Columns
import FlagBoard.Proofs.Json.Digits
import Mathlib

/-!
How many challenges a team has solved, as the table of the feed says it and as the page of the team
does. The table counts every completion, the page those that stand in a column of a challenge.
Teams and challenges come apart, so there may be more completions than columns, and then the two
differ.
-/

namespace FlagBoard

open Message

def lastNumber (backwards : List Char) : Nat :=
  Nat.ofDigitChars 10 (backwards.takeWhile Json.isDigit).reverse 0

/-- The last two numbers of a line, if a slash stands between them. -/
def printedRatio (line : List Char) : Option (Nat × Nat) :=
  let ending := line.reverse.dropWhile fun c => !Json.isDigit c
  match ending.dropWhile Json.isDigit with
  | '/' :: before => some (lastNumber before, lastNumber ending)
  | _ => none

namespace Team

def solvedWithin (team : Team) (columns : Nat) : Nat :=
  (team.completions.take columns).countP Option.isSome

def solvedBeyond (team : Team) (columns : Nat) : Nat :=
  (team.completions.drop columns).countP Option.isSome

theorem solved_within_add_beyond (team : Team) (columns : Nat) :
    team.solvedWithin columns + team.solvedBeyond columns = team.solvedCount := by
  rw [solvedWithin, solvedBeyond, ← List.countP_append, List.take_append_drop, solvedCount]

theorem solved_within_le (team : Team) (columns : Nat) : team.solvedWithin columns ≤ columns :=
  List.countP_le_length.trans (List.length_take_le _ _)

theorem solved_beyond_eq_zero_iff (team : Team) (columns : Nat) :
    team.solvedBeyond columns = 0 ↔ ∀ completion ∈ team.completions.drop columns,
      completion = none := by
  simp [solvedBeyond, List.countP_eq_zero]

end Team

section Reading

theorem number_eq_digits (n : Nat) : Table.number n = Nat.toDigits 10 n := by
  rw [Table.number, Nat.toString_eq_repr, Nat.repr, String.toList_ofList]

theorem digit_of_mem_number (n : Nat) :
    ∀ c ∈ (Table.number n).reverse, Json.isDigit c = true := by
  intro c member
  rw [number_eq_digits, List.mem_reverse] at member
  exact Json.digit_of_mem_toDigits n c member

variable (n : Nat) (c : Char) (rest : List Char)

theorem drop_number (ends : Json.isDigit c = false) :
    ((Table.number n).reverse ++ c :: rest).dropWhile Json.isDigit = c :: rest := by
  rw [List.dropWhile_append_of_pos (digit_of_mem_number n),
    List.dropWhile_cons_of_neg (by simp [ends])]

theorem last_number (ends : Json.isDigit c = false) :
    lastNumber ((Table.number n).reverse ++ c :: rest) = n := by
  rw [lastNumber, List.takeWhile_append_of_pos (digit_of_mem_number n),
    List.takeWhile_cons_of_neg (by simp [ends]), List.append_nil, List.reverse_reverse,
    number_eq_digits, Nat.ofDigitChars_ten_toDigits]

/-- What stands behind a number is dropped as long as it holds no digit. -/
theorem drop_to_number (ending : List Char) (plain : ∀ c ∈ ending, Json.isDigit c = false) :
    (ending ++ ((Table.number n).reverse ++ rest)).dropWhile (fun c => !Json.isDigit c) =
      (Table.number n).reverse ++ rest := by
  rw [List.dropWhile_append_of_pos (by simpa using plain)]
  cases digits : (Table.number n).reverse with
  | nil => simp [number_eq_digits, Nat.toDigits_ne_nil] at digits
  | cons c others =>
      have digit := digit_of_mem_number n c (by simp [digits])
      rw [List.cons_append, List.dropWhile_cons_of_neg (by simp [digit])]

end Reading

namespace Scoreboard

variable (board : Scoreboard)

/-- The line of a team ends in its ratio, backwards and up to the star. -/
theorem reverse_team_line (index : Nat) (team : Team) :
    ∃ ending before, (∀ c ∈ ending, Json.isDigit c = false) ∧
      (board.teamLine index team).reverse =
        ending ++ ((Table.number board.challenges.length).reverse ++
          '/' :: ((Table.number team.solvedCount).reverse ++ ' ' :: before)) := by
  let columns := Table.padLeft 3 (Table.number (index + 1)) ++ Table.gap ++
    Table.padRight board.nameWidth team.name.toList ++ Table.gap ++
    Table.padLeft 6 (Table.number team.points.toNat)
  refine ⟨((if team.isOwn then [' ', '*'] else []) ++ ['\n']).reverse, ' ' :: columns.reverse,
    ?_, ?_⟩
  · cases team.isOwn <;> simp [Json.isDigit]
  · simp only [columns, teamLine, Table.gap, List.reverse_append, List.reverse_cons,
      List.reverse_nil, List.nil_append, List.append_assoc, List.cons_append]

theorem printed_ratio_team_line (index : Nat) (team : Team) :
    printedRatio (board.teamLine index team) =
      some (team.solvedCount, board.challenges.length) := by
  obtain ⟨ending, before, plain, line⟩ := reverse_team_line board index team
  rw [printedRatio, line]
  simp only [drop_to_number _ _ ending plain, drop_number _ '/' _ rfl, last_number _ '/' _ rfl,
    last_number _ ' ' _ rfl]

theorem team_line_in_table (index : Nat) (team : Team) (stands : board.teams[index]? = some team) :
    ∃ before behind, board.table.toList = before ++ board.teamLine index team ++ behind := by
  have member : board.teamLine index team ∈ board.teams.mapIdx board.teamLine := by
    apply List.mem_of_getElem? (i := index)
    rw [List.getElem?_mapIdx, stands]
    rfl
  obtain ⟨lines, others, split⟩ := List.append_of_mem member
  refine ⟨board.headerLine ++ lines.flatten, others.flatten, ?_⟩
  rw [table, String.toList_ofList, split]
  simp

theorem printed_table {text : String} (printed : board.render = some text) :
    text = board.table := by
  obtain ⟨_, same⟩ := Option.ite_none_right_eq_some.mp printed
  exact (Option.some.inj same).symm

end Scoreboard

theorem count_columns {Column : Type} (columns : List Column)
    (completions : List (Option String)) :
    (columns.mapIdx fun index _ => (completions[index]?).join).countP Option.isSome =
      (completions.take columns.length).countP Option.isSome := by
  induction columns generalizing completions with
  | nil => simp
  | cons column columns induction =>
      cases completions with
      | nil => simp [List.mapIdx_cons]
      | cons completion completions =>
          simp [List.mapIdx_cons, List.countP_cons, induction completions]

namespace Scoreboard

variable (board : Scoreboard)

/-- The page of the team counts the completions in the columns of the challenges. -/
theorem progress_of_own_team (team : Team) (own : board.ownTeam = some team) :
    ∃ progress, board.progress = some progress ∧
      progress.entries.length = board.challenges.length ∧
      progress.solved = team.solvedWithin board.challenges.length := by
  have member : team ∈ board.teams := List.mem_of_find?_eq_some own
  obtain ⟨index, found⟩ : ∃ index, (board.teams.findIdx? fun other => other.id == team.id) =
      some index := by
    rw [← Option.isSome_iff_exists, List.findIdx?_isSome, List.any_eq_true]
    exact ⟨team, member, beq_self_eq_true _⟩
  have rank : board.rankOf team.id = some (index + 1) := by
    rw [rankOf, found]
    rfl
  refine ⟨_, by rw [progress, own, Option.bind_eq_bind, Option.bind_some, rank]; rfl, ?_, ?_⟩
  · exact List.length_mapIdx
  · change List.countP _ (board.challenges.mapIdx _) = _
    rw [Team.solvedWithin, ← count_columns board.challenges, List.mapIdx_eq_zipIdx_map,
      List.mapIdx_eq_zipIdx_map, List.countP_map, List.countP_map]
    congr 1
    funext entry
    exact Option.isSome_map

end Scoreboard

/-- After any run of frames the table, where its names are not too wide to be printed, shows each
team with all its completions over the number of challenges. They are no more than the challenges where none of them stands behind the columns. The
page of the viewer's own team counts those in the columns only, so the two agree exactly if no
completion stands behind them; while no challenges have come, every completion does. -/
theorem solved_ratio_counts_beyond (incoming : List Incoming) :
    let board := applyAll (View.start : Scoreboard) incoming
    let columns := board.challenges.length
    ((∃ text, board.render = some text) ↔
      ∀ team ∈ board.teams, Text.Utf8.size team.name.toList ≤ Table.mostWidth) ∧
    (∀ index team, board.teams[index]? = some team →
      (∀ text, board.render = some text →
        ∃ before behind, text.toList = before ++ board.teamLine index team ++ behind) ∧
      printedRatio (board.teamLine index team) =
        some (team.solvedWithin columns + team.solvedBeyond columns, columns) ∧
      team.solvedWithin columns ≤ columns) ∧
    (∀ index team, board.teams[index]? = some team → board.ownTeam = some team →
      ∃ progress, board.progress = some progress ∧ progress.entries.length = columns ∧
        progress.solved = team.solvedWithin columns ∧
        (printedRatio (board.teamLine index team) =
            some (progress.solved, progress.entries.length) ↔
          ∀ completion ∈ team.completions.drop columns, completion = none)) ∧
    ((∀ message ∈ decodedMessages incoming, message.kind ≠ .challenges) → columns = 0) := by
  intro board columns
  have printed (index : Nat) (team : Team) : printedRatio (board.teamLine index team) =
      some (team.solvedWithin columns + team.solvedBeyond columns, columns) := by
    rw [board.printed_ratio_team_line, team.solved_within_add_beyond]
  refine ⟨?_, ?_, ?_, ?_⟩
  · rw [board.prints_lines.fits, List.forall_mem_map]
  · intro index team stands
    refine ⟨?_, printed index team, team.solved_within_le columns⟩
    intro text shown
    rw [board.printed_table shown]
    exact board.team_line_in_table index team stands
  · intro index team _ own
    obtain ⟨progress, shown, length, solved⟩ := board.progress_of_own_team team own
    refine ⟨progress, shown, length, solved, ?_⟩
    rw [printed, solved, length, ← team.solved_beyond_eq_zero_iff, Option.some_inj,
      Prod.mk.injEq, Nat.add_eq_left]
    exact and_iff_left rfl
  · intro none
    have challenges : board.challenges = last challenges? (decodedMessages incoming) [] :=
      congrArg Scoreboard.challenges (apply_all_scoreboard Scoreboard.empty incoming)
    have picked : (decodedMessages incoming).filterMap challenges? = [] := by
      rw [List.filterMap_eq_nil_iff]
      intro message member
      exact challenges?_of_other message (none message member)
    rw [show columns = board.challenges.length from rfl, challenges, last, picked]
    rfl

def redTeam : Team := ⟨"1", "red", 10, [some "2021-03-04T10:00:00Z"], true⟩

def earlyTeams : List Incoming :=
  [.text ("\x7b\"msg\":\"teams\",\"values\":[\x7b\"id\":\"1\",\"name\":\"red\",\"points\":10," ++
    "\"completions\":[\"2021-03-04T10:00:00Z\"],\"is_user\":true\x7d]\x7d")]

theorem early_messages : decodedMessages earlyTeams = [.teams [redTeam]] := by decide +kernel

theorem early_board : applyAll (View.start : Scoreboard) earlyTeams = ⟨[redTeam], []⟩ := by
  rw [apply_all_scoreboard, early_messages]
  rfl

theorem solved_ratio_counts_beyond_early :
    let board := applyAll (View.start : Scoreboard) earlyTeams
    board.challenges.length = 0 ∧ ∃ progress, board.progress = some progress ∧
      printedRatio (board.teamLine 0 redTeam) ≠
        some (progress.solved, progress.entries.length) := by
  obtain ⟨_, _, own, early⟩ := solved_ratio_counts_beyond earlyTeams
  have none := early (by rw [early_messages]; decide)
  obtain ⟨progress, shown, _, _, agrees⟩ :=
    own 0 redTeam (by rw [early_board]; rfl) (by rw [early_board]; rfl)
  refine ⟨none, progress, shown, ?_⟩
  rw [Ne, agrees, none]
  decide

/-- The table then says one of none where the page says none of none. -/
theorem solved_ratio_above_total :
    let board := applyAll (View.start : Scoreboard) earlyTeams
    board.render = some "  #  team  points  solved\n  1  red       10  1/0 *\n" ∧
      board.ownTeam = some redTeam ∧ board.teams[0]? = some redTeam ∧
      printedRatio (board.teamLine 0 redTeam) = some (1, 0) ∧
      board.progress.map (fun progress => (progress.solved, progress.entries.length)) =
        some (0, 0) := by
  rw [early_board]
  refine ⟨?_, ?_, ?_, ?_, ?_⟩ <;> decide +kernel

end FlagBoard
