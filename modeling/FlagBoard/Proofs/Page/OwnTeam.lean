import FlagBoard.Page.ScoreTable
import Mathlib

/-!
The viewer's own team on the scoreboard and on the page of the team. The page takes the team by its
mark and looks its rank up by its id, whereas the scoreboard counts rows; the columns of both are
those of the challenges, however many completions a team has.
-/

namespace FlagBoard

/-- What the page of the team says of a challenge, from the cell of the scoreboard. -/
def ProgressEntry.ofCell (challenge : Challenge) (cell : Option String) : ProgressEntry :=
  ⟨challenge.name, challenge.category, challenge.points, cell⟩

namespace Scoreboard

def Carries (board : Scoreboard) (id : String) (place : Nat) : Prop :=
  (board.teams[place]?).map Team.id = some id

section Rows

variable (board : Scoreboard)

theorem getElem?_rows (index : Nat) : board.rows[index]? = (board.teams[index]?).map fun team =>
    ⟨index + 1, team.name, team.points, team.isOwn,
      (List.range board.challenges.length).map team.shortCompletion⟩ := by
  rw [rows, List.getElem?_mapIdx]

theorem length_rows : board.rows.length = board.teams.length := by
  rw [rows, List.length_mapIdx]

/-- Every row has one cell for each challenge. -/
theorem length_cells (row : ScoreRow) (member : row ∈ board.rows) :
    row.cells.length = board.challenges.length := by
  obtain ⟨index, found⟩ := List.getElem?_of_mem member
  rw [getElem?_rows, Option.map_eq_some_iff] at found
  obtain ⟨team, _, same⟩ := found
  rw [← same, List.length_map, List.length_range]

theorem marks_of_rows : board.rows.map ScoreRow.isOwn = board.teams.map Team.isOwn := by
  apply List.ext_getElem?
  intro index
  rw [List.getElem?_map, List.getElem?_map, getElem?_rows, Option.map_map]
  rfl

/-- The first row that is marked is that of the first team that is marked. -/
theorem own_row_index : board.rows.findIdx? ScoreRow.isOwn = board.teams.findIdx? Team.isOwn := by
  have marks := congrArg (List.findIdx? id) board.marks_of_rows
  rw [List.findIdx?_map, List.findIdx?_map] at marks
  exact marks

theorem own_team_index (team : Team) : board.ownTeam = some team ↔
    ∃ index, board.teams.findIdx? Team.isOwn = some index ∧ board.teams[index]? = some team := by
  rw [ownTeam, List.find?_eq_bind_findIdx?_getElem?, Option.bind_eq_some_iff]

theorem own_team_none_iff : board.ownTeam = none ↔ ∀ team ∈ board.teams, team.isOwn = false := by
  simp [ownTeam]

end Rows

section Ranks

variable {board : Scoreboard} {id : String}

theorem carries_iff (place : Nat) : board.Carries id place ↔
    ∃ within : place < board.teams.length, board.teams[place].id = id := by
  rw [Carries, Option.map_eq_some_iff]
  constructor
  · intro carries
    obtain ⟨team, found, same⟩ := carries
    obtain ⟨within, placed⟩ := List.getElem?_eq_some_iff.mp found
    exact ⟨within, by rw [placed, same]⟩
  · intro carries
    obtain ⟨within, same⟩ := carries
    exact ⟨_, List.getElem?_eq_getElem within, same⟩

/-- A rank is looked up at the first team with the id. -/
theorem rank_of_iff (rank : Nat) : board.rankOf id = some rank ↔
    ∃ first, IsLeast {place | board.Carries id place} first ∧ first + 1 = rank := by
  rw [rankOf, Option.map_eq_some_iff]
  apply exists_congr
  intro first
  rw [and_congr_left_iff]
  intro _
  rw [List.findIdx?_eq_some_iff_getElem, IsLeast, Set.mem_ofPred, carries_iff, mem_lowerBounds]
  simp only [beq_iff_eq, Set.mem_ofPred, carries_iff]
  constructor
  · intro found
    obtain ⟨within, same, before⟩ := found
    refine ⟨⟨within, same⟩, ?_⟩
    intro place carries
    by_contra earlier
    exact before place (Nat.not_le.mp earlier) carries.2
  · intro least
    obtain ⟨⟨within, same⟩, before⟩ := least
    refine ⟨within, same, ?_⟩
    intro place earlier carries
    exact absurd (before place ⟨Nat.lt_trans earlier within, carries⟩) (Nat.not_le.mpr earlier)

/-- A team has a rank, which is that of the first team with its id. -/
theorem rank_of_carried {place : Nat} (carries : board.Carries id place) :
    ∃ first, IsLeast {place | board.Carries id place} first ∧
      board.rankOf id = some (first + 1) := by
  classical
  have least : IsLeast {place | board.Carries id place} (Nat.find ⟨place, carries⟩) :=
    ⟨Nat.find_spec _, fun _ other => Nat.find_min' _ other⟩
  exact ⟨_, least, (rank_of_iff _).mpr ⟨_, least, rfl⟩⟩

theorem least_eq_iff {first index : Nat} (least : IsLeast {place | board.Carries id place} first)
    (carries : board.Carries id index) :
    first = index ↔ ∀ earlier < index, ¬ board.Carries id earlier := by
  constructor
  · intro same earlier before carried
    exact absurd (least.2 carried) (Nat.not_le.mpr (same ▸ before))
  · intro none
    apply Nat.le_antisymm (least.2 carries)
    by_contra before
    exact none first (Nat.not_le.mp before) least.1

end Ranks

section Entries

variable (challenges : List Challenge) (cell : Nat → Option String)

/-- One entry for each challenge, with the cell in its column. -/
theorem entries_eq_zipWith :
    (challenges.mapIdx fun index challenge =>
      ProgressEntry.mk challenge.name challenge.category challenge.points (cell index)) =
      List.zipWith ProgressEntry.ofCell challenges ((List.range challenges.length).map cell) := by
  apply List.ext_getElem
  · simp
  · intro index _ _
    simp [ProgressEntry.ofCell]

theorem count_solved (cells : List (Option String)) (length : cells.length = challenges.length) :
    (List.zipWith ProgressEntry.ofCell challenges cells).countP (fun entry => entry.solvedAt.isSome) =
      cells.countP Option.isSome := by
  have solved : (List.zipWith ProgressEntry.ofCell challenges cells).map ProgressEntry.solvedAt =
      cells := by
    apply List.ext_getElem
    · simp [length]
    · intro index _ _
      simp [ProgressEntry.ofCell]
  conv_rhs => rw [← solved, List.countP_map]
  rfl

end Entries

/-- The page of the team says what the row at an index does. Its rank is that of the first row whose
team has the same id, which is an earlier one when an id is there twice. -/
structure Tells (board : Scoreboard) (progress : Progress) (index : Nat) (team : Team)
    (row : ScoreRow) : Prop where
  name : progress.name = row.name
  points : progress.points = row.points
  entries : progress.entries = List.zipWith ProgressEntry.ofCell board.challenges row.cells
  solved : progress.solved = row.cells.countP Option.isSome
  teams : progress.teams = board.rows.length
  rank_own : progress.rank = row.rank ↔ ∀ earlier < index, ¬ board.Carries team.id earlier
  rank_first : ∃ first ≤ index, IsLeast {place | board.Carries team.id place} first ∧
    (board.rows[first]?).map ScoreRow.rank = some progress.rank

section Progress

variable {board : Scoreboard} {index : Nat} {team : Team}

theorem carries_own (placed : board.teams[index]? = some team) : board.Carries team.id index := by
  rw [Carries, placed, Option.map_some]

/-- A team in the list has a rank, so the page shows the progress of a marked team. -/
theorem progress_of_own (own : board.ownTeam = some team) (placed : board.teams[index]? = some team) :
    ∃ first, IsLeast {place | board.Carries team.id place} first ∧
      board.progress = some ⟨team.name, first + 1, board.teams.length, team.points,
        ((List.range board.challenges.length).map team.shortCompletion).countP Option.isSome,
        List.zipWith ProgressEntry.ofCell board.challenges
          ((List.range board.challenges.length).map team.shortCompletion)⟩ := by
  obtain ⟨first, least, ranked⟩ := rank_of_carried (carries_own placed)
  refine ⟨first, least, ?_⟩
  have cells : ((List.range board.challenges.length).map team.shortCompletion).length =
      board.challenges.length := by
    rw [List.length_map, List.length_range]
  rw [← count_solved board.challenges _ cells, ← entries_eq_zipWith]
  simp [progress, own, ranked]

theorem progress_none_iff : board.progress = none ↔ ∀ team ∈ board.teams, team.isOwn = false := by
  rw [← own_team_none_iff]
  constructor
  · intro none
    cases own : board.ownTeam with
    | none => rfl
    | some team =>
      obtain ⟨index, _, placed⟩ := (board.own_team_index team).mp own
      obtain ⟨first, _, some⟩ := progress_of_own own placed
      rw [none] at some
      cases some
  · intro none
    simp [progress, none]

theorem tells_own (own : board.ownTeam = some team) (placed : board.teams[index]? = some team)
    (progress : Progress) (shown : board.progress = some progress) (row : ScoreRow)
    (found : board.rows[index]? = some row) : board.Tells progress index team row := by
  obtain ⟨first, least, same⟩ := progress_of_own own placed
  rw [shown, Option.some.injEq] at same
  rw [getElem?_rows, placed, Option.map_some, Option.some.injEq] at found
  subst same found
  have carried := carries_own placed
  refine ⟨rfl, rfl, rfl, rfl, board.length_rows.symm, ?_, first, least.2 carried, least, ?_⟩
  · rw [Nat.add_right_cancel_iff]
    exact least_eq_iff least carried
  · obtain ⟨within, _⟩ := (carries_iff first).mp least.1
    rw [getElem?_rows, List.getElem?_eq_getElem within]
    rfl

end Progress

/-- The page of the team says of the viewer's own team what its row says, except for the rank when an
earlier team has the same id. -/
theorem own_team_told_alike (board : Scoreboard) :
    (∀ row ∈ board.rows, row.cells.length = board.challenges.length) ∧
      (board.progress = none ↔ ∀ team ∈ board.teams, team.isOwn = false) ∧
      ∀ progress, board.progress = some progress → ∃ index team row,
        board.rows.findIdx? ScoreRow.isOwn = some index ∧ board.teams[index]? = some team ∧
          board.rows[index]? = some row ∧ board.Tells progress index team row := by
  refine ⟨board.length_cells, progress_none_iff, ?_⟩
  intro progress shown
  cases own : board.ownTeam with
  | none => simp [Scoreboard.progress, own] at shown
  | some team =>
    obtain ⟨index, first, placed⟩ := (board.own_team_index team).mp own
    obtain ⟨row, found⟩ : ∃ row, board.rows[index]? = some row := by
      rw [getElem?_rows, placed]
      exact ⟨_, rfl⟩
    refine ⟨index, team, row, ?_, placed, found, tells_own own placed progress shown row found⟩
    rw [own_row_index, first]

/-- Two teams with one id, of which the second is the viewer's. -/
def twins : Scoreboard where
  teams := [⟨"7", "Red", 300, [], false⟩,
    ⟨"7", "Blue", 200, [none, some "2024-06-01T10:30:00Z", some "2024-06-02"], true⟩]
  challenges := [⟨"a", "Alpha", 100, "web", ""⟩, ⟨"b", "Beta", 200, "misc", ""⟩]

/-- The row of the second twin is the second, but its page has the rank of the first. A completion
past the challenges has no cell. -/
theorem own_team_told_alike_twins :
    ∃ team, twins.Tells ⟨"Blue", 1, 2, 200, 1, [⟨"Alpha", "web", 100, none⟩,
      ⟨"Beta", "misc", 200, some "2024-06-01 10:30"⟩]⟩ 1 team
      ⟨2, "Blue", 200, true, [none, some "2024-06-01 10:30"]⟩ := by
  have second : twins.rows.findIdx? ScoreRow.isOwn = some 1 := by cbv
  obtain ⟨index, team, row, first, _, found, tells⟩ :=
    (own_team_told_alike twins).2.2 ⟨"Blue", 1, 2, 200, 1, [⟨"Alpha", "web", 100, none⟩,
      ⟨"Beta", "misc", 200, some "2024-06-01 10:30"⟩]⟩ (by cbv)
  obtain rfl : 1 = index := Option.some.inj (second.symm.trans first)
  have shown : twins.rows[1]? = some ⟨2, "Blue", 200, true, [none, some "2024-06-01 10:30"]⟩ := by
    cbv
  obtain rfl := Option.some.inj (shown.symm.trans found)
  exact ⟨team, tells⟩

end Scoreboard

end FlagBoard
