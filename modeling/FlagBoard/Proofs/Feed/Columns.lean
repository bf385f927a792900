import FlagBoard.Feed.Table
import FlagBoard.Proofs.Feed.LastMessage
import FlagBoard.Proofs.Feed.Written
import FlagBoard.Proofs.Text.Utf8
import Mathlib

/-!
The columns of the printed tables line up. A column of names is as wide as the longest of them has
bytes, and names are filled up by characters; no text has more characters than bytes, so every name
fits, and what follows the names begins at one place in all lines. A name of more bytes than a
column can be wide leaves nothing of the table.
-/

namespace FlagBoard

namespace Table

open Text.Utf8 (size charSize one_le_char_size)

/-- Whether a field stands at a place of a line. -/
def StandsAt (place : Nat) (field line : List Char) : Prop := field <+: line.drop place

/-- The width of a column of names: all of them fit by their bytes, and it is no wider than the
longest or the least width. -/
structure IsWidth (least : Nat) (names : List String) (width : Nat) : Prop where
  least_le : least ≤ width
  covers : ∀ name ∈ names, size name.toList ≤ width
  reached : width = least ∨ ∃ name ∈ names, size name.toList = width

/-- The lines of a table are printed one after the other, unless a name is too wide for them all. -/
structure Prints (printed : Option String) (names : List String) (lines : List (List Char)) :
    Prop where
  fits : (∃ table, printed = some table) ↔ ∀ name ∈ names, size name.toList ≤ mostWidth
  lines : ∀ table, printed = some table → table.toList = lines.flatten

/-- A line with a name in full behind some text: the name fits into its column, is filled up by
spaces, and behind a gap stands a field. -/
structure Holds (front : List Char) (name : String) (width : Nat) (field line : List Char) :
    Prop where
  fits : name.toList.length ≤ width
  text : ∃ behind, line = front ++ name.toList ++
    List.replicate (width - name.toList.length) ' ' ++ gap ++ field ++ gap ++ behind

section Widths

theorem is_width (least : Nat) (names : List String) :
    IsWidth least names (width least names) := by
  induction names generalizing least with
  | nil => exact ⟨Nat.le_refl least, nofun, .inl rfl⟩
  | cons name rest induction =>
      have later := induction (max least (size name.toList))
      change IsWidth _ rest (width least (name :: rest)) at later
      refine ⟨(Nat.le_max_left ..).trans later.least_le, ?_, ?_⟩
      · rw [List.forall_mem_cons]
        exact ⟨(Nat.le_max_right ..).trans later.least_le, later.covers⟩
      · rcases later.reached with own | ⟨other, member, same⟩
        · rcases Nat.le_total least (size name.toList) with longer | shorter
          · rw [Nat.max_eq_right longer] at own
            exact .inr ⟨name, List.mem_cons_self, own.symm⟩
          · rw [Nat.max_eq_left shorter] at own
            exact .inl own
        · exact .inr ⟨other, List.mem_cons_of_mem name member, same⟩

theorem width_le_iff {least most : Nat} (names : List String) (small : least ≤ most) :
    width least names ≤ most ↔ ∀ name ∈ names, size name.toList ≤ most := by
  have isWidth := is_width least names
  constructor
  · intro narrow name member
    exact (isWidth.covers name member).trans narrow
  · intro each
    rcases isWidth.reached with own | ⟨name, member, same⟩
    · rwa [own]
    · rw [← same]
      exact each name member

theorem prints_of_width {least : Nat} (names : List String) (lines : List (List Char))
    (small : least ≤ mostWidth) :
    Prints (if width least names ≤ mostWidth then some (String.ofList lines.flatten) else none)
      names lines := by
  constructor
  · rw [← width_le_iff names small]
    split <;> simp [*]
  · intro table printed
    obtain ⟨_, same⟩ := Option.ite_none_right_eq_some.mp printed
    rw [← Option.some.inj same, String.toList_ofList]

end Widths

section Padding

variable {place least : Nat} {field line : List Char}

theorem stands_behind {front : List Char} (length : front.length = place)
    (behind : List Char) : StandsAt place field (front ++ field ++ behind) := by
  rw [StandsAt, List.append_assoc, List.drop_left' length]
  exact List.prefix_append field behind

/-- The field behind a name stands where the column of names ends, whatever the name. -/
theorem Holds.stands {front : List Char} {name : String} {width : Nat}
    (holds : Holds front name width field line) :
    StandsAt (front.length + width + gap.length) field line := by
  obtain ⟨behind, rfl⟩ := holds.text
  have fits := holds.fits
  rw [List.append_assoc (_ ++ field)]
  apply stands_behind
  simp only [List.length_append, List.length_replicate]
  omega

end Padding

end Table

open Table

namespace Scoreboard

variable (board : Scoreboard)

def ratioText (team : Team) : List Char :=
  number team.solvedCount ++ '/' :: number board.challenges.length ++
    (if team.isOwn then [' ', '*'] else [])

theorem prints_lines : Prints board.render (board.teams.map Team.name)
    (board.headerLine :: board.teams.mapIdx board.teamLine) := by
  have small : 4 ≤ mostWidth := by decide
  rw [render, nameWidth, table, ← List.flatten_cons]
  exact prints_of_width _ _ small

end Scoreboard

namespace ChallengeBrowser

variable (browser : ChallengeBrowser)

def solvesText (row : LiveRow) : List Char :=
  padRight 6 (if row.solvedByOwn then "solved" else "open").toList ++ gap ++
    number row.solves.length

theorem prints_lines : Prints browser.render (browser.rows.map fun row => row.challenge.tag)
    (browser.headerLine :: browser.rows.map browser.rowLine) := by
  have small : 3 ≤ mostWidth := by decide
  rw [render, tagWidth, table, ← List.flatten_cons]
  exact prints_of_width _ _ small

end ChallengeBrowser

end FlagBoard
