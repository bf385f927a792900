import FlagBoard.Command.Disk
import Mathlib

/-!
Saving a file. A path leads to one place at most, which is that of no folder, and what is written
there changes nothing else on the disk.
-/

namespace FlagBoard.Disk

/-- One file is written, and everything else stays as it is. -/
structure Writes (before : Disk) (place : Place) (content : String) (after : Disk) : Prop where
  written : after.at? place = some (.file content)
  others : ∀ other, other ≠ place → after.at? other = before.at? other
  home : after.home = before.home
  refuses : after.refuses = before.refuses

/-- A place where a file can be written. -/
structure Open (disk : Disk) (place : Place) : Prop where
  named : place ≠ []
  noFolder : disk.at? place ≠ some .folder
  allowed : disk.refuses place = none

section Places

variable {disk : Disk} {path : String} {place : Place}

theorem lookup_without (entries : List (Place × Entry)) (place other : Place)
    (different : other ≠ place) :
    (entries.filter fun entry => entry.1 != place).lookup other = entries.lookup other := by
  induction entries with
  | nil => rfl
  | cons entry rest induction =>
      by_cases same : entry.1 = place
      · have unlike : (other == entry.1) = false := by simpa [same] using different
        rw [List.filter_cons_of_neg (by simp [same]), induction, List.lookup, unlike]
      · rw [List.filter_cons_of_pos (by simp [same]), List.lookup, List.lookup, induction]

theorem lookup_removed (entries : List (Place × Entry)) (place : Place) :
    (entries.filter fun entry => entry.1 != place).lookup place = none := by
  rw [List.lookup_eq_none_iff]
  intro entry member
  have kept := (List.mem_filter.mp member).2
  rw [bne_iff_ne] at kept
  simpa using Ne.symm kept

theorem writes_put (disk : Disk) (named : place ≠ []) (content : String) :
    disk.Writes place content (disk.put place content) := by
  refine ⟨?_, ?_, rfl, rfl⟩
  · simp [at?, put, named, List.lookup_append, lookup_removed]
  · intro other different
    have unlike : (other == place) = false := by simpa using different
    simp only [at?, put, List.lookup_append, lookup_without _ _ _ different]
    simp [List.lookup, unlike]

/-- How a path leads to a place: through folders to the name of a file at its end. -/
theorem locate_through (found : disk.locate path = .ok place) :
    ∃ front last folder,
      (Http.cutAt '/' path.toList).filter (fun part => !part.isEmpty) = front ++ [last] ∧
      front.foldlM disk.enter (if path.toList.head? = some '/' then [] else disk.home) =
        .ok folder ∧
      place = last :: folder ∧ disk.Open place := by
  rw [locate] at found
  dsimp only at found
  split at found
  · cases found
  next last ended =>
    obtain ⟨front, split⟩ := List.getLast?_eq_some_iff.mp ended
    rw [split, List.dropLast_concat] at found
    cases reached : front.foldlM disk.enter
        (if path.toList.head? = some '/' then [] else disk.home) with
    | error fault =>
        rw [reached] at found
        cases found
    | ok folder =>
        rw [reached] at found
        change (if last = ['.'] ∨ last = ['.', '.'] ∨ path.toList.getLast? = some '/' then _
          else _) = _ at found
        split at found
        · cases found
        · split at found
          · cases found
          next noFolder =>
            split at found
            · cases found
            next allowed =>
              obtain rfl := Except.ok.inj found
              exact ⟨front, last, folder, split, reached, rfl, by simp, noFolder, allowed⟩

theorem cut_at_plain {text : List Char} (plain : '/' ∉ text) : Http.cutAt '/' text = [text] := by
  induction text with
  | nil => rfl
  | cons c rest induction =>
      rw [List.mem_cons, not_or] at plain
      rw [Http.cutAt, if_neg (Ne.symm plain.1), induction plain.2]

/-- A path without slashes that is not made of dots leads to the file of its name in the home folder,
if that can be written. -/
theorem locate_plain_iff (plain : '/' ∉ path.toList) (full : path.toList ≠ [])
    (noDot : path.toList ≠ ['.']) (noDots : path.toList ≠ ['.', '.']) :
    disk.locate path = .ok place ↔
      place = path.toList :: disk.home ∧ disk.Open (path.toList :: disk.home) := by
  have start : path.toList.head? ≠ some '/' := fun first => plain (List.mem_of_mem_head? first)
  have ends : path.toList.getLast? ≠ some '/' := fun last => plain (List.mem_of_getLast? last)
  have names : (Http.cutAt '/' path.toList).filter (fun part => !part.isEmpty) =
      [path.toList] := by
    rw [cut_at_plain plain, List.filter_cons_of_pos (by simp [full]), List.filter_nil]
  constructor
  · intro found
    obtain ⟨front, last, folder, split, reached, rfl, free⟩ := locate_through found
    rw [names] at split
    obtain rfl : front = [] := by simpa using congrArg List.length split
    cases split
    rw [if_neg start] at reached
    cases reached
    exact ⟨rfl, free⟩
  · rintro ⟨rfl, free⟩
    have folderless := free.noFolder
    have allowed := free.allowed
    simp [locate, names, start, ends, noDot, noDots, folderless, allowed, pure, Except.pure, bind,
      Except.bind]

end Places

end FlagBoard.Disk
