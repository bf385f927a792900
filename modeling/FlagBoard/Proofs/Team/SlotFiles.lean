import FlagBoard.Proofs.Command.Download
import FlagBoard.Proofs.Team.SlotNames
import Mathlib

/-!
The files of slots. A download without a path changes the file that is named by the number of the
slot and no other, so that slots keep apart as far as their numbers differ, whatever else their ids
hold.
-/

namespace FlagBoard

section Downloads

variable {server : Http.Server} {events : List WatchEvent} {base : String}
  {session : Option String} {delay : Nat} {id : String}

/-- The only file that a download without a path can change is in the home folder. -/
theorem download_changes {disk : Disk} {place : Place}
    (changed : (Command.download server events base session delay id none disk).disk.at? place ≠
      disk.at? place) :
    ∃ name, configFileName id = some name ∧ place = name.toList :: disk.home := by
  have ends : Command.Ends server base session id none disk
      (Command.download server events base session delay id none disk) :=
    Command.download_ends events delay
  cases ends with
  | failed _ _ _ _ _ same =>
      rw [same] at changed
      exact absurd rfl changed
  | saved path own response delivers leads _ _ writes =>
      have found : configFileName id = some path := Option.none_or.symm.trans delivers.found
      obtain ⟨rfl, _⟩ := (Command.locate_config found own).mp leads
      refine ⟨path, found, ?_⟩
      by_contra other
      exact changed (writes.others place other)

end Downloads

/-- An id names a file exactly if it has a number, and then it is the file of that number. Such a
name is tame whatever the id, and a download without a path changes no other file than that one in
the home folder. For an id in plain
form the number of the file is the one that the slot is shown with. -/
theorem id_names_slot_file (id : String) :
    (∀ name, configFileName id = some name ↔
      ∃ number, Numbered id number ∧ name = slotFile number) ∧
    (∀ name, configFileName id = some name → Tame name) ∧
    (∀ server events base session delay disk place,
      (Command.download server events base session delay id none disk).disk.at? place ≠
        disk.at? place →
      ∃ name, configFileName id = some name ∧ place = name.toList :: disk.home) ∧
    ∀ slot : VpnSlot, slot.id = id → slot.fileName = configFileName id ∧
      ∀ number : Nat, id = "conn_" ++ toString number →
        slot.label = "Connection " ++ toString number ∧
          slot.fileName = if number ≤ 255 then some (slotFile number) else none := by
  refine ⟨config_file_name_iff id, ?_, ?_, ?_⟩
  · intro name found
    obtain ⟨number, _, rfl⟩ := (config_file_name_iff id name).mp found
    exact tame_slot_file number
  · intro server events base session delay disk place changed
    exact download_changes changed
  · rintro slot rfl
    refine ⟨rfl, ?_⟩
    intro number plain
    constructor
    · rw [VpnSlot.label, plain, after_underscore_plain, Option.elim_some,
        ← Nat.toString_eq_ofList_toDigits]
    · rw [VpnSlot.fileName, plain, config_file_name_plain]

/-- Dots and slashes before the underscore are as good as nothing, and so are a sign and zeros. -/
theorem id_names_slot_file_climbing :
    Numbered "../../etc/x_+007" 7 ∧ configFileName "../../etc/x_+007" = some "conn_7.conf" ∧
      Tame "conn_7.conf" := by
  have numbered : Numbered "../../etc/x_+007" 7 :=
    ⟨"../../etc/x".toList, ['+'], "007".toList, by simp, by simp, .inr rfl, by simp, by simp,
      by rfl, by decide⟩
  obtain ⟨named, tame, _⟩ := id_names_slot_file "../../etc/x_+007"
  have found := (named "conn_7.conf").mpr ⟨7, numbered, by rfl⟩
  exact ⟨numbered, found, tame _ found⟩

/-- Two ids have files of one name exactly if their numbers are the same. Ids in plain form that
differ have files of different names, and a download without a path leaves the file of every other
number as it is. -/
theorem slots_share_files_by_number (first second name other : String)
    (firstNamed : configFileName first = some name)
    (secondNamed : configFileName second = some other) :
    (name = other ↔ ∃ number, Numbered first number ∧ Numbered second number) ∧
    (∀ m n : Nat, first = "conn_" ++ toString m → second = "conn_" ++ toString n →
      first ≠ second → name ≠ other) ∧
    ((¬ ∃ number, Numbered first number ∧ Numbered second number) →
      ∀ server events base session delay disk,
        (Command.download server events base session delay second none disk).disk.at?
            (name.toList :: disk.home) =
          disk.at? (name.toList :: disk.home)) := by
  have shared : name = other ↔ ∃ number, Numbered first number ∧ Numbered second number := by
    obtain ⟨number, numbered, rfl⟩ := (config_file_name_iff first name).mp firstNamed
    obtain ⟨another, again, rfl⟩ := (config_file_name_iff second other).mp secondNamed
    constructor
    · intro same
      obtain rfl := slot_file_injective same
      exact ⟨number, numbered, again⟩
    · rintro ⟨common, firstHas, secondHas⟩
      rw [numbered.unique firstHas, again.unique secondHas]
  refine ⟨shared, ?_, ?_⟩
  · rintro m n rfl rfl different same
    obtain ⟨number, firstHas, secondHas⟩ := shared.mp same
    apply different
    rw [← ((numbered_plain m number).mp firstHas).1, ← ((numbered_plain n number).mp secondHas).1]
  · intro apart server events base session delay disk
    by_contra changed
    obtain ⟨changedName, named, same⟩ := download_changes changed
    obtain rfl := Option.some.inj (named.symm.trans secondNamed)
    apply apart
    rw [← shared]
    exact String.toList_injective (List.cons.inj same).1

/-- The file of one slot stays as another is downloaded. -/
theorem slots_share_files_by_number_apart :
    configFileName "red_1" = some "conn_1.conf" ∧ configFileName "blue_02" = some "conn_2.conf" ∧
      ∀ server disk, (Command.download server [] "http://[::1]" none 0 "blue_02" none
        disk).disk.at? ("conn_1.conf".toList :: disk.home) =
          disk.at? ("conn_1.conf".toList :: disk.home) := by
  have first : configFileName "red_1" = some "conn_1.conf" := by rfl
  have second : configFileName "blue_02" = some "conn_2.conf" := by rfl
  obtain ⟨shared, _, kept⟩ := slots_share_files_by_number _ _ _ _ first second
  have apart : ¬ ∃ number, Numbered "red_1" number ∧ Numbered "blue_02" number := by
    rw [← shared]
    decide
  exact ⟨first, second, fun server disk => kept apart server [] _ none 0 disk⟩

/-- Two ids that differ in a zero have one file, and a download of the second replaces what was saved
for the first. -/
theorem zero_in_front_shares_file :
    "conn_1" ≠ "conn_01" ∧ configFileName "conn_1" = some "conn_1.conf" ∧
      configFileName "conn_01" = some "conn_1.conf" ∧
      (Command.download (fun _ => .ok (Http.Response.ofText 200 "second")) [] "http://[::1]" none 0
        "conn_01" none ⟨[(["conn_1.conf".toList], .file "first")], [], fun _ => none⟩).disk.entries =
          [(["conn_1.conf".toList], .file "second")] := by
  refine ⟨by decide, by rfl, by rfl, ?_⟩
  rfl

end FlagBoard
