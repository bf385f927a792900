import FlagBoard.Http.Failure
import FlagBoard.Http.Name

/-!
The disk that files are saved on. A path leads from folder to folder, from the root or from the
folder that a command runs in, and to a file at last, which is made if nothing is there.
-/

namespace FlagBoard

/-- A place on a disk: the names that lead to it from the root, the last one first. -/
abbrev Place := List (List Char)

inductive Entry
  | folder
  | file (content : String)
  deriving DecidableEq, Repr

structure Disk where
  entries : List (Place × Entry)
  /-- The folder that commands run in. -/
  home : Place
  /-- Why no file can be opened at a place to be written, for want of rights or of anything else. -/
  refuses : Place → Option WriteFault

namespace Disk

def blank : Disk := ⟨[], [], fun _ => none⟩

/-- What is at a place. The root is a folder, whatever else there is. -/
def at? (disk : Disk) (place : Place) : Option Entry :=
  if place.isEmpty then some .folder else disk.entries.lookup place

def enter (disk : Disk) (place : Place) (part : List Char) : Except WriteFault Place :=
  if part = ['.'] then .ok place
  else if part = ['.', '.'] then .ok place.tail
  else
    match disk.at? (part :: place) with
    | some .folder => .ok (part :: place)
    | some (.file _) => .error .noFolder
    | none => .error .nothingThere

def locate (disk : Disk) (path : String) : Except WriteFault Place :=
  let names := (Http.cutAt '/' path.toList).filter fun part => !part.isEmpty
  match names.getLast? with
  | none => .error (if path.isEmpty then .nothingThere else .isFolder)
  | some last => do
      let start := if path.toList.head? = some '/' then [] else disk.home
      let folder ← names.dropLast.foldlM disk.enter start
      if last = ['.'] ∨ last = ['.', '.'] ∨ path.toList.getLast? = some '/' then .error .isFolder
      else if disk.at? (last :: folder) = some .folder then .error .isFolder
      else
        match disk.refuses (last :: folder) with
        | some fault => .error fault
        | none => .ok (last :: folder)

def put (disk : Disk) (place : Place) (content : String) : Disk :=
  { disk with
      entries := disk.entries.filter (fun entry => entry.1 != place) ++ [(place, .file content)] }

def homeFiles (disk : Disk) : List (String × String) :=
  disk.entries.filterMap fun entry =>
    match entry with
    | (name :: folder, .file content) =>
        if folder = disk.home then some (String.ofList name, content) else none
    | _ => none

end Disk

end FlagBoard
