import FlagBoard.Submission.Reply

/-!
Submissions in flight. A tag is reserved by one holder at a time; a holder that gives up its
reservation frees the tag of that one and no other.
-/

namespace FlagBoard

structure Guard where
  tags : List String
  deriving DecidableEq, Repr

namespace Guard

def empty : Guard := ⟨[]⟩

def reserve (guard : Guard) (tag : String) : Except SubmitError Guard :=
  if tag ∈ guard.tags then .error (.inFlight tag) else .ok ⟨tag :: guard.tags⟩

def free (guard : Guard) (tag : String) : Guard := ⟨guard.tags.filter fun other => other ≠ tag⟩

end Guard

/-- A guard with the reservations made on it, each in the slot of its holder. -/
structure Reservations where
  guard : Guard
  held : List (Nat × String)
  deriving DecidableEq, Repr

namespace Reservations

def empty : Reservations := ⟨.empty, []⟩

/-- Gives up the reservation in a slot. The second result says whether there was one. -/
def cancel (reservations : Reservations) (slot : Nat) : Reservations × Bool :=
  match reservations.held.lookup slot with
  | some tag =>
      (⟨reservations.guard.free tag, reservations.held.filter fun entry => entry.1 ≠ slot⟩, true)
  | none => (reservations, false)

/-- Reserves a tag for a slot. What the slot held before is given up after that. -/
def reserve (reservations : Reservations) (tag : String) (slot : Nat) :
    Except SubmitError Reservations := do
  let guard ← reservations.guard.reserve tag
  let freed := (cancel { reservations with guard } slot).1
  .ok { freed with held := (slot, tag) :: freed.held }

end Reservations

end FlagBoard
