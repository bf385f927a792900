import FlagBoard.Submission.Reservation
import Mathlib

/-!
Who holds which tag, over any run of holders that reserve tags and give them up again. The guard is
a bare set of tags, and yet it decides as if it looked at the live reservations themselves: no tag
is ever held twice, a refusal leaves everything as it is, and a tag is free again exactly when its
own holder has given it up.
-/

namespace FlagBoard.Reservations

/-- What a holder does. Giving up a reservation stands for its end, whether it came to something or
was abandoned. -/
inductive Step
  | reserve (slot : Nat) (tag : String)
  | cancel (slot : Nat)
  deriving DecidableEq, Repr

/-- The reservations after a step, and why it was refused if it was. -/
def step (reservations : Reservations) : Step → Reservations × Option SubmitError
  | .reserve slot tag =>
      match reservations.reserve tag slot with
      | .ok next => (next, none)
      | .error refusal => (reservations, some refusal)
  | .cancel slot => ((reservations.cancel slot).1, none)

def run (steps : List Step) : Reservations :=
  steps.foldl (fun reservations step => (reservations.step step).1) empty

/-- The live reservations after one more step, told without a guard: a tag is taken if nobody has
it, and what the slot held before is given up for it. -/
def liveStep (live : List (Nat × String)) : Step → List (Nat × String)
  | .reserve slot tag =>
      if tag ∈ live.map Prod.snd then live
      else (slot, tag) :: live.filter fun entry => entry.1 ≠ slot
  | .cancel slot => live.filter fun entry => entry.1 ≠ slot

def live (steps : List Step) : List (Nat × String) := steps.foldl liveStep []

/-- The guard holds the tags of the live reservations, each once, and no slot has two of them. -/
structure Keeps (live : List (Nat × String)) (reservations : Reservations) : Prop where
  held : reservations.held = live
  guarded : reservations.guard.tags.Perm (live.map Prod.snd)
  tags : (live.map Prod.snd).Nodup
  slots : (live.map Prod.fst).Nodup

theorem keeps_empty : Keeps [] empty :=
  ⟨rfl, List.Perm.nil, List.nodup_nil, List.nodup_nil⟩

theorem nodup_map_filter {Item Key : Type} (key : Item → Key) (items : List Item)
    (distinct : (items.map key).Nodup) (keep : Item → Bool) :
    ((items.filter keep).map key).Nodup :=
  distinct.sublist (List.filter_sublist.map key)

section Preservation

variable {entries : List (Nat × String)} {reservations : Reservations}

theorem mem_guard_iff (keeps : Keeps entries reservations) (tag : String) :
    tag ∈ reservations.guard.tags ↔ ∃ slot, (slot, tag) ∈ entries := by
  rw [keeps.guarded.mem_iff, List.mem_map]
  constructor
  · rintro ⟨⟨slot, other⟩, member, rfl⟩
    exact ⟨slot, member⟩
  · rintro ⟨slot, member⟩
    exact ⟨(slot, tag), member, rfl⟩

/-- Among distinct slots and distinct tags, a reservation is left out by its slot as by its tag. -/
theorem filter_slot_eq_filter_tag (keeps : Keeps entries reservations) (slot : Nat) (tag : String)
    (member : (slot, tag) ∈ entries) :
    entries.filter (fun entry => entry.1 ≠ slot) =
      entries.filter fun entry => entry.2 ≠ tag := by
  apply List.filter_congr
  intro entry other
  have sameSlot : entry.1 = slot → entry = (slot, tag) := fun same =>
    List.inj_on_of_nodup_map keeps.slots other member same
  have sameTag : entry.2 = tag → entry = (slot, tag) := fun same =>
    List.inj_on_of_nodup_map keeps.tags other member same
  rw [decide_eq_decide]
  constructor
  · intro apart same
    apply apart
    rw [sameTag same]
  · intro apart same
    apply apart
    rw [sameSlot same]

/-- Giving up a slot frees the tag that was held there and no other. -/
theorem keeps_cancel (keeps : Keeps entries reservations) (slot : Nat) :
    Keeps (entries.filter fun entry => entry.1 ≠ slot) (reservations.cancel slot).1 := by
  have tags := nodup_map_filter Prod.snd entries keeps.tags fun entry => entry.1 ≠ slot
  have slots := nodup_map_filter Prod.fst entries keeps.slots fun entry => entry.1 ≠ slot
  cases found : reservations.held.lookup slot with
  | none =>
      have nothing : entries.filter (fun entry => entry.1 ≠ slot) = entries := by
        rw [List.filter_eq_self]
        intro entry member
        rw [← keeps.held] at member
        have other := bne_iff_ne.mp (List.lookup_eq_none_iff.mp found entry member)
        exact decide_eq_true other.symm
      rw [nothing, cancel, found]
      exact keeps
  | some tag =>
      obtain ⟨before, after, split, _⟩ := List.lookup_eq_some_iff.mp found
      have member : (slot, tag) ∈ entries := by
        rw [← keeps.held, split]
        simp
      have freed : (reservations.guard.free tag).tags.Perm
          ((entries.filter fun entry => entry.1 ≠ slot).map Prod.snd) := by
        -- The guard is filtered by the tag and the reservations by the slot.
        have others := keeps.guarded.filter fun other => other ≠ tag
        rw [List.filter_map] at others
        rw [filter_slot_eq_filter_tag keeps slot tag member]
        exact others
      rw [cancel, found]
      exact ⟨by rw [keeps.held], freed, tags, slots⟩

theorem reserve_refused (keeps : Keeps entries reservations) (slot : Nat) (tag : String)
    (taken : tag ∈ entries.map Prod.snd) :
    reservations.reserve tag slot = .error (.inFlight tag) := by
  have guarded := keeps.guarded.mem_iff.mpr taken
  rw [reserve, Guard.reserve, if_pos guarded]
  rfl

/-- Giving up a slot does not free a tag that was taken after it. -/
theorem cancel_after_taking (slot : Nat) (tag : String)
    (free : tag ∉ reservations.held.map Prod.snd) :
    (cancel ⟨⟨tag :: reservations.guard.tags⟩, reservations.held⟩ slot).1 =
      ⟨⟨tag :: (reservations.cancel slot).1.guard.tags⟩, (reservations.cancel slot).1.held⟩ := by
  cases found : reservations.held.lookup slot with
  | none => simp [cancel, found]
  | some old =>
      obtain ⟨before, after, split, _⟩ := List.lookup_eq_some_iff.mp found
      have different : tag ≠ old := by
        rintro rfl
        apply free
        rw [split]
        simp
      simp [cancel, found, Guard.free, different]

/-- A tag that nobody has is taken, and then what its new slot held before is given up. -/
theorem keeps_reserve (keeps : Keeps entries reservations) (slot : Nat) (tag : String)
    (free : tag ∉ entries.map Prod.snd) :
    ∃ next, reservations.reserve tag slot = .ok next ∧
      Keeps ((slot, tag) :: entries.filter fun entry => entry.1 ≠ slot) next := by
  have unguarded : tag ∉ reservations.guard.tags := fun member =>
    free (keeps.guarded.mem_iff.mp member)
  have reserved : reservations.reserve tag slot =
      .ok ⟨⟨tag :: (reservations.cancel slot).1.guard.tags⟩,
        (slot, tag) :: (reservations.cancel slot).1.held⟩ := by
    rw [← keeps.held] at free
    simp only [reserve, Guard.reserve, if_neg unguarded, bind, Except.bind,
      cancel_after_taking slot tag free]
  have others := keeps_cancel keeps slot
  refine ⟨_, reserved, ?_⟩
  constructor
  case held =>
    exact congrArg ((slot, tag) :: ·) others.held
  case guarded =>
    exact others.guarded.cons tag
  case tags =>
    rw [List.map_cons, List.nodup_cons]
    refine ⟨fun member => free ?_, others.tags⟩
    exact (List.filter_sublist.map Prod.snd).subset member
  case slots =>
    rw [List.map_cons, List.nodup_cons]
    refine ⟨?_, others.slots⟩
    simp

theorem keeps_step (keeps : Keeps entries reservations) (next : Step) :
    Keeps (liveStep entries next) (reservations.step next).1 := by
  cases next with
  | cancel slot => exact keeps_cancel keeps slot
  | reserve slot tag =>
      by_cases taken : tag ∈ entries.map Prod.snd
      · rw [step, reserve_refused keeps slot tag taken, liveStep, if_pos taken]
        exact keeps
      · obtain ⟨granted, reserved, after⟩ := keeps_reserve keeps slot tag taken
        rw [step, reserved, liveStep, if_neg taken]
        exact after

end Preservation

theorem keeps_run (steps : List Step) : Keeps (live steps) (run steps) := by
  induction steps using List.reverseRecOn with
  | nil => exact keeps_empty
  | append_singleton steps last induction =>
      rw [live, run, List.foldl_append, List.foldl_append]
      exact keeps_step induction last

theorem live_cancel_all (steps : List Step) (slots : List Nat) :
    live (steps ++ slots.map Step.cancel) =
      (live steps).filter fun entry => entry.1 ∉ slots := by
  induction slots using List.reverseRecOn with
  | nil => simp
  | append_singleton slots slot induction =>
      have split : live (steps ++ (slots ++ [slot]).map Step.cancel) =
          liveStep (live (steps ++ slots.map Step.cancel)) (.cancel slot) := by
        simp [live]
      rw [split, induction, liveStep, List.filter_filter]
      apply List.filter_congr
      intro entry _
      simp [not_or, and_comm]

theorem run_append_singleton (steps : List Step) (last : Step) :
    run (steps ++ [last]) = ((run steps).step last).1 := by
  rw [run, List.foldl_append]
  rfl

section Runs

variable (steps : List Step) (slot : Nat) (tag : String)

theorem step_refused (taken : tag ∈ (live steps).map Prod.snd) :
    (run steps).step (.reserve slot tag) = (run steps, some (.inFlight tag)) := by
  rw [step, reserve_refused (keeps_run steps) slot tag taken]

theorem step_granted (free : tag ∉ (live steps).map Prod.snd) :
    ((run steps).step (.reserve slot tag)).2 = none := by
  obtain ⟨next, reserved, _⟩ := keeps_reserve (keeps_run steps) slot tag free
  rw [step, reserved]

theorem granted_iff : ((run steps).step (.reserve slot tag)).2 = none ↔
    tag ∉ (live steps).map Prod.snd := by
  constructor
  · intro granted taken
    rw [step_refused steps slot tag taken] at granted
    cases granted
  · exact step_granted steps slot tag

/-- Whoever was refused, and has nothing from before, gives up nothing. -/
theorem run_discarded (taken : tag ∈ (live steps).map Prod.snd)
    (outside : slot ∉ (live steps).map Prod.fst) :
    run (steps ++ [Step.reserve slot tag, Step.cancel slot]) = run steps := by
  have nothing : (run steps).held.lookup slot = none := by
    rw [(keeps_run steps).held, List.lookup_eq_none_iff]
    intro entry member
    rw [bne_iff_ne]
    rintro rfl
    exact outside (List.mem_map_of_mem member)
  have split : steps ++ [Step.reserve slot tag, Step.cancel slot] =
      (steps ++ [Step.reserve slot tag]) ++ [Step.cancel slot] := by simp
  rw [split, run_append_singleton, run_append_singleton, step_refused steps slot tag taken, step,
    cancel, nothing]

theorem guard_after_cancel (member : (slot, tag) ∈ live steps) (other : String) :
    other ∈ (run (steps ++ [Step.cancel slot])).guard.tags ↔
      other ∈ (run steps).guard.tags ∧ other ≠ tag := by
  have keeps := keeps_run steps
  have after := keeps_run (steps ++ [Step.cancel slot])
  have left : live (steps ++ [Step.cancel slot]) =
      (live steps).filter fun entry => entry.2 ≠ tag := by
    rw [← filter_slot_eq_filter_tag keeps slot tag member]
    simpa using live_cancel_all steps [slot]
  rw [mem_guard_iff after, mem_guard_iff keeps, left]
  simp [exists_and_right]

theorem live_nil_of_all (slots : List Nat) (all : ∀ entry ∈ live steps, entry.1 ∈ slots) :
    live (steps ++ slots.map Step.cancel) = [] := by
  rw [live_cancel_all, List.filter_eq_nil_iff]
  intro entry member
  simpa using all entry member

end Runs

/-- At most one holder has a tag at any time. Over any run of holders that reserve tags and give
them up, in any order, the guard holds the tags of the live reservations and each of them once. A
tag is granted exactly if nobody has it; a refusal changes nothing, and one who was refused has
nothing to free. Giving up a reservation frees its own tag alone, and once all are given up every
tag can be had again. -/
theorem one_holder_per_tag (steps : List Step) :
    (run steps).held = live steps ∧
    (run steps).guard.tags.Perm ((live steps).map Prod.snd) ∧
    ((live steps).map Prod.snd).Nodup ∧
    (∀ slot tag, ((run steps).step (.reserve slot tag)).2 = none ↔
      tag ∉ (live steps).map Prod.snd) ∧
    (∀ slot tag, tag ∈ (live steps).map Prod.snd →
      (run steps).step (.reserve slot tag) = (run steps, some (.inFlight tag)) ∧
      (slot ∉ (live steps).map Prod.fst →
        run (steps ++ [Step.reserve slot tag, Step.cancel slot]) = run steps)) ∧
    (∀ slot tag, (slot, tag) ∈ live steps → ∀ other,
      other ∈ (run (steps ++ [Step.cancel slot])).guard.tags ↔
        other ∈ (run steps).guard.tags ∧ other ≠ tag) ∧
    (∀ slots : List Nat, (∀ entry ∈ live steps, entry.1 ∈ slots) →
      (run (steps ++ slots.map Step.cancel)).guard.tags = [] ∧
      ∀ slot tag, ((run (steps ++ slots.map Step.cancel)).step (.reserve slot tag)).2 = none) := by
  have keeps := keeps_run steps
  refine ⟨keeps.held, keeps.guarded, keeps.tags, granted_iff steps, ?_, guard_after_cancel steps,
    ?_⟩
  · intro slot tag taken
    exact ⟨step_refused steps slot tag taken, run_discarded steps slot tag taken⟩
  · intro slots all
    have none := live_nil_of_all steps slots all
    have after := keeps_run (steps ++ slots.map Step.cancel)
    rw [none] at after
    refine ⟨List.perm_nil.mp after.guarded, ?_⟩
    intro slot tag
    apply step_granted
    rw [none]
    simp

/-- A third holder is refused a tag and discards what it never had, or the first gives up its
own. -/
theorem one_holder_per_tag_refused :
    let steps := [Step.reserve 1 "pwn", Step.reserve 2 "web"]
    run (steps ++ [Step.reserve 3 "pwn", Step.cancel 3]) = run steps ∧
      "web" ∈ (run (steps ++ [Step.cancel 1])).guard.tags ∧
      "pwn" ∉ (run (steps ++ [Step.cancel 1])).guard.tags ∧
      (run (steps ++ [1, 2].map Step.cancel)).guard.tags = [] := by
  intro steps
  obtain ⟨_, _, _, _, refusal, release, again⟩ := one_holder_per_tag steps
  have given := release 1 "pwn" (by decide)
  exact ⟨(refusal 3 "pwn" (by decide)).2 (by decide), (given "web").mpr (by decide),
    fun kept => ((given "pwn").mp kept).2 rfl, (again [1, 2] (by decide)).1⟩

end FlagBoard.Reservations
