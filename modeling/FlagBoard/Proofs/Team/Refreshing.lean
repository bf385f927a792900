import FlagBoard.Team.Vpn
import Mathlib

/-!
The slot menu while its refreshes are under way. Every opening issues a refresh, and the answers
come at any time and in any order. The menu keeps no record of which refresh an answer belongs to:
it shows the list that was delivered last, and counts as loading from an opening to the next answer,
whosever that is. Only where refreshes do not overlap is that the answer to the last of them.
-/

namespace FlagBoard.VpnMenu

/-- What passes between a menu and the server. Refreshes are numbered in the order of their
issue, from zero on. -/
inductive Passage
  | issued
  | answered (refresh : Nat) (result : Except String (List VpnSlot))

namespace Passage

def isIssue : Passage → Bool
  | issued => true
  | answered _ _ => false

def answers? : Passage → Option Nat
  | issued => none
  | answered refresh _ => some refresh

def list? : Passage → Option (Nat × List VpnSlot)
  | answered refresh (.ok slots) => some (refresh, slots)
  | answered _ (.error _) => none
  | issued => none

end Passage

/-- Number of refreshes issued, which is also the number of the next. -/
def issuedCount (log : List Passage) : Nat := log.countP Passage.isIssue

/-- The refreshes that have been answered, in the order of the answers. -/
def answered (log : List Passage) : List Nat := log.filterMap Passage.answers?

/-- The lists that have been delivered, each with its refresh, in the order of delivery. -/
def lists (log : List Passage) : List (Nat × List VpnSlot) := log.filterMap Passage.list?

def Outstanding (log : List Passage) (refresh : Nat) : Prop :=
  refresh < issuedCount log ∧ refresh ∉ answered log

instance (log : List Passage) (refresh : Nat) : Decidable (Outstanding log refresh) :=
  inferInstanceAs (Decidable (_ ∧ _))

/-- What a toggle sends: a refresh, if it asks for one. -/
def sent (asks : Option Bool) : List Passage := if asks = some true then [.issued] else []

/-- The menus that can come about, each with all that has passed. Only a refresh that is
outstanding can be answered. -/
inductive Reached : VpnMenu → List Passage → Prop
  | start : Reached closed []
  | toggle {menu : VpnMenu} {log : List Passage} (reached : Reached menu log) :
      Reached (menu.step .toggle).1 (log ++ sent (menu.step .toggle).2)
  | deliver {menu : VpnMenu} {log : List Passage} (reached : Reached menu log) (refresh : Nat)
      (outstanding : Outstanding log refresh) (result : Except String (List VpnSlot)) :
      Reached (menu.step (.load result)).1 (log ++ [.answered refresh result])

/-- A list was brought by the last issued of all refreshes that have brought one. -/
def IsNewest (log : List Passage) (newest : Nat × List VpnSlot) : Prop :=
  newest ∈ lists log ∧ ∀ other ∈ lists log, other.1 ≤ newest.1

/-- A menu is loading as long as anything is outstanding, and shows the newest list. -/
structure UpToDate (menu : VpnMenu) (log : List Passage) : Prop where
  loading : menu.loading = true ↔ ∃ refresh, Outstanding log refresh
  newest : ∀ newest, IsNewest log newest → menu.slots = newest.2
  nothing : lists log = [] → menu.slots = []

/-- No refresh is issued while another is outstanding. -/
def Apart (log : List Passage) : Prop :=
  ∀ before after, log = before ++ .issued :: after → ∀ refresh, ¬ Outstanding before refresh

section Passages

variable (log : List Passage) (refresh : Nat) (result : Except String (List VpnSlot))

@[simp] theorem issued_count_issue : issuedCount (log ++ [.issued]) = issuedCount log + 1 := by
  simp [issuedCount, Passage.isIssue]

@[simp] theorem issued_count_answer :
    issuedCount (log ++ [.answered refresh result]) = issuedCount log := by
  simp [issuedCount, Passage.isIssue]

@[simp] theorem answered_issue : answered (log ++ [.issued]) = answered log := by
  simp [answered, Passage.answers?]

@[simp] theorem answered_answer :
    answered (log ++ [.answered refresh result]) = answered log ++ [refresh] := by
  simp [answered, Passage.answers?]

theorem lists_issue : lists (log ++ [.issued]) = lists log := by
  simp [lists, Passage.list?]

/-- The refreshes that have brought a list are among those answered, in the same order. -/
theorem lists_sublist : ((lists log).map Prod.fst).Sublist (answered log) := by
  induction log with
  | nil => exact .slnil
  | cons passage log induction =>
      cases passage with
      | issued => exact induction
      | answered refresh result =>
          cases result with
          | ok slots => exact induction.cons_cons refresh
          | error message => exact induction.cons refresh

theorem outstanding_before_answer {other : Nat}
    (outstanding : Outstanding (log ++ [.answered refresh result]) other) :
    Outstanding log other ∧ other ≠ refresh := by
  simpa [Outstanding, and_assoc] using outstanding

theorem apart_before (last : Passage) (apart : Apart (log ++ [last])) : Apart log := by
  intro before after split
  apply apart before (after ++ [last])
  rw [split, List.append_assoc]
  rfl

end Passages

/-- How a menu stands to what has passed, in whatever order the answers came. -/
structure Stands (menu : VpnMenu) (log : List Passage) : Prop where
  loading : menu.loading = true ↔ log.getLast? = some .issued
  slots : menu.slots = ((lists log).getLast?.map Prod.snd).getD []
  issued : ∀ refresh ∈ answered log, refresh < issuedCount log
  latest : menu.loading = true → ∃ refresh, issuedCount log = refresh + 1 ∧ Outstanding log refresh

/-- How a menu stands to what has passed if no refresh overlaps another: the last one alone can be
outstanding, and then the menu is loading. -/
structure Serial (menu : VpnMenu) (log : List Passage) : Prop where
  last : ∀ refresh, Outstanding log refresh → issuedCount log = refresh + 1
  ordered : (answered log).Pairwise (· < ·)
  loading : ∀ refresh, Outstanding log refresh → menu.loading = true

section Steps

variable {menu : VpnMenu} {log : List Passage}

theorem toggle_open (shut : menu.isOpen = false) :
    menu.step .toggle =
      ({ menu with isOpen := true, loading := true, error := none }, some true) := by
  simp [step, VpnMenu.toggle, shut]

theorem toggle_shut (opened : menu.isOpen = true) :
    menu.step .toggle = ({ menu with isOpen := false }, some false) := by
  simp [step, VpnMenu.toggle, opened]

theorem stands_opening (stands : Stands menu log) :
    Stands { menu with isOpen := true, loading := true, error := none } (log ++ [.issued]) where
  loading := by simp
  slots := by
    rw [lists_issue]
    exact stands.slots
  issued := by
    intro refresh member
    rw [answered_issue] at member
    rw [issued_count_issue]
    exact Nat.lt_succ_of_lt (stands.issued refresh member)
  latest := by
    intro _
    refine ⟨issuedCount log, issued_count_issue log, ?_, ?_⟩
    · rw [issued_count_issue]
      exact Nat.lt_succ_self _
    · rw [answered_issue]
      intro member
      exact absurd (stands.issued _ member) (Nat.lt_irrefl _)

theorem stands_answer (stands : Stands menu log) (refresh : Nat)
    (result : Except String (List VpnSlot)) (outstanding : Outstanding log refresh) :
    Stands (menu.load result) (log ++ [.answered refresh result]) where
  loading := by cases result <;> simp [load]
  slots := by
    cases result with
    | ok slots => simp [load, lists, Passage.list?]
    | error message => simpa [load, lists, Passage.list?] using stands.slots
  issued := by
    intro other member
    rw [answered_answer, List.mem_append, List.mem_singleton] at member
    rw [issued_count_answer]
    cases member with
    | inl before => exact stands.issued other before
    | inr same => exact same ▸ outstanding.1
  latest := by cases result <;> simp [load]

theorem serial_opening (serial : Serial menu log)
    (nothing : ∀ refresh, ¬ Outstanding log refresh) :
    Serial { menu with isOpen := true, loading := true, error := none } (log ++ [.issued]) where
  last := by
    intro refresh outstanding
    have unanswered : refresh ∉ answered log := by simpa using outstanding.2
    have issued : refresh < issuedCount log + 1 := by simpa using outstanding.1
    have new : ¬ refresh < issuedCount log := fun older => nothing refresh ⟨older, unanswered⟩
    rw [issued_count_issue]
    omega
  ordered := by
    rw [answered_issue]
    exact serial.ordered
  loading _ _ := rfl

theorem serial_answer (stands : Stands menu log) (serial : Serial menu log) (refresh : Nat)
    (result : Except String (List VpnSlot)) (outstanding : Outstanding log refresh) :
    Serial (menu.load result) (log ++ [.answered refresh result]) := by
  have current := serial.last refresh outstanding
  -- The one refresh that was outstanding is answered, so none is left.
  have nothing : ∀ other, ¬ Outstanding (log ++ [.answered refresh result]) other := by
    intro other left
    obtain ⟨before, different⟩ := outstanding_before_answer log refresh result left
    have same := serial.last other before
    omega
  constructor
  case last =>
    intro other left
    exact absurd left (nothing other)
  case ordered =>
    rw [answered_answer, List.pairwise_append]
    refine ⟨serial.ordered, List.pairwise_singleton _ _, ?_⟩
    intro earlier member later same
    rw [List.mem_singleton] at same
    have issued := stands.issued earlier member
    have different : earlier ≠ refresh := fun equal => outstanding.2 (equal ▸ member)
    omega
  case loading =>
    intro other left
    exact absurd left (nothing other)

end Steps

section Runs

variable {menu : VpnMenu} {log : List Passage}

theorem stands_reached (reached : Reached menu log) :
    Stands menu log ∧ (Apart log → Serial menu log) := by
  induction reached with
  | start =>
      constructor
      · constructor <;> simp [closed, lists, answered, issuedCount]
      · intro _
        constructor <;> simp [Outstanding, answered, issuedCount]
  | @toggle menu log _ induction =>
      obtain ⟨stands, serial⟩ := induction
      cases isOpen : menu.isOpen with
      | false =>
          rw [toggle_open isOpen]
          refine ⟨stands_opening stands, ?_⟩
          intro apart
          exact serial_opening (serial (apart_before log _ apart)) (apart log [] rfl)
      | true =>
          rw [toggle_shut isOpen]
          change Stands _ (log ++ []) ∧ (Apart (log ++ []) → Serial _ (log ++ []))
          rw [List.append_nil]
          refine ⟨⟨stands.loading, stands.slots, stands.issued, stands.latest⟩, ?_⟩
          intro apart
          have before := serial apart
          exact ⟨before.last, before.ordered, before.loading⟩
  | @deliver menu log _ refresh outstanding result induction =>
      obtain ⟨stands, serial⟩ := induction
      refine ⟨stands_answer stands refresh result outstanding, ?_⟩
      intro apart
      exact serial_answer stands (serial (apart_before log _ apart)) refresh result outstanding

/-- If the lists came in the order of their refreshes, the one delivered last is the newest. -/
theorem slots_of_newest (stands : Stands menu log)
    (ordered : ((lists log).map Prod.fst).Pairwise (· < ·)) (newest : Nat × List VpnSlot)
    (isNewest : IsNewest log newest) : menu.slots = newest.2 := by
  obtain ⟨member, greatest⟩ := isNewest
  obtain ⟨before, last, split⟩ := (List.eq_nil_or_concat (lists log)).resolve_left
    (List.ne_nil_of_mem member)
  have shown : menu.slots = last.2 := by
    rw [stands.slots, split]
    simp
  rw [split, List.concat_eq_append] at member ordered greatest
  rw [List.map_append, List.pairwise_append] at ordered
  rw [List.mem_append, List.mem_singleton] at member
  cases member with
  | inl earlier =>
      have less := ordered.2.2 newest.1 (List.mem_map_of_mem earlier) last.1 (by simp)
      have most := greatest last (by simp)
      omega
  | inr same => rw [shown, same]

theorem up_to_date_of_serial (stands : Stands menu log) (serial : Serial menu log) :
    UpToDate menu log where
  loading := by
    constructor
    · intro loading
      obtain ⟨refresh, _, outstanding⟩ := stands.latest loading
      exact ⟨refresh, outstanding⟩
    · intro some
      obtain ⟨refresh, outstanding⟩ := some
      exact serial.loading refresh outstanding
  newest := slots_of_newest stands (serial.ordered.sublist (lists_sublist log))
  nothing := by
    intro none
    rw [stands.slots, none]
    rfl

end Runs

/-- A menu goes by the order in which answers are delivered. Whatever is clicked and whenever the
answers come, it is loading exactly as long as nothing was answered since its last refresh was
issued, which then is outstanding, and it shows the list that was delivered last; that is the newest
one if the lists came in the order of their refreshes. Where no refresh is issued while another is
outstanding, the menu is up to date. -/
theorem menu_goes_by_delivery (menu : VpnMenu) (log : List Passage) (reached : Reached menu log) :
    (menu.loading = true ↔ log.getLast? = some .issued) ∧
    (menu.loading = true → ∃ refresh, issuedCount log = refresh + 1 ∧ Outstanding log refresh) ∧
    menu.slots = ((lists log).getLast?.map Prod.snd).getD [] ∧
    (((lists log).map Prod.fst).Pairwise (· < ·) →
      ∀ newest, IsNewest log newest → menu.slots = newest.2) ∧
    (Apart log → UpToDate menu log) := by
  obtain ⟨stands, serial⟩ := stands_reached reached
  refine ⟨stands.loading, stands.latest, stands.slots, slots_of_newest stands, ?_⟩
  intro apart
  exact up_to_date_of_serial stands (serial apart)

/-- A menu that is shut and opened again after its first answer is up to date. -/
theorem menu_goes_by_delivery_reopened :
    UpToDate ⟨true, true, [⟨"conn_0", "USED"⟩], none⟩
      [.issued, .answered 0 (.ok [⟨"conn_0", "USED"⟩]), .issued] := by
  have reached : Reached ⟨true, true, [⟨"conn_0", "USED"⟩], none⟩
      [.issued, .answered 0 (.ok [⟨"conn_0", "USED"⟩]), .issued] :=
    (Reached.start.toggle.deliver 0 (by decide)
      (.ok [⟨"conn_0", "USED"⟩])).toggle.toggle
  apply (menu_goes_by_delivery _ _ reached).2.2.2.2
  intro before after split refresh outstanding
  match before with
  | [] => exact absurd outstanding.1 (Nat.not_lt_zero _)
  | [_] => simp at split
  | [first, second] =>
      obtain ⟨rfl, rfl, _⟩ := by simpa using split
      have issued : refresh < 1 := outstanding.1
      have unanswered : refresh ≠ 0 := List.ne_of_not_mem_cons outstanding.2
      omega
  | _ :: _ :: _ :: _ => simp at split

/-- A menu is opened, shut and opened again before any answer. The second refresh is answered
first, and the menu no longer counts as loading while the first is outstanding; then the first is
answered, and its list takes the place of the newer one. -/
theorem overlapping_refreshes_mislead :
    let newer : List VpnSlot := [⟨"conn_0", "N/U"⟩]
    let older : List VpnSlot := [⟨"conn_0", "USED"⟩]
    let log : List Passage := [.issued, .issued, .answered 1 (.ok newer)]
    let later : List Passage := log ++ [.answered 0 (.ok older)]
    Reached ⟨true, false, newer, none⟩ log ∧ Outstanding log 0 ∧
      ¬ UpToDate ⟨true, false, newer, none⟩ log ∧
      Reached ⟨true, false, older, none⟩ later ∧ IsNewest later (1, newer) ∧
      ¬ UpToDate ⟨true, false, older, none⟩ later := by
  intro newer older log later
  have opened : Reached _ [.issued, .issued] := Reached.start.toggle.toggle.toggle
  have overtaken := opened.deliver 1 (by decide) (.ok newer)
  have outstanding : Outstanding log 0 := by decide
  have newest : IsNewest later (1, newer) := by
    have delivered : lists later = [(1, newer), (0, older)] := rfl
    simp [IsNewest, delivered]
  refine ⟨overtaken, outstanding, ?_, overtaken.deliver 0 outstanding (.ok older), newest, ?_⟩
  · intro upToDate
    cases upToDate.loading.mpr ⟨0, outstanding⟩
  · intro upToDate
    have shown := upToDate.newest _ newest
    simp [newer, older] at shown

end FlagBoard.VpnMenu
