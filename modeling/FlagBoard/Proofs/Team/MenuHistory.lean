import FlagBoard.Proofs.Team.Refreshing

/-!
What a slot menu shows is told by what has happened to it. Each of its four parts goes by steps of
its own: every other toggle opens, a list stays until the next one comes, and whether the menu is
loading or shows an error goes by the last of the openings and the results. A toggle that shuts the
menu leaves all but its being open as it was.
-/

namespace FlagBoard.VpnMenu

namespace Step

def isToggle : Step → Bool
  | toggle => true
  | load _ => false

/-- The list that a step brings, if it is the result of a refresh that went well. -/
def list? : Step → Option (List VpnSlot)
  | load (.ok slots) => some slots
  | load (.error _) => none
  | toggle => none

end Step

def run (menu : VpnMenu) (steps : List Step) : VpnMenu :=
  steps.foldl (fun menu step => (menu.step step).1) menu

def toggles (steps : List Step) : Nat := steps.countP Step.isToggle

/-- The openings and the results among steps, in order. An opening is a toggle with an even number
of toggles before it; `toggled` counts those before the first of the steps. -/
def news (toggled : Nat) : List Step → List Step
  | [] => []
  | .toggle :: steps =>
      if toggled % 2 = 0 then .toggle :: news (toggled + 1) steps else news (toggled + 1) steps
  | .load result :: steps => .load result :: news toggled steps

section Histories

variable (steps : List Step)

theorem run_concat (menu : VpnMenu) (last : Step) :
    run menu (steps ++ [last]) = ((run menu steps).step last).1 :=
  List.foldl_concat ..

theorem toggles_toggle : toggles (steps ++ [.toggle]) = toggles steps + 1 := by
  simp [toggles, Step.isToggle]

theorem toggles_load (result : Except String (List VpnSlot)) :
    toggles (steps ++ [.load result]) = toggles steps := by
  simp [toggles, Step.isToggle]

theorem news_append (toggled : Nat) (later : List Step) :
    news toggled (steps ++ later) = news toggled steps ++ news (toggled + toggles steps) later := by
  induction steps generalizing toggled with
  | nil => rfl
  | cons step steps induction =>
      cases step with
      | toggle =>
          have count : toggled + toggles (.toggle :: steps) = toggled + 1 + toggles steps := by
            simp only [toggles, Step.isToggle, List.countP_cons, if_true]
            omega
          rw [List.cons_append, news, news, induction, count]
          split_ifs <;> rfl
      | load result =>
          have count : toggles (.load result :: steps) = toggles steps := by
            simp [toggles, Step.isToggle]
          rw [List.cons_append, news, news, induction, count]
          rfl

theorem news_opening (even : toggles steps % 2 = 0) :
    news 0 (steps ++ [.toggle]) = news 0 steps ++ [.toggle] := by
  rw [news_append, Nat.zero_add, news, if_pos even]
  rfl

theorem news_closing (odd : toggles steps % 2 = 1) :
    news 0 (steps ++ [.toggle]) = news 0 steps := by
  rw [news_append, Nat.zero_add, news, if_neg (by omega)]
  exact List.append_nil _

theorem news_load (result : Except String (List VpnSlot)) :
    news 0 (steps ++ [.load result]) = news 0 steps ++ [.load result] := by
  rw [news_append]
  rfl

end Histories

/-- How a menu stands to what has happened to it. -/
structure Told (menu : VpnMenu) (steps : List Step) : Prop where
  isOpen : menu.isOpen = true ↔ toggles steps % 2 = 1
  slots : menu.slots = (steps.filterMap Step.list?).getLast?.getD []
  loading : menu.loading = true ↔ (news 0 steps).getLast? = some .toggle
  error : ∀ message,
    menu.error = some message ↔ (news 0 steps).getLast? = some (.load (.error message))

section Steps

variable {menu : VpnMenu} {steps : List Step}

theorem told_closed : Told closed [] := by
  constructor <;> simp [closed, toggles, news]

theorem told_opening (told : Told menu steps) (even : toggles steps % 2 = 0) :
    Told { menu with isOpen := true, loading := true, error := none } (steps ++ [.toggle]) where
  isOpen := by
    rw [toggles_toggle]
    exact iff_of_true rfl (by omega)
  slots := by
    rw [List.filterMap_append]
    simpa [Step.list?] using told.slots
  loading := by
    rw [news_opening steps even]
    simp
  error := by
    intro message
    rw [news_opening steps even]
    simp

/-- Shutting the menu is no news, so all else is told as before. -/
theorem told_closing (told : Told menu steps) (odd : toggles steps % 2 = 1) :
    Told { menu with isOpen := false } (steps ++ [.toggle]) where
  isOpen := by
    rw [toggles_toggle]
    exact iff_of_false Bool.false_ne_true (by omega)
  slots := by
    rw [List.filterMap_append]
    simpa [Step.list?] using told.slots
  loading := by
    rw [news_closing steps odd]
    exact told.loading
  error := by
    rw [news_closing steps odd]
    exact told.error

theorem told_load (told : Told menu steps) (result : Except String (List VpnSlot)) :
    Told (menu.load result) (steps ++ [.load result]) where
  isOpen := by
    rw [toggles_load]
    cases result <;> exact told.isOpen
  slots := by
    rw [List.filterMap_append]
    cases result with
    | ok slots => simp [load, Step.list?]
    | error message => simpa [load, Step.list?] using told.slots
  loading := by
    rw [news_load]
    cases result <;> simp [load]
  error := by
    intro message
    rw [news_load]
    cases result <;> simp [load]

theorem told_step (told : Told menu steps) (last : Step) :
    Told (menu.step last).1 (steps ++ [last]) := by
  cases last with
  | toggle =>
      cases isOpen : menu.isOpen with
      | false =>
          have even : ¬ toggles steps % 2 = 1 := fun odd => by
            rw [told.isOpen.mpr odd] at isOpen
            cases isOpen
          rw [toggle_open isOpen]
          exact told_opening told (by omega)
      | true =>
          rw [toggle_shut isOpen]
          exact told_closing told (told.isOpen.mp isOpen)
  | load result => exact told_load told result

end Steps

theorem told_run (steps : List Step) : Told (run closed steps) steps := by
  induction steps using List.reverseRecOn with
  | nil => exact told_closed
  | append_singleton steps last induction =>
      rw [run_concat]
      exact told_step induction last

/-- A menu is told by its history. However often it is toggled and whatever results come, it is
open exactly after an odd number of toggles, and each toggle says whether it opened the menu; the
slots are the last list that a refresh has brought, if any, and no failure and no toggle takes them
away. Of the openings and the results the last one alone says the rest: the menu is loading exactly
if it is an opening, and shows an error exactly if it is a failure with that error. -/
theorem menu_told_by_history (steps : List Step) :
    let menu := run closed steps
    (menu.isOpen = true ↔ toggles steps % 2 = 1) ∧
    (menu.step .toggle).2 = some (run closed (steps ++ [.toggle])).isOpen ∧
    menu.slots = (steps.filterMap Step.list?).getLast?.getD [] ∧
    (menu.loading = true ↔ (news 0 steps).getLast? = some .toggle) ∧
    ∀ message,
      menu.error = some message ↔ (news 0 steps).getLast? = some (.load (.error message)) := by
  intro menu
  have told := told_run steps
  refine ⟨told.isOpen, ?_, told.slots, told.loading, told.error⟩
  rw [run_concat]
  rfl

end FlagBoard.VpnMenu
