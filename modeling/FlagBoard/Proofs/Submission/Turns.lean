import FlagBoard.Proofs.Submission.LastVerdict
import FlagBoard.Submission.ActionStatus

/-!
A button over its whole life. What it shows goes by its last turn, which is a start that was taken
or the end of an action. If every end answers a start of its own, starts and ends alternate, and
what is shown comes from the action that was started last. A button tells an outcome as a form for
flags does, but for the text of its success.
-/

namespace FlagBoard.ActionStatus

open FlagForm (errorOf successOf)

def run (status : ActionStatus) (steps : List Step) : ActionStatus :=
  steps.foldl (fun status step => (status.step step).1) status

def turns (status : ActionStatus) : List Step → List Step
  | [] => []
  | step :: steps =>
      if (status.step step).2 = some false then turns (status.step step).1 steps
      else step :: turns (status.step step).1 steps

def EndsAt (turns : List Step) (place : Nat) : Prop :=
  ∃ outcome done, turns[place]? = some (.finish outcome done)

/-- No start stands right behind a start. -/
def Apart (turns : List Step) : Prop :=
  ∀ place, turns[place]? = some .begin → turns[place + 1]? ≠ some .begin

/-- Every end answers a start before it, and no two ends answer the same; `start` tells the place of
the start for the place of the end. -/
structure Answers (turns : List Step) (start : Nat → Nat) : Prop where
  earlier : ∀ place, EndsAt turns place → start place < place
  taken : ∀ place, EndsAt turns place → turns[start place]? = some .begin
  own : ∀ place other, EndsAt turns place → EndsAt turns other → start place = start other →
    place = other

/-- What is said of an outcome: the error that a form shows, or the button's own text where a form
shows a success. -/
def messageOf (outcome : Outcome) (done : String) : Option String :=
  (errorOf outcome).or ((successOf outcome).map fun _ => done)

/-- The status that a last turn leaves. -/
def after : Option Step → ActionStatus
  | none => idle
  | some .begin => ⟨true, none, false⟩
  | some (.finish outcome done) => ⟨false, messageOf outcome done, (errorOf outcome).isSome⟩

section Runs

variable {status : ActionStatus}

theorem step_begin_busy (busy : status.busy = true) :
    status.step .begin = (status, some false) := by
  simp [step, ActionStatus.begin, busy]

theorem step_begin_free (free : status.busy = false) :
    status.step .begin = (⟨true, none, false⟩, some true) := by
  simp [step, ActionStatus.begin, free]

theorem finish_eq (outcome : Outcome) (done : String) :
    finish outcome done = after (some (.finish outcome done)) := by
  match outcome with
  | .ok .accepted => rfl
  | .ok (.rejected message) => rfl
  | .ok .ignored => rfl
  | .error error => rfl

theorem run_concat (status : ActionStatus) (steps : List Step) (last : Step) :
    run status (steps ++ [last]) = ((run status steps).step last).1 :=
  List.foldl_concat ..

theorem turns_concat (status : ActionStatus) (steps : List Step) (last : Step) :
    turns status (steps ++ [last]) = turns status steps ++
      if ((run status steps).step last).2 = some false then [] else [last] := by
  induction steps generalizing status with
  | nil => rfl
  | cons step steps induction =>
      have onward : run status (step :: steps) = run (status.step step).1 steps := rfl
      rw [List.cons_append, turns, turns, induction, onward]
      split_ifs <;> rfl

theorem turns_refused (steps : List Step) (busy : (run status steps).busy = true) :
    turns status (steps ++ [.begin]) = turns status steps := by
  rw [turns_concat, step_begin_busy busy, if_pos rfl, List.append_nil]

theorem turns_begun (steps : List Step) (free : (run status steps).busy = false) :
    turns status (steps ++ [.begin]) = turns status steps ++ [.begin] := by
  rw [turns_concat, step_begin_free free, if_neg (by simp)]

theorem turns_finished (status : ActionStatus) (steps : List Step) (outcome : Outcome)
    (done : String) :
    turns status (steps ++ [.finish outcome done]) =
      turns status steps ++ [.finish outcome done] := by
  rw [turns_concat, if_neg (by simp [step])]

theorem run_eq_after (steps : List Step) : run idle steps = after (turns idle steps).getLast? := by
  induction steps using List.reverseRecOn with
  | nil => rfl
  | append_singleton steps last induction =>
      rw [run_concat]
      cases last with
      | begin =>
          cases busy : (run idle steps).busy with
          | true => rw [step_begin_busy busy, turns_refused steps busy, induction]
          | false =>
              rw [step_begin_free busy, turns_begun steps busy, List.getLast?_concat]
              rfl
      | finish outcome done =>
          rw [turns_finished, List.getLast?_concat, ← finish_eq]
          rfl

theorem busy_after_iff (last : Option Step) :
    (after last).busy = true ↔ last = some .begin := by
  match last with
  | none => simp [after, idle]
  | some .begin => simp [after]
  | some (.finish outcome done) => simp [after]

end Runs

section Alternation

variable {turns : List Step} {start : Nat → Nat}

theorem apart_nil : Apart [] := by
  intro place begun
  cases begun

/-- A turn more keeps starts apart, unless it is a start behind a start. -/
theorem apart_concat (apart : Apart turns) (last : Step)
    (alone : last = .begin → turns.getLast? ≠ some .begin) : Apart (turns ++ [last]) := by
  intro place begun following
  have inside : place + 1 < (turns ++ [last]).length := (List.getElem?_eq_some_iff.mp following).1
  rw [List.length_append, List.length_singleton] at inside
  rw [List.getElem?_append_left (by omega)] at begun
  by_cases within : place + 1 < turns.length
  · rw [List.getElem?_append_left within] at following
    exact apart place begun following
  · have behind : place + 1 = turns.length := by omega
    have isBegin : last = .begin := by simpa [behind] using following
    have ending : turns.getLast? = some .begin := by
      rw [List.getLast?_eq_getElem?, ← behind]
      exact begun
    exact alone isBegin ending

/-- If no start follows a start and every end answers one of its own, starts and ends alternate. -/
theorem alternate (apart : Apart turns) (answers : Answers turns start) (place : Nat) :
    (turns[place]? = some .begin → place % 2 = 0) ∧
      (EndsAt turns place → place % 2 = 1 ∧ start place + 1 = place) := by
  induction place using Nat.strong_induction_on with
  | _ place induction =>
      -- A turn before this one that is no start is an end.
      have ends_of_before (other : Nat) (turn : Step) (stands : turns[place]? = some turn)
          (before : other < place) (noStart : turns[other]? ≠ some .begin) :
          EndsAt turns other := by
        have inside : place < turns.length := (List.getElem?_eq_some_iff.mp stands).1
        have found := List.getElem?_eq_getElem (Nat.lt_trans before inside)
        cases turn : turns[other] with
        | begin => exact absurd (turn ▸ found) noStart
        | finish outcome done => exact ⟨outcome, done, turn ▸ found⟩
      constructor
      · intro begins
        by_contra odd
        have before : place - 1 + 1 = place := by omega
        have noStart : turns[place - 1]? ≠ some .begin := by
          intro begun
          exact apart (place - 1) begun (before.symm ▸ begins)
        have ended := ends_of_before (place - 1) .begin begins (by omega) noStart
        have parity := (induction (place - 1) (by omega)).2 ended
        omega
      · intro ends
        have earlier := answers.earlier place ends
        have begun := answers.taken place ends
        have even := (induction (start place) earlier).1 begun
        by_cases next : start place + 1 = place
        · exact ⟨by omega, next⟩
        · -- Otherwise the turn behind the start is an end that answers the same start.
          obtain ⟨outcome, done, stands⟩ := ends
          have ended := ends_of_before (start place + 1) _ stands (by omega) (apart _ begun)
          have answered := (induction (start place + 1) (by omega)).2 ended
          have same := answers.own (start place + 1) place ended ⟨outcome, done, stands⟩
            (Nat.succ.inj answered.2)
          exact absurd same next

end Alternation

/-- A start is taken only while the button is not busy, that is, not right behind a start. -/
theorem turns_apart (steps : List Step) : Apart (turns idle steps) := by
  induction steps using List.reverseRecOn with
  | nil => exact apart_nil
  | append_singleton steps last induction =>
      cases last with
      | begin =>
          cases busy : (run idle steps).busy with
          | true => rwa [turns_refused steps busy]
          | false =>
              rw [turns_begun steps busy]
              apply apart_concat induction
              intro _ ending
              rw [run_eq_after, ending] at busy
              cases busy
      | finish outcome done =>
          rw [turns_finished]
          exact apart_concat induction _ nofun

section Statuses

theorem silent_while_busy (last : Option Step) (busy : (after last).busy = true) :
    (after last).message = none ∧ (after last).isError = false := by
  rw [(busy_after_iff last).mp busy]
  exact ⟨rfl, rfl⟩

theorem message_after_iff (last : Option Step) (message : String) :
    (after last).message = some message ↔
      ∃ outcome done, last = some (.finish outcome done) ∧
        messageOf outcome done = some message := by
  match last with
  | none => simp [after, idle]
  | some .begin => simp [after]
  | some (.finish outcome done) => simp [after]

/-- What is marked as an error is the error that a form shows. -/
theorem error_after_finish (outcome : Outcome) (done text : String) :
    (after (some (.finish outcome done))).message = some text ∧
      (after (some (.finish outcome done))).isError = true ↔ errorOf outcome = some text := by
  cases error : errorOf outcome with
  | none => simp [after, error]
  | some message => simp [after, messageOf, error]

theorem success_after_finish (outcome : Outcome) (done : String) :
    (after (some (.finish outcome done))).message.isSome = true ∧
      (after (some (.finish outcome done))).isError = false ↔
      (successOf outcome).isSome = true := by
  match outcome with
  | .ok .accepted => simp [after, messageOf, errorOf, successOf]
  | .ok (.rejected message) => simp [after, errorOf, successOf]
  | .ok .ignored => simp [after, messageOf, errorOf, successOf]
  | .error error => simp [after, errorOf, successOf]

theorem silent_after_finish (outcome : Outcome) (done : String) :
    (after (some (.finish outcome done))).message = none ↔
      errorOf outcome = none ∧ successOf outcome = none := by
  simp [after, messageOf]

theorem message_of_error (last : Option Step) (marked : (after last).isError = true) :
    (after last).message.isSome = true := by
  match last with
  | none => cases marked
  | some .begin => cases marked
  | some (.finish outcome done) =>
      obtain ⟨error, isError⟩ := Option.isSome_iff_exists.mp marked
      simp [after, messageOf, isError]

/-- Whatever is shown before, a start and an end leave what the end says. -/
theorem begin_finish (status : ActionStatus) (outcome : Outcome) (done : String) :
    ((status.step .begin).1.step (.finish outcome done)).1 =
      after (some (.finish outcome done)) := finish_eq outcome done

end Statuses

/-- A button stays coherent over any run. While it is busy it shows no message and no error, and an
error is never marked without a message. It refuses to start while it is busy and is not changed by
that, and starts at any other time. Its message is that of its last turn, if that is an end. If
every end answers a start of its own, starts and ends alternate, and each end answers the start
right before it. An outcome is told as on a form for flags: as an error with the same text, as a
success, or not at all. -/
theorem button_stays_coherent :
    (∀ steps : List Step,
      let status := run idle steps
      let turns := turns idle steps
      (status.busy = true → status.message = none ∧ status.isError = false) ∧
      (status.isError = true → status.message.isSome = true) ∧
      (status.busy = true → status.step .begin = (status, some false)) ∧
      (status.busy = false → (status.step .begin).2 = some true) ∧
      (∀ message, status.message = some message ↔
        ∃ outcome done, turns.getLast? = some (.finish outcome done) ∧
          messageOf outcome done = some message) ∧
      ∀ start, Answers turns start → ∀ place,
        (turns[place]? = some .begin → place % 2 = 0) ∧
        (EndsAt turns place → place % 2 = 1 ∧ start place + 1 = place)) ∧
    ∀ (status : ActionStatus) (form : FlagForm) (outcome : Outcome) (done : String),
      let shown := ((status.step .begin).1.step (.finish outcome done)).1
      let told := (form.step .begin).step (.finish outcome)
      (∀ text, shown.message = some text ∧ shown.isError = true ↔ told.error = some text) ∧
      (shown.message.isSome = true ∧ shown.isError = false ↔ told.success.isSome = true) ∧
      (shown.message = none ↔ told.error = none ∧ told.success = none) := by
  constructor
  · intro steps status turns
    have last : status = after turns.getLast? := run_eq_after steps
    refine ⟨?_, ?_, step_begin_busy, ?_, ?_, ?_⟩
    · rw [last]
      exact silent_while_busy _
    · rw [last]
      exact message_of_error _
    · intro free
      rw [step_begin_free free]
    · rw [last]
      exact message_after_iff _
    · intro start answers
      exact alternate (turns_apart steps) answers
  · intro status form outcome done shown told
    have last : shown = after (some (.finish outcome done)) := begin_finish status outcome done
    have shows : FlagForm.Shows told (.settled outcome) :=
      FlagForm.shows_finish (FlagForm.shows_begin form) outcome
    have error : told.error = errorOf outcome := shows.error
    have success : told.success = successOf outcome := shows.success
    rw [last, error, success]
    exact ⟨error_after_finish outcome done, success_after_finish outcome done,
      silent_after_finish outcome done⟩

/-- A button is pressed twice, the refusal comes, and it is pressed once more. There is one way to
tell which start the refusal answers. -/
theorem button_stays_coherent_pressed_twice :
    let steps : List Step := [.begin, .begin, .finish (.ok (.rejected "no")) "done", .begin]
    (run idle (steps.take 1)).step .begin = (run idle (steps.take 1), some false) ∧
    (run idle (steps.take 3)).message = some "no" ∧
    (run idle (steps.take 3)).message.isSome = true ∧
    ((run idle (steps.take 3)).step .begin).2 = some true ∧
    (run idle steps).message = none ∧
    Answers (turns idle steps) (fun _ => 0) ∧
    ∀ start, Answers (turns idle steps) start → start 1 = 0 := by
  intro steps
  have coherent := button_stays_coherent.1
  obtain ⟨-, -, refuses, -⟩ := coherent (steps.take 1)
  obtain ⟨-, marked, -, starts, belongs, -⟩ := coherent (steps.take 3)
  obtain ⟨silent, -, -, -, -, alternates⟩ := coherent steps
  have ended : EndsAt (turns idle steps) 1 := ⟨_, _, rfl⟩
  have answers : Answers (turns idle steps) (fun _ => 0) := by
    have only (place : Nat) (ends : EndsAt (turns idle steps) place) : place = 1 := by
      obtain ⟨outcome, done, stands⟩ := ends
      match place with
      | 0 => cases stands
      | 1 => rfl
      | 2 => cases stands
      | _ + 3 => cases stands
    constructor
    case earlier => exact fun place ends => only place ends ▸ Nat.one_pos
    case taken => exact fun _ _ => rfl
    case own => exact fun place other ends otherEnds _ =>
      (only place ends).trans (only other otherEnds).symm
  have message := (belongs "no").mpr ⟨_, _, rfl, rfl⟩
  refine ⟨refuses rfl, message, marked rfl, starts rfl, (silent rfl).1, answers, ?_⟩
  intro start answersSo
  exact Nat.succ.inj ((alternates start answersSo 1).2 ended).2

end FlagBoard.ActionStatus
