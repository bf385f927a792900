import FlagBoard.Submission.FlagChecker
import Mathlib

/-!
What a form for flags shows over its whole life. Each message is set by one kind of result and
cleared by a new submission alone, so at most one of them stands as long as no two results come
after one submission. The page sees to that: while a flag is being checked it hands in no other.
-/

namespace FlagBoard

namespace FlagForm

namespace Step

def isFinish : Step → Bool
  | finish _ => true
  | _ => false

def isType : Step → Bool
  | type _ => true
  | _ => false

def isAccepted : Step → Bool
  | finish (.ok .accepted) => true
  | _ => false

end Step

/-- A submission has begun, and its result has not come. -/
def Awaiting (steps : List Step) : Prop :=
  ∃ earlier since, steps = earlier ++ .begin :: since ∧ ∀ step ∈ since, step.isFinish = false

/-- Every result follows a submission, with no other result in between. -/
def Orderly (steps : List Step) : Prop :=
  ∀ before outcome after, steps = before ++ .finish outcome :: after → Awaiting before

def errorOf : Outcome → Option String
  | .ok (.rejected message) => some message
  | .error error => some error.userMessage
  | .ok .accepted => none
  | .ok .ignored => none

def successOf : Outcome → Option String
  | .ok .accepted => some successMessage
  | .ok (.rejected _) => none
  | .ok .ignored => none
  | .error _ => none

/-- What has become of the last submission, if there was one. -/
inductive Stage
  | fresh
  | waiting
  | settled (outcome : Outcome)

namespace Stage

def next (stage : Stage) : Step → Stage
  | .begin => waiting
  | .type _ => stage
  | .finish outcome => settled outcome

def error : Stage → Option String
  | settled outcome => errorOf outcome
  | _ => none

def success : Stage → Option String
  | settled outcome => successOf outcome
  | _ => none

end Stage

def stage (steps : List Step) : Stage := steps.foldl Stage.next .fresh

section Stages

variable {since : List Step}

/-- Nothing but a result ends the wait for it. -/
theorem fold_waiting (unfinished : ∀ step ∈ since, step.isFinish = false) :
    since.foldl Stage.next .waiting = .waiting := by
  induction since with
  | nil => rfl
  | cons step since induction =>
      rw [List.forall_mem_cons] at unfinished
      rw [List.foldl_cons]
      cases step with
      | begin => exact induction unfinished.2
      | type text => exact induction unfinished.2
      | finish outcome => cases unfinished.1

theorem stage_of_begin (earlier : List Step)
    (unfinished : ∀ step ∈ since, step.isFinish = false) :
    stage (earlier ++ .begin :: since) = .waiting := by
  rw [stage, List.foldl_append, List.foldl_cons]
  exact fold_waiting unfinished

theorem stage_of_awaiting {steps : List Step} (awaiting : Awaiting steps) :
    stage steps = .waiting := by
  obtain ⟨earlier, since, split, unfinished⟩ := awaiting
  rw [split]
  exact stage_of_begin earlier unfinished

theorem fold_typing (stage : Stage) (typing : ∀ step ∈ since, step.isType = true) :
    since.foldl Stage.next stage = stage := by
  induction since with
  | nil => rfl
  | cons step since induction =>
      rw [List.forall_mem_cons] at typing
      rw [List.foldl_cons]
      cases step with
      | begin => cases typing.1
      | type text => exact induction typing.2
      | finish outcome => cases typing.1

theorem stage_of_finish (earlier : List Step) (outcome : Outcome)
    (typing : ∀ step ∈ since, step.isType = true) :
    stage (earlier ++ .finish outcome :: since) = .settled outcome := by
  rw [stage, List.foldl_append, List.foldl_cons]
  exact fold_typing _ typing

end Stages

section Orders

variable {steps : List Step} {last : Step}

theorem orderly_nil : Orderly [] := by
  intro before outcome after split
  exact absurd split (by simp)

/-- One more step keeps a run orderly if it is no result, or a result that was waited for. -/
theorem orderly_concat (orderly : Orderly steps)
    (awaited : last.isFinish = true → Awaiting steps) : Orderly (steps ++ [last]) := by
  intro before outcome after split
  cases after using List.reverseRecOn with
  | nil =>
      obtain ⟨same, isLast⟩ := List.append_inj' split rfl
      rw [← same]
      apply awaited
      rw [List.head_eq_of_cons_eq isLast]
      rfl
  | append_singleton after final =>
      rw [← List.cons_append, ← List.append_assoc] at split
      exact orderly before outcome after (List.append_inj' split rfl).1

theorem orderly_before (orderly : Orderly (steps ++ [last])) : Orderly steps := by
  intro before outcome after split
  apply orderly before outcome (after ++ [last])
  rw [split, List.append_assoc]
  rfl

theorem awaiting_begin (steps : List Step) : Awaiting (steps ++ [.begin]) :=
  ⟨steps, [], rfl, by simp⟩

theorem awaiting_concat (awaiting : Awaiting steps) (unfinished : last.isFinish = false) :
    Awaiting (steps ++ [last]) := by
  obtain ⟨earlier, since, split, before⟩ := awaiting
  refine ⟨earlier, since ++ [last], by simp [split], ?_⟩
  rw [List.forall_mem_append]
  exact ⟨before, by simpa using unfinished⟩

end Orders

/-- A form shows what has become of its last submission. -/
structure Shows (form : FlagForm) (stage : Stage) : Prop where
  error : form.error = stage.error
  success : form.success = stage.success

section Steps

variable {form : FlagForm} {stage : Stage}

theorem shows_begin (form : FlagForm) : Shows form.begin .waiting := ⟨rfl, rfl⟩

theorem shows_type (shows : Shows form stage) (text : String) :
    Shows (form.step (.type text)) stage := ⟨shows.error, shows.success⟩

/-- A result sets one message at most, and while it was waited for none stood there. -/
theorem shows_finish (shows : Shows form .waiting) (outcome : Outcome) :
    Shows (form.finish outcome) (.settled outcome) := by
  have noError : form.error = none := shows.error
  have noSuccess : form.success = none := shows.success
  match outcome with
  | .ok .accepted => exact ⟨noError, rfl⟩
  | .ok (.rejected message) => exact ⟨rfl, noSuccess⟩
  | .ok .ignored => exact ⟨noError, noSuccess⟩
  | .error error => exact ⟨rfl, noSuccess⟩

theorem run_concat (form : FlagForm) (steps : List Step) (last : Step) :
    form.run (steps ++ [last]) = (form.run steps).step last := by
  rw [run, run, List.foldl_append]
  rfl

theorem shows_run (steps : List Step) (orderly : Orderly steps) :
    Shows (empty.run steps) (FlagForm.stage steps) := by
  induction steps using List.reverseRecOn with
  | nil => exact ⟨rfl, rfl⟩
  | append_singleton steps last induction =>
      have shows := induction (orderly_before orderly)
      have grown : FlagForm.stage (steps ++ [last]) = (FlagForm.stage steps).next last := by
        rw [FlagForm.stage, FlagForm.stage, List.foldl_append]
        rfl
      rw [run_concat, grown]
      cases last with
      | begin => exact shows_begin _
      | type text => exact shows_type shows text
      | finish outcome =>
          rw [stage_of_awaiting (orderly steps outcome [] rfl)] at shows
          exact shows_finish shows outcome

theorem one_message_at_most (shows : Shows form stage) :
    form.error = none ∨ form.success = none := by
  rw [shows.error, shows.success]
  match stage with
  | .fresh => exact .inl rfl
  | .waiting => exact .inl rfl
  | .settled (.ok .accepted) => exact .inl rfl
  | .settled (.ok (.rejected message)) => exact .inr rfl
  | .settled (.ok .ignored) => exact .inl rfl
  | .settled (.error error) => exact .inr rfl

end Steps

section Input

theorem input_step (form : FlagForm) (last : Step) (untyped : last.isType = false) :
    (form.step last).input = if last.isAccepted then "" else form.input := by
  match last with
  | .begin => rfl
  | .type text => cases untyped
  | .finish (.ok .accepted) => rfl
  | .finish (.ok (.rejected message)) => rfl
  | .finish (.ok .ignored) => rfl
  | .finish (.error error) => rfl

/-- Without typing the input stays, until an accepted flag clears it. -/
theorem input_untyped (form : FlagForm) (since : List Step)
    (untyped : ∀ step ∈ since, step.isType = false) :
    (form.run since).input = if since.any Step.isAccepted then "" else form.input := by
  induction since using List.reverseRecOn with
  | nil => rfl
  | append_singleton since last induction =>
      rw [List.forall_mem_append] at untyped
      have lastUntyped := untyped.2 last (List.mem_singleton_self last)
      rw [run_concat, input_step _ last lastUntyped, induction untyped.1, List.any_append]
      cases accepted : last.isAccepted <;> simp [accepted]

theorem input_typed (form : FlagForm) (earlier : List Step) (text : String) (since : List Step)
    (untyped : ∀ step ∈ since, step.isType = false) :
    (form.run (earlier ++ .type text :: since)).input =
      if since.any Step.isAccepted then "" else text := by
  have behind := input_untyped ((form.run earlier).step (.type text)) since untyped
  rw [run, List.foldl_append, List.foldl_cons]
  exact behind

end Input

end FlagForm

namespace FlagChecker

/-- What handing in is to the form: a submission, unless it was refused. -/
def handed (taken : Bool) : List FlagForm.Step := if taken then [.begin] else []

/-- The forms that can come about on a page with a tag, each with all that happened to it. -/
inductive Reached (tag : Option String) : FlagChecker → List FlagForm.Step → Prop
  | start : Reached tag blank []
  | type {checker : FlagChecker} {steps : List FlagForm.Step} (reached : Reached tag checker steps)
      (text : String) : Reached tag (checker.type text) (steps ++ [.type text])
  | submit {checker : FlagChecker} {steps : List FlagForm.Step}
      (reached : Reached tag checker steps) :
      Reached tag (checker.submit tag).1 (steps ++ handed (checker.submit tag).2)
  | settle {checker : FlagChecker} {steps : List FlagForm.Step}
      (reached : Reached tag checker steps) (turn : Nat) (checked : turn < checker.underway.length)
      (outcome : Outcome) :
      Reached tag (checker.settle turn outcome) (steps ++ [.finish outcome])

/-- How a page stands to what happened to its form: it knows of the one flag that may be checked. -/
structure Follows (checker : FlagChecker) (steps : List FlagForm.Step) : Prop where
  form : checker.form = FlagForm.empty.run steps
  orderly : FlagForm.Orderly steps
  underway : checker.underway.length = if checker.pending then 1 else 0
  awaiting : checker.pending = true → FlagForm.Awaiting steps

section Pages

variable {tag : Option String} {checker : FlagChecker} {steps : List FlagForm.Step}

theorem follows_type (follows : Follows checker steps) (text : String) :
    Follows (checker.type text) (steps ++ [.type text]) where
  form := by
    rw [FlagForm.run_concat, ← follows.form]
    rfl
  orderly := FlagForm.orderly_concat follows.orderly nofun
  underway := follows.underway
  awaiting := fun pending => FlagForm.awaiting_concat (follows.awaiting pending) rfl

theorem submit_pending (tag : Option String) (pending : checker.pending = true) :
    checker.submit tag = (checker, false) := by
  unfold submit
  rw [if_pos pending]

theorem submit_untagged (free : checker.pending = false) :
    checker.submit none = (checker, false) := by
  unfold submit
  rw [free]
  rfl

theorem submit_free (tag : String) (free : checker.pending = false) :
    checker.submit (some tag) =
      (⟨checker.form.begin, true, (tag, checker.form.input) :: checker.underway⟩, true) := by
  unfold submit
  rw [free]
  rfl

theorem follows_submit (follows : Follows checker steps) (tag : Option String) :
    Follows (checker.submit tag).1 (steps ++ handed (checker.submit tag).2) := by
  have nothing : Follows checker (steps ++ handed false) := by
    rw [handed, if_neg Bool.false_ne_true, List.append_nil]
    exact follows
  cases pending : checker.pending with
  | true =>
      rw [submit_pending tag pending]
      exact nothing
  | false =>
      cases tag with
      | none =>
          rw [submit_untagged pending]
          exact nothing
      | some tag =>
          have none : checker.underway.length = 0 := by
            rw [follows.underway, pending]
            rfl
          rw [submit_free tag pending]
          change Follows _ (steps ++ [.begin])
          constructor
          case form =>
            rw [FlagForm.run_concat, ← follows.form]
            rfl
          case orderly => exact FlagForm.orderly_concat follows.orderly nofun
          case underway => simp [none]
          case awaiting => exact fun _ => FlagForm.awaiting_begin steps

theorem follows_settle (follows : Follows checker steps) (turn : Nat)
    (checked : turn < checker.underway.length) (outcome : Outcome) :
    Follows (checker.settle turn outcome) (steps ++ [.finish outcome]) := by
  have pending : checker.pending = true := by
    by_contra free
    rw [follows.underway, if_neg free] at checked
    exact absurd checked (Nat.not_lt_zero turn)
  have one : checker.underway.length = 1 := by
    rw [follows.underway, if_pos pending]
  constructor
  case form =>
    rw [FlagForm.run_concat, ← follows.form]
    rfl
  case orderly =>
    exact FlagForm.orderly_concat follows.orderly fun _ => follows.awaiting pending
  case underway =>
    change (checker.underway.eraseIdx turn).length = 0
    rw [List.length_eraseIdx_of_lt checked, one]
  case awaiting => nofun

theorem follows_reached (reached : Reached tag checker steps) : Follows checker steps := by
  induction reached with
  | start => exact ⟨rfl, FlagForm.orderly_nil, rfl, nofun⟩
  | type _ text induction => exact follows_type induction text
  | submit _ induction => exact follows_submit induction tag
  | settle _ turn checked outcome induction => exact follows_settle induction turn checked outcome

end Pages

end FlagChecker

namespace FlagForm

/-- A form always shows the verdict of its last submission and nothing else. On a page, whatever is
clicked and typed and whenever results come, every result follows a submission with no other result
in between. Over any run of that kind at most one message is set; between a submission and its
result there is none; and from a result to the next submission, whatever is typed meanwhile, the
messages are those of that result. The input is what was typed last, unless a flag was accepted
after that, and empty if nothing was typed. -/
theorem form_shows_last_verdict :
    (∀ (tag : Option String) (checker : FlagChecker) (steps : List Step),
      FlagChecker.Reached tag checker steps →
        checker.form = empty.run steps ∧ Orderly steps) ∧
    ∀ steps : List Step, Orderly steps →
      let form := empty.run steps
      (form.error = none ∨ form.success = none) ∧
      (∀ earlier since, steps = earlier ++ .begin :: since →
        (∀ step ∈ since, step.isFinish = false) → form.error = none ∧ form.success = none) ∧
      (∀ earlier outcome since, steps = earlier ++ .finish outcome :: since →
        (∀ step ∈ since, step.isType = true) →
        form.error = errorOf outcome ∧ form.success = successOf outcome) ∧
      ((∀ step ∈ steps, step.isType = false) → form.input = "") ∧
      (∀ earlier text since, steps = earlier ++ .type text :: since →
        (∀ step ∈ since, step.isType = false) →
        form.input = if since.any Step.isAccepted then "" else text) := by
  constructor
  · intro tag checker steps reached
    have follows := FlagChecker.follows_reached reached
    exact ⟨follows.form, follows.orderly⟩
  · intro steps orderly form
    have shows := shows_run steps orderly
    refine ⟨one_message_at_most shows, ?_, ?_, ?_, ?_⟩
    · intro earlier since split unfinished
      rw [split, stage_of_begin earlier unfinished, ← split] at shows
      exact ⟨shows.error, shows.success⟩
    · intro earlier outcome since split typing
      rw [split, stage_of_finish earlier outcome typing, ← split] at shows
      exact ⟨shows.error, shows.success⟩
    · intro untyped
      have input := input_untyped empty steps untyped
      rw [show empty.input = "" from rfl, ite_self] at input
      exact input
    · intro earlier text since split untyped
      have input := input_typed empty earlier text since untyped
      rw [← split] at input
      exact input

/-- A flag is refused, another one is typed and handed in, and something is typed before the
acceptance comes. -/
theorem form_shows_last_verdict_retried :
    let steps : List Step := [.type "a", .begin, .finish (.ok (.rejected "no")), .type "b", .begin,
      .type "c", .finish (.ok .accepted)]
    (empty.run steps).error = none ∧ (empty.run steps).success = some successMessage ∧
      (empty.run steps).input = "" := by
  intro steps
  have reached : FlagChecker.Reached (some "web") _ steps :=
    ((((((FlagChecker.Reached.start.type "a").submit.settle 0 (by decide)
      (.ok (.rejected "no"))).type "b").submit).type "c").settle 0 (by decide) (.ok .accepted))
  obtain ⟨onPage, shown⟩ := form_shows_last_verdict
  obtain ⟨_, _, settled, _, typed⟩ := shown steps (onPage _ _ _ reached).2
  have messages := settled (steps.take 6) (.ok .accepted) [] rfl (by simp)
  have input := typed (steps.take 5) "c" [.finish (.ok .accepted)] rfl (by simp [Step.isType])
  exact ⟨messages.1, messages.2, input⟩

end FlagForm

end FlagBoard
