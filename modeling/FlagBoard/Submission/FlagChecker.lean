import FlagBoard.Submission.FlagForm

/-!
The form for a flag on the page of a challenge. While a flag is being checked no other is handed in,
so that every result answers the submission before it.
-/

namespace FlagBoard

/-- A form with the flags that are being checked, each with its tag. A result comes for each of them;
the form itself goes by `pending` alone. -/
structure FlagChecker where
  form : FlagForm
  pending : Bool
  underway : List (String × String)

namespace FlagChecker

def blank : FlagChecker := ⟨.empty, false, []⟩

/-- Hands in what is typed, unless a flag is being checked or the page has no tag. The second result
says whether it was handed in. -/
def submit (tag : Option String) (checker : FlagChecker) : FlagChecker × Bool :=
  if checker.pending then (checker, false)
  else
    match tag with
    | none => (checker, false)
    | some tag =>
        (⟨checker.form.begin, true, (tag, checker.form.input) :: checker.underway⟩, true)

def type (text : String) (checker : FlagChecker) : FlagChecker :=
  { checker with form := checker.form.step (.type text) }

def settle (turn : Nat) (outcome : Outcome) (checker : FlagChecker) : FlagChecker :=
  ⟨checker.form.finish outcome, false, checker.underway.eraseIdx turn⟩

end FlagChecker

end FlagBoard
