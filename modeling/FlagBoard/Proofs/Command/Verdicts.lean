import FlagBoard.Command.Run
import FlagBoard.Proofs.Http.Session
import FlagBoard.Proofs.Http.Verdict
import Mathlib

/-!
What a command says of an action. All it goes by is the verdict in the reply: only one that accepts
is told as done, one that refuses is a failure with the server's own words, and without a verdict
nothing is claimed at all.
-/

namespace FlagBoard

namespace Http

namespace Action

def call : Action → Call
  | .submitFlag tag flag => .submit tag flag
  | .resetChallenge tag => .resetChallenge tag
  | .toggleChallenge tag => .toggleChallenge tag
  | .resetFrontend => .resetFrontend

def done : Action → String
  | .submitFlag _ _ => "Correct flag, well done!"
  | .resetChallenge _ => "challenge reset"
  | .toggleChallenge _ => "challenge started/stopped"
  | .resetFrontend => "frontend reset"

end Action

end Http

namespace Command

section Verdicts

variable (server : Http.Server) (base : String) (session : Option String) (action : Http.Action)

/-- The platform is asked for an action, and this is its reply. -/
structure Replies (response : Http.Response) : Prop where
  meant : action.Meant
  answered : ∃ client address, Http.Client.new base session = .ok client ∧
    client.address action.route = .ok address ∧
    server ⟨.post, address, client.cookie, some action.body⟩ = .ok response

/-- The verdict on an action, by the text of the reply. -/
def Judged (verdict : Verdict) : Prop :=
  ∃ response, Replies server base session action response ∧
    classifyReply response.text = .ok verdict

/-- Why there is no verdict on an action. -/
inductive Unjudged : Failure → Prop
  | header (token : String) : session = some token → ¬ Http.Sendable token → Unjudged .header
  | blank : ¬ action.Meant → Unjudged (.submit .blankFlag)
  | transport (fault : TransportFault) :
      (∀ response, ¬ Replies server base session action response) → Unjudged (.transport fault)
  | unreadable (response : Http.Response) (error : Json.ReadError) :
      Replies server base session action response → Reply.read response.text = .error error →
      Unjudged (.reply error)

/-- A report on an action tells the verdict and nothing else. -/
structure Tells (report : Report) : Prop where
  once : report.requests.length ≤ 1
  accepted : report.output = line action.done ↔ Judged server base session action .accepted
  rejected : ∀ path message, report.failure = some (.rejected path message) ↔
    path = action.route.path ∧ Judged server base session action (.rejected message)
  ignored : exitCode report = 0 ∧ report.output = "" ↔ Judged server base session action .ignored
  silent : ¬ Judged server base session action .accepted → report.output = ""
  succeeds : exitCode report = 0 ↔ Judged server base session action .accepted ∨
    Judged server base session action .ignored
  otherwise : (∀ verdict, ¬ Judged server base session action verdict) →
    exitCode report = 1 ∧ report.output = "" ∧
      ∃ failure, report.failure = some failure ∧ Unjudged server base session action failure
  unasked : ¬ action.Meant ∨ (∃ token, session = some token ∧ ¬ Http.Sendable token) →
    report.requests = []

def sent : Http.Sent Verdict :=
  match Http.Client.new base session with
  | .ok client => action.ask client server
  | .error failure => .refused failure

theorem run_action (events : List WatchEvent) (disk : Disk) (delay : Nat) :
    run ⟨server, events, disk⟩ ⟨base, session, delay, .call action.call⟩ =
      conclude ⟨server, events, disk⟩ (sent server base session action)
        (sayVerdict action.route action.done) := by
  unfold run sent
  dsimp only
  cases Http.Client.new base session with
  | error failure => rfl
  | ok client => cases action <;> rfl

variable {server base session action}

theorem sent_of_built {client : Http.Client} (built : Http.Client.new base session = .ok client) :
    sent server base session action = action.ask client server := by
  rw [sent, built]

theorem replies_iff {client : Http.Client} (built : Http.Client.new base session = .ok client)
    (meant : action.Meant) (response : Http.Response) :
    Replies server base session action response ↔
      (client.post server action.route action.body).result = .ok response := by
  rw [Http.post_ok_iff]
  constructor
  · intro replies
    obtain ⟨other, address, again, found, answer⟩ := replies.answered
    obtain rfl := Except.ok.inj (again.symm.trans built)
    exact ⟨address, found, answer⟩
  · rintro ⟨address, found, answer⟩
    exact ⟨meant, client, address, built, found, answer⟩

/-- A verdict on a reply is one on the text of it. -/
theorem read_verdict_iff (response : Http.Response) (verdict : Verdict) :
    Http.Client.readVerdict response = .ok verdict ↔
      classifyReply response.text = .ok verdict := by
  unfold Http.Client.readVerdict classifyReply
  cases Reply.read response.text <;> simp

theorem sent_ok_iff (verdict : Verdict) :
    (sent server base session action).result = .ok verdict ↔
      Judged server base session action verdict := by
  cases built : Http.Client.new base session with
  | error failure =>
      rw [sent, built]
      constructor
      · intro read
        cases read
      -- A reply presupposes a client that could be built.
      · rintro ⟨response, replies, _⟩
        obtain ⟨client, _, other, _⟩ := replies.answered
        rw [built] at other
        cases other
  | ok client =>
      rw [sent_of_built built]
      by_cases meant : action.Meant
      · rw [Http.ask_eq_act client server action meant, Http.Client.act, Http.Sent.andThen, Judged]
        simp only [replies_iff built meant, ← read_verdict_iff]
        cases (client.post server action.route action.body).result <;> simp [Except.bind]
      · rw [Http.ask_unmeant client server action meant]
        constructor
        · intro read
          cases read
        · rintro ⟨response, replies, _⟩
          exact absurd replies.meant meant

theorem sent_error {failure : Failure}
    (failed : (sent server base session action).result = .error failure) :
    Unjudged server base session action failure := by
  cases built : Http.Client.new base session with
  | error other =>
      rw [sent, built] at failed
      obtain rfl := Except.error.inj failed
      obtain ⟨rfl, token, given, refused⟩ := Http.new_error built
      exact .header token given refused
  | ok client =>
      rw [sent_of_built built] at failed
      by_cases meant : action.Meant
      · rw [Http.ask_eq_act client server action meant, Http.Client.act, Http.Sent.andThen] at failed
        cases posted : (client.post server action.route action.body).result with
        | error other =>
            rw [posted] at failed
            obtain rfl := Except.error.inj failed
            obtain ⟨fault, rfl⟩ := Http.post_error client server posted
            refine .transport fault fun response replies => ?_
            rw [replies_iff built meant, posted] at replies
            cases replies
        | ok response =>
            rw [posted] at failed
            replace failed : Http.Client.readVerdict response = .error failure := failed
            unfold Http.Client.readVerdict at failed
            split at failed
            · cases failed
            next error read =>
              obtain rfl := Except.error.inj failed
              exact .unreadable response error ((replies_iff built meant response).mpr posted) read
      · rw [Http.ask_unmeant client server action meant] at failed
        obtain rfl := Except.error.inj failed
        exact .blank meant

theorem sent_few : (sent server base session action).requests.length ≤ 1 := by
  unfold sent
  split
  next client built =>
    by_cases meant : action.Meant
    · rw [Http.ask_eq_act client server action meant]
      exact Http.post_requests_length client server _ _
    · rw [Http.ask_unmeant client server action meant]
      exact Nat.zero_le 1
  · exact Nat.zero_le 1

theorem sent_unasked
    (refused : ¬ action.Meant ∨ ∃ token, session = some token ∧ ¬ Http.Sendable token) :
    (sent server base session action).requests = [] := by
  unfold sent
  split
  next client built =>
    rcases refused with unmeant | ⟨token, rfl, unsendable⟩
    · rw [Http.ask_unmeant client server action unmeant]
      rfl
    · rw [Http.new_of_refused ((Http.cookie_some token).2 unsendable)] at built
      cases built
  · rfl

end Verdicts

section Reports

variable (world : World) (sent : Http.Sent Verdict) (route : Route) (done : String)

theorem line_ne_empty : line done ≠ "" := by
  intro empty
  have length := congrArg String.length empty
  simp [line] at length

theorem output_iff : (conclude world sent (sayVerdict route done)).output = line done ↔
    sent.result = .ok .accepted := by
  unfold conclude
  cases sent.result with
  | error failure => simp [silent, (line_ne_empty done).symm]
  | ok verdict => cases verdict <;> simp [silent, sayVerdict, (line_ne_empty done).symm]

theorem output_empty (other : sent.result ≠ .ok .accepted) :
    (conclude world sent (sayVerdict route done)).output = "" := by
  unfold conclude
  cases result : sent.result with
  | error failure => rfl
  | ok verdict =>
      cases verdict with
      | accepted => exact absurd result other
      | rejected message => rfl
      | ignored => rfl

theorem failure_iff (failure : Failure) :
    (conclude world sent (sayVerdict route done)).failure = some failure ↔
      sent.result = .error failure ∨
        ∃ message, sent.result = .ok (.rejected message) ∧
          failure = .rejected route.path message := by
  unfold conclude
  cases sent.result with
  | error other => simp
  | ok verdict => cases verdict <;> simp [silent, sayVerdict, eq_comm]

theorem exit_code_iff : exitCode (conclude world sent (sayVerdict route done)) = 0 ↔
    sent.result = .ok .accepted ∨ sent.result = .ok .ignored := by
  unfold exitCode conclude
  cases sent.result with
  | error failure => simp [silent]
  | ok verdict => cases verdict <;> simp [silent, sayVerdict]

theorem silent_success_iff : exitCode (conclude world sent (sayVerdict route done)) = 0 ∧
    (conclude world sent (sayVerdict route done)).output = "" ↔ sent.result = .ok .ignored := by
  rw [exit_code_iff]
  constructor
  · rintro ⟨accepted | ignored, empty⟩
    · rw [(output_iff world sent route done).mpr accepted] at empty
      exact absurd empty (line_ne_empty done)
    · exact ignored
  · intro ignored
    refine ⟨.inr ignored, output_empty world sent route done ?_⟩
    rw [ignored]
    decide

theorem exit_code_of_failure {report : Report} {failure : Failure}
    (failed : report.failure = some failure) (whole : report.broken = false) :
    exitCode report = 1 := by
  simp [exitCode, failed, whole]

theorem conclude_whole : (conclude world sent (sayVerdict route done)).broken = false := by
  unfold conclude
  cases sent.result with
  | error failure => rfl
  | ok verdict => cases verdict <;> rfl

end Reports

/-- A command that asks for an action claims what the server says and nothing more. It tells the
action as done exactly if the reply accepts it, fails with the words of the server exactly if the
reply refuses it, and ends in silence exactly if the reply gives no verdict. Without a reply that can
be read it fails and says nothing; a blank flag or a session that cannot be sent asks nothing
either. -/
theorem told_as_judged (world : World) (base : String) (session : Option String) (delay : Nat)
    (action : Http.Action) :
    Tells world.server base session action
      (run world ⟨base, session, delay, .call action.call⟩) := by
  obtain ⟨server, events, disk⟩ := world
  have judged (verdict : Verdict) : Judged server base session action verdict ↔
      (sent server base session action).result = .ok verdict := (sent_ok_iff verdict).symm
  have requests := Http.conclude_requests ⟨server, events, disk⟩ (sent server base session action)
    _ (Http.say_verdict_requests action.route action.done)
  rw [run_action]
  constructor
  · rw [requests]
    exact sent_few
  · rw [output_iff, judged]
  · intro path message
    rw [failure_iff, judged]
    constructor
    · rintro (failed | ⟨other, refused, same⟩)
      -- No reason for the lack of a verdict is a rejection.
      · cases sent_error failed
      · obtain ⟨rfl, rfl⟩ := Failure.rejected.inj same
        exact ⟨rfl, refused⟩
    · rintro ⟨rfl, refused⟩
      exact .inr ⟨message, refused, rfl⟩
  · rw [silent_success_iff, judged]
  · intro other
    rw [judged] at other
    exact output_empty _ _ _ _ other
  · rw [exit_code_iff, judged, judged]
  · intro none
    simp only [judged] at none
    cases result : (sent server base session action).result with
    | ok verdict => exact absurd result (none verdict)
    | error failure =>
        have failed := (failure_iff ⟨server, events, disk⟩ (sent server base session action)
          action.route action.done failure).mpr (.inl result)
        have broken := conclude_whole ⟨server, events, disk⟩ (sent server base session action)
          action.route action.done
        exact ⟨exit_code_of_failure failed broken, output_empty _ _ _ _ (none .accepted), failure,
          failed, sent_error result⟩
  · intro refused
    rw [requests]
    exact sent_unasked refused

/-- A flag that is refused with a status of success, and a reset of which the reply is no verdict at
all. -/
theorem told_as_judged_refused :
    let replies (text : String) : World :=
      ⟨fun _ => .ok (Http.Response.ofText 200 text), [], .blank⟩
    let refused := run (replies "\x7b\"error\":\"no\"\x7d")
      ⟨"http://[::1]", none, 0, .call (.submit "pwn" " f ")⟩
    let unread := run (replies "ok") ⟨"http://[::1]", none, 0, .call .resetFrontend⟩
    refused.failure = some (.rejected "/flags/verify" "no") ∧ refused.output = "" ∧
      exitCode unread = 1 ∧ unread.output = "" := by
  have addressed (route : Route) : ∃ address,
      (Http.Client.mk "http://[::1]" none).address route = .ok address := by
    cases route <;> exact ⟨_, by cbv⟩
  have answers (text : String) (action : Http.Action) (meant : action.Meant) :
      Replies (fun _ => .ok (Http.Response.ofText 200 text)) "http://[::1]" none action
        (Http.Response.ofText 200 text) := by
    obtain ⟨address, found⟩ := addressed action.route
    exact ⟨meant, _, address, by rfl, found, rfl⟩
  intro replies refused unread
  have toldRefused := told_as_judged (replies "\x7b\"error\":\"no\"\x7d") "http://[::1]" none 0
    (.submitFlag "pwn" " f ")
  have toldUnread := told_as_judged (replies "ok") "http://[::1]" none 0 .resetFrontend
  have judged : Judged (replies "\x7b\"error\":\"no\"\x7d").server "http://[::1]" none
      (.submitFlag "pwn" " f ") (.rejected "no") := by
    refine ⟨_, answers _ (.submitFlag "pwn" " f ") ⟨'f', by decide⟩, ?_⟩
    rw [Http.text_of_text]
    rfl
  have failed := (toldRefused.rejected "/flags/verify" "no").mpr ⟨rfl, judged⟩
  have unjudged : ∀ verdict, ¬ Judged (replies "ok").server "http://[::1]" none .resetFrontend
      verdict := by
    rintro verdict ⟨response, answered, read⟩
    obtain ⟨client, address, _, _, same⟩ := answered.answered
    obtain rfl := Except.ok.inj same
    rw [Http.text_of_text] at read
    cases read
  have unaccepted : ¬ Judged (replies "\x7b\"error\":\"no\"\x7d").server "http://[::1]" none
      (.submitFlag "pwn" " f ") .accepted := by
    intro accepted
    have success := toldRefused.succeeds.mpr (.inl accepted)
    rw [exit_code_of_failure failed rfl] at success
    cases success
  obtain ⟨code, nothing, _⟩ := toldUnread.otherwise unjudged
  exact ⟨failed, toldRefused.silent unaccepted, code, nothing⟩

end Command

end FlagBoard
