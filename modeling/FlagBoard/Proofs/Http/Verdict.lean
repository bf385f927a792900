import FlagBoard.Http.Client
import FlagBoard.Proofs.Text.Ends
import FlagBoard.Proofs.Text.Utf8
import Mathlib

/-!
What a client makes of a reply. An action is judged by the text of the reply as a page judges it,
and the status counts for nothing; a record or a file is taken with a status of success and with no
other, whatever came along.
-/

namespace FlagBoard.Http

inductive Action
  | submitFlag (tag flag : String)
  | resetChallenge (tag : String)
  | toggleChallenge (tag : String)
  | resetFrontend
  deriving DecidableEq, Repr

namespace Action

def route : Action → Route
  | .submitFlag _ _ => .verifyFlag
  | .resetChallenge _ => .resetChallenge
  | .toggleChallenge _ => .toggleChallenge
  | .resetFrontend => .resetFrontend

def body : Action → Json
  | .submitFlag tag flag => FlagRequest.toJson ⟨tag, Text.trimmed flag⟩
  | .resetChallenge tag => tagBody tag
  | .toggleChallenge tag => tagBody tag
  | .resetFrontend => emptyBody

/-- A flag has to hold more than blanks. -/
def Meant : Action → Prop
  | .submitFlag _ flag => ∃ c ∈ flag.toList, Text.isBlank c = false
  | _ => True

def ask (client : Client) (server : Server) : Action → Sent Verdict
  | .submitFlag tag flag => client.submitFlag server tag flag
  | .resetChallenge tag => client.resetChallenge server tag
  | .toggleChallenge tag => client.toggleChallenge server tag
  | .resetFrontend => client.resetFrontend server

end Action

def Response.ofText (status : Nat) (text : String) : Response :=
  ⟨status, text.toUTF8.data.toList⟩

def Succeeds (status : Nat) : Prop := 200 ≤ status ∧ status < 300

instance (status : Nat) : Decidable (Succeeds status) := inferInstanceAs (Decidable (_ ∧ _))

/-- A call fails by the status of a reply exactly if that is none of success. -/
def NeedsSuccess {Result : Type} (route : Route) (reply : Sent Response) (call : Sent Result) :
    Prop :=
  ∀ response, reply.result = .ok response →
    (¬ Succeeds response.status →
      call.result = .error (.status route.path response.status)) ∧
    (Succeeds response.status → ∀ path status, call.result ≠ .error (.status path status))

theorem text_of_text (status : Nat) (text : String) :
    (Response.ofText status text).text = text := by
  rw [Response.text, Response.ofText, Text.Utf8.decode_to_utf8, String.ofList_toList]

section Calls

variable (client : Client) (server : Server)

/-- Every action is one request, judged by one reader of verdicts. -/
theorem ask_eq_act (action : Action) (meant : action.Meant) :
    action.ask client server = client.act server action.route action.body := by
  cases action with
  | submitFlag tag flag =>
      have kept : Text.trimmed flag ≠ "" := by
        obtain ⟨c, member, marked⟩ := meant
        intro empty
        rw [(Text.trimmed_eq_empty_iff flag).mp empty c member] at marked
        cases marked
      have sent : FlagRequest.ofInput tag flag = .ok ⟨tag, Text.trimmed flag⟩ := if_neg kept
      rw [Action.ask, Client.submitFlag, sent]
      rfl
  | resetChallenge tag => rfl
  | toggleChallenge tag => rfl
  | resetFrontend => rfl

/-- A flag of blanks is refused before anything is sent. -/
theorem ask_unmeant (action : Action) (unmeant : ¬ action.Meant) :
    action.ask client server = .refused (.submit .blankFlag) := by
  cases action with
  | submitFlag tag flag =>
      have blank : Text.trimmed flag = "" := by
        rw [Text.trimmed_eq_empty_iff]
        simpa [Action.Meant] using unmeant
      have refused : FlagRequest.ofInput tag flag = .error .blankFlag := if_pos blank
      rw [Action.ask, Client.submitFlag, refused]
  | _ => exact absurd trivial unmeant

theorem ask_result (action : Action) (meant : action.Meant) (status : Nat) (text : String)
    (reached : (client.post server action.route action.body).result =
      .ok (Response.ofText status text)) :
    (action.ask client server).result =
      ((Reply.read text).mapError Failure.reply).map Reply.verdict := by
  rw [ask_eq_act client server action meant, Client.act, Sent.andThen, reached]
  change Client.readVerdict (Response.ofText status text) = _
  rw [Client.readVerdict, text_of_text]
  cases Reply.read text <;> rfl

theorem read_body_ne_status {Value : Type} (read : String → Except Json.ReadError Value)
    (response : Response) (path : String) (status : Nat) :
    Client.readBody read response ≠ .error (.status path status) := by
  unfold Client.readBody
  dsimp only
  cases read _ <;> simp [Except.mapError]

/-- Success is asked for first, and what is read after that fails for reasons of its own. -/
theorem needs_success {Result : Type} (route : Route) (reply : Sent Response)
    (next : Response → Except Failure Result)
    (own : ∀ response path status, next response ≠ .error (.status path status)) :
    NeedsSuccess route reply
      (reply.andThen fun response => (Client.requireSuccess route response).bind next) := by
  intro response reached
  have decided : response.isSuccess = decide (Succeeds response.status) :=
    (Bool.decide_and _ _).symm
  rw [Sent.andThen, reached]
  change (¬ _ → (Client.requireSuccess route response).bind next = _) ∧
    (_ → ∀ path status, (Client.requireSuccess route response).bind next ≠ _)
  rw [Client.requireSuccess, decided]
  constructor
  · intro fails
    rw [if_neg (by simpa using fails)]
    rfl
  · intro succeeds
    rw [if_pos (by simpa using succeeds)]
    exact own response

theorem fetch_needs_success {Value : Type} (route : Route)
    (read : String → Except Json.ReadError Value) :
    NeedsSuccess route (client.post server route emptyBody) (client.fetch server route read) :=
  needs_success route _ (Client.readBody read) (read_body_ne_status read)

theorem download_needs_success (id : String) :
    NeedsSuccess .vpnDownload (client.post server .vpnDownload (slotBody id))
      (client.vpnDownload server id) := by
  have own (response : Response) (path : String) (status : Nat) :
      (.ok response.text : Except Failure String) ≠ .error (.status path status) := nofun
  exact needs_success .vpnDownload _ (fun response => .ok response.text) own

end Calls

/-- Every action is judged by the text of its reply as a page judges it, mistakes in the text
included, and two replies of one text come to the same whatever their statuses. What asks for a
record or a file does the opposite: it fails by the status exactly if that is none of success,
whatever the bytes of the reply. -/
theorem verdict_is_of_the_text (client : Client) (server : Server) :
    (∀ (action : Action), action.Meant → ∀ (status : Nat) (text : String),
      (client.post server action.route action.body).result = .ok (Response.ofText status text) →
      (∀ verdict, (action.ask client server).result = .ok verdict ↔
        classifyReply text = .ok verdict) ∧
      (∀ message, (∃ error, (action.ask client server).result = .error (.reply error) ∧
          error.message = message) ↔
        classifyReply text = .error (.network ("unexpected reply: " ++ message))) ∧
      ∀ (other : Server) (otherStatus : Nat),
        (client.post other action.route action.body).result =
          .ok (Response.ofText otherStatus text) →
        (action.ask client other).result = (action.ask client server).result) ∧
    NeedsSuccess .vpnStatus (client.post server .vpnStatus emptyBody) (client.vpnStatus server) ∧
    NeedsSuccess .labInfo (client.post server .labInfo emptyBody) (client.labInfo server) ∧
    ∀ id, NeedsSuccess .vpnDownload (client.post server .vpnDownload (slotBody id))
      (client.vpnDownload server id) := by
  refine ⟨?_, fetch_needs_success client server _ _, fetch_needs_success client server _ _,
    download_needs_success client server⟩
  intro action meant status text reached
  have result := ask_result client server action meant status text reached
  refine ⟨?_, ?_, ?_⟩
  · intro verdict
    rw [result, classifyReply]
    cases Reply.read text <;> simp [Except.mapError, Except.map]
  · intro message
    rw [result, classifyReply]
    cases Reply.read text with
    | ok reply => simp [Except.mapError, Except.map]
    | error error => simp [Except.mapError, Except.map, String.append_right_inj]
  · intro other otherStatus otherReached
    rw [result, ask_result client other action meant otherStatus text otherReached]

/-- A server that refuses with one text, under two statuses. -/
theorem verdict_is_of_the_text_refused :
    let client : Client := ⟨"http://[::1]", none⟩
    let text := "\x7b\"error\":\"no\"\x7d"
    let refuses (status : Nat) : Server := fun _ => .ok (Response.ofText status text)
    let flag : Action := .submitFlag "pwn" " f "
    (flag.ask client (refuses 400)).result = .ok (.rejected "no") ∧
      (flag.ask client (refuses 200)).result = .ok (.rejected "no") ∧
      (client.vpnStatus (refuses 400)).result = .error (.status "/vpn/status" 400) := by
  have said : classifyReply "\x7b\"error\":\"no\"\x7d" = .ok (.rejected "no") := by rfl
  have verified (response : Response) : (Client.post ⟨"http://[::1]", none⟩ (fun _ => .ok response)
      .verifyFlag (FlagRequest.toJson ⟨"pwn", Text.trimmed " f "⟩)).result = .ok response := by rfl
  have shown (response : Response) : (Client.post ⟨"http://[::1]", none⟩ (fun _ => .ok response)
      .vpnStatus emptyBody).result = .ok response := by rfl
  intro client text refuses flag
  obtain ⟨actions, status, _⟩ := verdict_is_of_the_text client (refuses 400)
  obtain ⟨verdict, _, same⟩ := actions flag ⟨'f', by decide⟩ 400 text (verified _)
  have refused := (verdict (.rejected "no")).mpr said
  have again := same (refuses 200) 200 (verified _)
  exact ⟨refused, again.trans refused, (status _ (shown _)).1 (by decide)⟩

end FlagBoard.Http
