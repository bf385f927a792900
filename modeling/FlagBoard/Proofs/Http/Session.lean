import FlagBoard.Command.Run
import FlagBoard.Proofs.Feed.Watching
import Mathlib

/-!
The session that requests are made in. Its token goes along with every request and every handshake
just as it is, or it cannot stand in a header and nothing is asked for at all.
-/

namespace FlagBoard

namespace Watch

variable {State : Type} [View State] {url : String} {delay : Nat} {watch : Watch State}

omit [View State] in
theorem ledger_proceed
    (ledger : Connection.Ledger url delay watch.asked watch.connection) (signal : Signal) :
    let next := watch.proceed (watch.connection.step signal)
    Connection.Ledger url delay next.asked next.connection := by
  have next := Connection.ledger_step ledger signal
  simp only [proceed]
  cases answer : (watch.connection.step signal).2 with
  | some action => simpa only [answer, Option.toList_some] using next
  | none => simpa only [answer, Option.toList_none, List.append_nil] using next

theorem ledger_receive (once : Bool) (incoming : Incoming)
    (ledger : Connection.Ledger url delay watch.asked watch.connection) :
    let next := watch.receive once incoming
    Connection.Ledger url delay next.asked next.connection := by
  have halted := Connection.ledger_silent ledger .stop rfl
  rw [receive_eq_take]
  simp only [take]
  split
  · cases once with
    | true => exact halted
    | false => exact ledger
  · exact ledger

/-- Whatever a watch meets, it asks at its own address and nowhere else. -/
theorem ledger_event (once : Bool) (event : WatchEvent)
    (ledger : Connection.Ledger url delay watch.asked watch.connection) :
    let next := watch.step once event
    Connection.Ledger url delay next.asked next.connection := by
  simp only [step]
  split
  · exact ledger
  · cases event with
    | opened => exact Connection.ledger_silent ledger .opened (Connection.opened_silent _)
    | message incoming => exact ledger_receive once incoming ledger
    | closed => exact ledger_proceed ledger .closed
    | elapsed => exact ledger_proceed ledger .timer
    | stop => exact Connection.ledger_silent ledger .stop rfl

theorem ledger_events (once : Bool) (events : List WatchEvent)
    (ledger : Connection.Ledger url delay watch.asked watch.connection) :
    let last := events.foldl (step once) watch
    Connection.Ledger url delay last.asked last.connection := by
  induction events generalizing watch with
  | nil => exact ledger
  | cons event rest induction => exact induction (ledger_event once event ledger)

theorem asked_at_url (once : Bool) (events : List WatchEvent) (target : String)
    (asked : .connect target ∈ (run url delay once events : Watch State).asked) :
    target = url := by
  have started : Stands url delay once .connecting [] (start url delay : Watch State) :=
    stands_start
  have inTurn := (ledger_events once events started.ledger).inTurn
  obtain ⟨turn, found⟩ := List.getElem?_of_mem asked
  rw [run, inTurn] at found
  have due := Connection.getElem?_turns _ _ _ _ _ found
  split at due
  · exact Action.connect.inj due
  · cases due

end Watch

namespace Http

/-- A token that may stand in a header: it holds no control characters but tabs. -/
def Sendable (token : String) : Prop :=
  ∀ c ∈ token.toList, c = '\t' ∨ (32 ≤ c.toNat ∧ c.toNat ≠ 127)

theorem cookie_some (token : String) :
    (Sendable token → cookie? (some token) = some (some ("session=" ++ token))) ∧
      (¬ Sendable token → cookie? (some token) = none) := by
  have valid : isHeaderValue (sessionCookie token) = true ↔ Sendable token := by
    simp [isHeaderValue, sessionCookie, isHeaderChar, Sendable]
  rw [cookie?, ← valid]
  constructor
  · intro sendable
    rw [if_pos sendable]
    rfl
  · intro refused
    rw [if_neg refused]

/-- The cookie of a session that has nothing in its token to be refused. -/
theorem cookie_of_session (session : Option String)
    (sendable : ∀ token, session = some token → Sendable token) :
    cookie? session = some (session.map ("session=" ++ ·)) := by
  cases session with
  | none => rfl
  | some token => exact (cookie_some token).1 (sendable token rfl)

section Requests

variable (client : Client) (server : Server)

theorem post_requests (route : Route) (body : Json) (address : Address)
    (found : client.address route = .ok address) :
    (client.post server route body).requests = [⟨.post, address, client.cookie, some body⟩] := by
  rw [Client.post, found]

theorem post_requests_length (route : Route) (body : Json) :
    (client.post server route body).requests.length ≤ 1 := by
  cases found : client.address route with
  | error fault => simp [Client.post, found, Sent.refused]
  | ok address => simp [post_requests client server route body address found]

/-- A reply comes back from the address of a route, if it has one. -/
theorem post_ok_iff (route : Route) (body : Json) (response : Response) :
    (client.post server route body).result = .ok response ↔ ∃ address,
      client.address route = .ok address ∧
        server ⟨.post, address, client.cookie, some body⟩ = .ok response := by
  unfold Client.post
  cases client.address route with
  | error fault => simp [Sent.refused]
  | ok address =>
      cases answer : server ⟨.post, address, client.cookie, some body⟩ <;>
        simp [answer, Except.mapError]

theorem post_error {route : Route} {body : Json} {failure : Failure}
    (failed : (client.post server route body).result = .error failure) :
    ∃ fault, failure = .transport fault := by
  unfold Client.post at failed
  cases found : client.address route with
  | error fault =>
      rw [found] at failed
      exact ⟨fault, (Except.error.inj failed).symm⟩
  | ok address =>
      rw [found] at failed
      dsimp only at failed
      cases answer : server ⟨.post, address, client.cookie, some body⟩ with
      | error fault =>
          rw [answer] at failed
          exact ⟨fault, (Except.error.inj failed).symm⟩
      | ok response =>
          rw [answer] at failed
          cases failed

/-- Requests that are each one of a post. -/
def Posted (requests : List Request) : Prop :=
  ∀ request ∈ requests, ∃ route body, request ∈ (client.post server route body).requests

theorem posted_nil : Posted client server [] := nofun

theorem posted_post (route : Route) (body : Json) :
    Posted client server (client.post server route body).requests :=
  fun _ sent => ⟨route, body, sent⟩

theorem submit_flag_posted (tag flag : String) :
    Posted client server (client.submitFlag server tag flag).requests := by
  rw [Client.submitFlag]
  split
  · exact posted_post client server _ _
  · exact posted_nil client server

/-- A report lists the requests that were sent for it, whatever is said about the result. -/
theorem conclude_requests {Result : Type} (world : Command.World) (sent : Sent Result)
    (say : Result → Command.Report → Command.Report)
    (kept : ∀ result report, (say result report).requests = report.requests) :
    (Command.conclude world sent say).requests = sent.requests := by
  rw [Command.conclude]
  split
  · exact kept _ _
  · rfl

theorem say_verdict_requests (route : Route) (done : String) (verdict : Verdict)
    (report : Command.Report) :
    (Command.sayVerdict route done verdict report).requests = report.requests := by
  cases verdict <;> rfl

theorem save_config_requests (path content : String) (report : Command.Report) :
    (Command.saveConfig path content report).requests = report.requests := by
  rw [Command.saveConfig]
  split <;> rfl

/-- Whatever a command asks the platform for, its requests are those of posts. -/
theorem ask_posted (world : Command.World) (call : Call) :
    Posted client world.server (Command.ask world client call).requests := by
  have verdict (route : Route) (done : String) (sent : Sent Verdict)
      (posted : Posted client world.server sent.requests) :
      Posted client world.server
        (Command.conclude world sent (Command.sayVerdict route done)).requests := by
    rwa [conclude_requests world sent _ (say_verdict_requests route done)]
  cases call with
  | submit tag flag => exact verdict _ _ _ (submit_flag_posted client _ tag flag)
  | resetChallenge tag => exact verdict _ _ _ (posted_post client _ _ _)
  | toggleChallenge tag => exact verdict _ _ _ (posted_post client _ _ _)
  | resetFrontend => exact verdict _ _ _ (posted_post client _ _ _)
  | vpnStatus =>
      rw [Command.ask, conclude_requests world _ Command.saySlots fun _ _ => rfl]
      exact posted_post client _ _ _
  | vpnDownload id output =>
      rw [Command.ask]
      split
      · rw [conclude_requests world _ _ (save_config_requests _)]
        exact posted_post client _ _ _
      · exact posted_nil client _
  | labInfo =>
      rw [Command.ask, conclude_requests world _ Command.sayLab fun _ _ => rfl]
      exact posted_post client _ _ _

end Requests

/-- The only reason for which no client is built is a session that cannot be sent. -/
theorem new_error {base : String} {session : Option String} {failure : Failure}
    (unbuilt : Client.new base session = .error failure) :
    failure = .header ∧ ∃ token, session = some token ∧ ¬ Sendable token := by
  unfold Client.new at unbuilt
  split at unbuilt
  · cases unbuilt
  next refused =>
    refine ⟨(Except.error.inj unbuilt).symm, ?_⟩
    cases session with
    | none => cases refused
    | some token =>
        refine ⟨token, rfl, fun sendable => ?_⟩
        rw [(cookie_some token).1 sendable] at refused
        cases refused

section Refusals

variable {session : Option String} (refused : cookie? session = none)

include refused

theorem new_of_refused (base : String) : Client.new base session = .error .header := by
  rw [Client.new, refused]

end Refusals

theorem watch_of_handshake (State : Type) [View State] {url : String} {session : Option String}
    {handshake : Handshake} (made : Handshake.ofUrl url session = .ok handshake) (delay : Nat)
    (once : Bool) (events : List WatchEvent) :
    Watch.ofUrl url session delay once events =
      .ok (Watch.run url delay once events : Watch State) := by
  rw [Watch.ofUrl, made]

end Http

end FlagBoard
