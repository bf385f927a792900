import FlagBoard.Proofs.Feed.Authority
import FlagBoard.Proofs.Feed.FirstChange
import FlagBoard.Proofs.Http.Session
import Mathlib

/-!
When a watch fails. It fails before its first connection or not at all: a request cannot have the
authority of the page, or the session cannot be sent. Whatever happens to the connections of a watch
that has started, it goes on with one more.
-/

namespace FlagBoard

open SocketAddress (Addressed)

/-- What keeps the feed of a page from being asked for. -/
inductive Prevents (secure : Bool) (authority : List Char) (endpoint : Endpoint)
    (session : Option String) : Failure → Prop
  | handshake (unaddressed : ¬ Addressed secure authority endpoint) :
      Prevents secure authority endpoint session .handshake
  | header (token : String) (addressed : Addressed secure authority endpoint)
      (given : session = some token) (refused : ¬ Http.Sendable token) :
      Prevents secure authority endpoint session .header

section Pages

variable {page : String} {secure : Bool} {authority tail : List Char}
  (parts : PageParts page secure authority tail) (endpoint : Endpoint) (session : Option String)

include parts

theorem handshake_of_unaddressed (unaddressed : ¬ Addressed secure authority endpoint) :
    Handshake.ofUrl (feedUrl secure authority endpoint) session = .error .handshake := by
  rw [Handshake.ofUrl]
  split
  · rfl
  next address read =>
    have fits := (SocketAddress.read_feed_iff endpoint parts.named parts.inside address).mp read
    exact absurd fits.1 unaddressed

/-- The request for the feed of a page whose authority fits, if the session can be sent. -/
theorem handshake_of_addressed (addressed : Addressed secure authority endpoint) :
    Handshake.ofUrl (feedUrl secure authority endpoint) session =
      (Http.cookie? session).elim (.error .header) fun cookie => .ok ⟨endpoint.path, none,
        String.ofList (SocketAddress.host ⟨authority, endpoint.path.toList, none⟩), cookie⟩ := by
  have read := (SocketAddress.read_feed_iff endpoint parts.named parts.inside _).mpr
    ⟨addressed, rfl⟩
  rw [Handshake.ofUrl, read]
  cases Http.cookie? session with
  | none => rfl
  | some cookie => simp

theorem handshake_error_iff (failure : Failure) :
    Handshake.ofUrl (feedUrl secure authority endpoint) session = .error failure ↔
      Prevents secure authority endpoint session failure := by
  by_cases addressed : Addressed secure authority endpoint
  · rw [handshake_of_addressed parts endpoint session addressed]
    constructor
    · intro failed
      cases taken : Http.cookie? session with
      | some cookie =>
          rw [taken] at failed
          cases failed
      | none =>
          rw [taken] at failed
          cases failed
          cases session with
          | none => cases taken
          | some token =>
              refine .header token addressed rfl fun sendable => ?_
              rw [(Http.cookie_some token).1 sendable] at taken
              cases taken
    · intro prevents
      cases prevents with
      | handshake unaddressed => exact absurd addressed unaddressed
      | header token _ given refused =>
          rw [given, (Http.cookie_some token).2 refused]
          rfl
  · rw [handshake_of_unaddressed parts endpoint session addressed]
    constructor
    · intro failed
      cases failed
      exact .handshake addressed
    · intro prevents
      cases prevents with
      | handshake => rfl
      | header _ fits => exact absurd fits addressed

end Pages

namespace Watch

section Runs

variable {State : Type} [View State] {url : String} {session : Option String} {delay : Nat}
  {once : Bool}

theorem watch_error_iff (events : List WatchEvent) (failure : Failure) :
    (ofUrl url session delay once events : Except Failure (Watch State)) = .error failure ↔
      Handshake.ofUrl url session = .error failure := by
  rw [ofUrl]
  cases Handshake.ofUrl url session <;> simp

theorem follow_failure [Render State] (world : Command.World) (arguments : Arguments)
    (endpoint : Endpoint) (accepted : streamUrl arguments.baseUrl endpoint = .ok url)
    (failure : Failure) :
    (Command.follow State world arguments endpoint once).failure = some failure ↔
      Handshake.ofUrl url arguments.session = .error failure := by
  simp only [Command.follow, accepted, ofUrl]
  cases Handshake.ofUrl url arguments.session <;> simp [Command.refused, Command.silent]

/-- Over any number of connections, each of which fails or ends in one way or another, a watch that
was let start goes on: it has asked for one more connection after each, and only a change that is
enough ends it. -/
theorem run_goes_on (links : List Link) (met : List WatchEvent)
    (reached : met <+: links.flatMap Link.events) :
    let watch : Watch State := run url delay once met
    (watch.finished = true → once = true ∧ watch.shown ≠ []) ∧
      (watch.finished = false → watch.asked = Connection.turns url delay (asking met + 1)) := by
  intro watch
  obtain ⟨phase, path⟩ := Path.of_prefix links reached
  have stands : Stands url delay once phase met watch := stands_run path
  constructor
  · intro finished
    have ended := stands.finished
    rw [finished] at ended
    obtain ⟨enough, more⟩ : once = true ∧ changes (View.start : State) (received met) ≠ [] := by
      simpa using ended
    refine ⟨enough, ?_⟩
    rw [stands.shown, enough, handedOn, if_pos rfl]
    simpa using more
  · intro running
    have asked := stands.ledger.inTurn
    rwa [stands.turns running, Nat.add_comm] at asked

end Runs

/-- A watch fails before it starts or not at all. It fails for the authority of its page or for its
session, whatever it would have met, and the command that watches fails just then. Otherwise it goes
on for as long as its connections fail or end: it has asked for one more after each, all at an
address that a request can be made for, and only a first change that is enough ends it. -/
theorem watch_fails_before_it_starts (page url : String) (endpoint : Endpoint)
    (accepted : streamUrl page endpoint = .ok url) (session : Option String) :
    ∃ secure authority tail, PageParts page secure authority tail ∧
      url = feedUrl secure authority endpoint ∧
      ∀ (State : Type) [View State] (delay : Nat) (once : Bool),
        (∀ (events : List WatchEvent) (failure : Failure),
          (ofUrl url session delay once events : Except Failure (Watch State)) = .error failure ↔
            Prevents secure authority endpoint session failure) ∧
        (∀ [Render State] (world : Command.World) (arguments : Arguments),
          arguments.baseUrl = page → arguments.session = session → ∀ failure,
            (Command.follow State world arguments endpoint once).failure = some failure ↔
              Prevents secure authority endpoint session failure) ∧
        (Addressed secure authority endpoint →
          (∀ token, session = some token → Http.Sendable token) →
          ∀ (links : List Link) (met : List WatchEvent), met <+: links.flatMap Link.events →
            ∃ watch : Watch State, ofUrl url session delay once met = .ok watch ∧
              (watch.finished = true → once = true ∧ watch.shown ≠ []) ∧
              (watch.finished = false →
                watch.asked = Connection.turns url delay (asking met + 1)) ∧
              ∀ target, .connect target ∈ watch.asked →
                ∃ handshake, Handshake.ofUrl target session = .ok handshake) := by
  obtain ⟨secure, authority, tail, parts, rfl⟩ := (stream_url_iff page url endpoint).mp accepted
  refine ⟨secure, authority, tail, parts, rfl, fun State view delay once => ⟨?_, ?_, ?_⟩⟩
  · intro events failure
    rw [watch_error_iff, handshake_error_iff parts]
  · rintro render world arguments rfl rfl failure
    rw [follow_failure world arguments endpoint accepted, handshake_error_iff parts]
  · intro addressed sendable links met reached
    have made := handshake_of_addressed parts endpoint session addressed
    rw [Http.cookie_of_session session sendable] at made
    let watch : Watch State := run (feedUrl secure authority endpoint) delay once met
    obtain ⟨finished, asked⟩ : (watch.finished = true → once = true ∧ watch.shown ≠ []) ∧
        (watch.finished = false → watch.asked = Connection.turns _ delay (asking met + 1)) :=
      run_goes_on links met reached
    refine ⟨watch, Http.watch_of_handshake State made delay once met, finished, asked, ?_⟩
    intro target connects
    rw [asked_at_url once met target connects]
    exact ⟨_, made⟩

/-- A page at a number address: the first connection fails, and the second ends at once. -/
theorem watch_fails_before_it_starts_reconnected :
    streamUrl "http://[::1]:80/x?y#z" .scores = .ok "ws://[::1]:80/scores" ∧
      ∃ watch : Watch Scoreboard, ofUrl "ws://[::1]:80/scores" (some "abc") 5 false
          [.closed, .elapsed, .opened, .closed] = .ok watch ∧
        watch.asked = [.connect "ws://[::1]:80/scores", .wait "ws://[::1]:80/scores" 5,
          .connect "ws://[::1]:80/scores", .wait "ws://[::1]:80/scores" 5] := by
  have accepted : streamUrl "http://[::1]:80/x?y#z" .scores = .ok "ws://[::1]:80/scores" := by rfl
  obtain ⟨secure, authority, tail, parts, _, watches⟩ :=
    watch_fails_before_it_starts _ _ _ accepted (some "abc")
  have known : PageParts "http://[::1]:80/x?y#z" false "[::1]:80".toList "/x?y#z".toList :=
    ⟨by rfl, by decide, by simp [endsAuthority], by simp [endsAuthority]⟩
  obtain ⟨rfl, rfl, rfl⟩ := parts.unique known
  have addressed : Addressed false "[::1]:80".toList .scores :=
    ⟨(SocketAddress.is_authority_iff _).mp (by decide), by decide⟩
  obtain ⟨_, _, goesOn⟩ := watches Scoreboard 5 false
  obtain ⟨watch, started, finished, asked, _⟩ := goesOn addressed
    (by rintro token ⟨⟩; simp [Http.Sendable]) [.failed, .opened []]
    [.closed, .elapsed, .opened, .closed] ⟨[.elapsed], rfl⟩
  refine ⟨accepted, watch, started, ?_⟩
  cases running : watch.finished with
  | true => cases (finished running).1
  | false => exact asked running

/-- A page with a letter beyond ASCII in its host has a feed that cannot be asked for. -/
theorem watch_refused_beyond_ascii :
    streamUrl "http://bücher.example/" .scores = .ok "ws://bücher.example/scores" ∧
      Http.Sendable "abc" ∧ ∀ (delay : Nat) (once : Bool) (events : List WatchEvent),
        (ofUrl "ws://bücher.example/scores" (some "abc") delay once events :
          Except Failure (Watch Scoreboard)) = .error .handshake := by
  refine ⟨by rfl, by simp [Http.Sendable], fun delay once events => ?_⟩
  have unread : SocketAddress.read? "ws://bücher.example/scores".toList = none := by rfl
  rw [ofUrl, Handshake.ofUrl, unread]

end Watch

end FlagBoard
