import FlagBoard.Feed.Connection
import Mathlib

/-!
What a connection asks of its transport over any run of signals. It asks for connections and waits
in turn, so no signal that comes twice, late or out of place leads to a second connection or a
second timer; and it asks for nothing once it is stopped.
-/

namespace FlagBoard

def Action.isConnect : Action → Bool
  | .connect _ => true
  | .wait _ _ => false

namespace Connection

theorem opened_silent (connection : Connection) : (connection.step .opened).2 = none := by
  simp only [step]
  split <;> rfl

/-- The first things asked for at an address: to connect, to wait, and so on in turn. -/
def turns (url : String) (delay count : Nat) : List Action :=
  (List.range count).map fun turn => if turn % 2 = 0 then .connect url else .wait url delay

def asked (url : String) (delay : Nat) (signals : List Signal) : List Action :=
  ((new url delay).run signals).2.reduceOption

theorem turns_succ (url : String) (delay count : Nat) :
    turns url delay (count + 1) =
      turns url delay count ++ [if count % 2 = 0 then .connect url else .wait url delay] := by
  simp [turns, List.range_succ]

theorem getElem?_turns (url : String) (delay count turn : Nat) (action : Action)
    (found : (turns url delay count)[turn]? = some action) :
    action = if turn % 2 = 0 then .connect url else .wait url delay := by
  simp only [turns, List.getElem?_map, Option.map_eq_some_iff] at found
  obtain ⟨position, inRange, same⟩ := found
  obtain ⟨_, samePosition⟩ := List.getElem?_eq_some_iff.mp inRange
  rw [List.getElem_range] at samePosition
  rw [samePosition, ← same]

/-- Between two connections that follow each other stands exactly one wait. -/
theorem turns_between_connects (url first second : String) (delay count : Nat)
    (before middle after : List Action)
    (split : turns url delay count =
      before ++ .connect first :: (middle ++ .connect second :: after))
    (consecutive : ∀ action ∈ middle, action.isConnect = false) :
    middle = [.wait url delay] := by
  have place (offset : Nat) (action : Action)
      (found : (.connect first :: (middle ++ .connect second :: after))[offset]? = some action) :
      action = if (before.length + offset) % 2 = 0 then .connect url else .wait url delay := by
    apply getElem?_turns url delay count (before.length + offset)
    rw [split, List.getElem?_append_right (by omega)]
    simpa using found
  have even : before.length % 2 = 0 := by
    have head := place 0 (.connect first) rfl
    by_contra odd
    simp [odd] at head
  cases middle with
  | nil =>
      have next := place 1 (.connect second) rfl
      have odd : ¬ (before.length + 1) % 2 = 0 := by omega
      simp [odd] at next
  | cons wait rest =>
      have next := place 1 wait rfl
      have odd : ¬ (before.length + 1) % 2 = 0 := by omega
      rw [if_neg odd] at next
      cases rest with
      | nil => rw [next]
      | cons extra rest =>
          have third := place 2 extra rfl
          have evenAgain : (before.length + 2) % 2 = 0 := by omega
          rw [if_pos evenAgain] at third
          have notConnect := consecutive extra (by simp)
          rw [third] at notConnect
          cases notConnect

/-- How many things a phase says have been asked for: the last was to connect where a connection is
being made or is up, and to wait in the delay. -/
def Fits : Phase → Nat → Prop
  | .disconnected, count => count = 0
  | .connecting, count => count % 2 = 1
  | .connected, count => count % 2 = 1
  | .waiting, count => count % 2 = 0
  | .stopped, _ => True

/-- Ties a connection to all that it has asked for since it was new. -/
structure Ledger (url : String) (delay : Nat) (asked : List Action) (connection : Connection) :
    Prop where
  sameUrl : connection.url = url
  sameDelay : connection.delay = delay
  inTurn : asked = turns url delay asked.length
  fits : Fits connection.phase asked.length
  attempts : connection.attempts = min (asked.countP Action.isConnect) mostAttempts

theorem ledger_new (url : String) (delay : Nat) : Ledger url delay [] (new url delay) :=
  ⟨rfl, rfl, rfl, rfl, rfl⟩

section Preservation

variable {url : String} {delay : Nat} {asked : List Action} {connection : Connection}

theorem ledger_rephase (ledger : Ledger url delay asked connection) (phase : Phase)
    (fits : Fits phase asked.length) :
    Ledger url delay (asked ++ []) { connection with phase } := by
  rw [List.append_nil]
  exact ⟨ledger.sameUrl, ledger.sameDelay, ledger.inTurn, fits, ledger.attempts⟩

theorem ledger_connect (ledger : Ledger url delay asked connection)
    (even : asked.length % 2 = 0) :
    Ledger url delay (asked ++ connection.connect.2.toList) connection.connect.1 := by
  have inTurn := turns_succ url delay asked.length
  rw [if_pos even, ← ledger.inTurn] at inTurn
  refine ⟨ledger.sameUrl, ledger.sameDelay, ?_, ?_, ?_⟩
  · simp [connect, ledger.sameUrl, inTurn]
  · simp only [connect, Option.toList_some, List.length_append, List.length_singleton, Fits]
    omega
  · simp only [connect, Option.toList_some, List.countP_append, ledger.attempts]
    simp only [List.countP_singleton, Action.isConnect, if_true]
    omega

theorem ledger_wait (ledger : Ledger url delay asked connection)
    (odd : asked.length % 2 = 1) :
    Ledger url delay (asked ++ [.wait connection.url connection.delay])
      { connection with phase := .waiting } := by
  have inTurn := turns_succ url delay asked.length
  rw [if_neg (by omega), ← ledger.inTurn] at inTurn
  refine ⟨ledger.sameUrl, ledger.sameDelay, ?_, ?_, ?_⟩
  · simp [ledger.sameUrl, ledger.sameDelay, inTurn]
  · simp only [List.length_append, List.length_singleton, Fits]
    omega
  · simp [Action.isConnect, ledger.attempts]

/-- One signal keeps the ledger: what is asked for next is what the phase is due. -/
theorem ledger_step (ledger : Ledger url delay asked connection) (signal : Signal) :
    Ledger url delay (asked ++ (connection.step signal).2.toList) (connection.step signal).1 := by
  have fits := ledger.fits
  have same : Ledger url delay (asked ++ []) connection := ledger_rephase ledger _ fits
  cases signal with
  | start =>
      cases phase : connection.phase <;> simp only [step, phase, Option.toList_none]
      case disconnected =>
        simp only [phase, Fits] at fits
        exact ledger_connect ledger (by omega)
      all_goals exact same
  | opened =>
      cases phase : connection.phase <;> simp only [step, phase, Option.toList_none]
      case connecting =>
        simp only [phase, Fits] at fits
        exact ledger_rephase ledger .connected fits
      all_goals exact same
  | closed =>
      cases phase : connection.phase <;> simp only [step, phase, Option.toList_none]
      case connecting =>
        simp only [phase, Fits] at fits
        exact ledger_wait ledger fits
      case connected =>
        simp only [phase, Fits] at fits
        exact ledger_wait ledger fits
      all_goals exact same
  | timer =>
      cases phase : connection.phase <;> simp only [step, phase, Option.toList_none]
      case waiting =>
        simp only [phase, Fits] at fits
        exact ledger_connect ledger fits
      all_goals exact same
  | stop => exact ledger_rephase ledger .stopped trivial

/-- A signal that is not answered adds nothing to what was asked for. -/
theorem ledger_silent (ledger : Ledger url delay asked connection) (signal : Signal)
    (silent : (connection.step signal).2 = none) :
    Ledger url delay asked (connection.step signal).1 := by
  have next := ledger_step ledger signal
  rwa [silent, Option.toList_none, List.append_nil] at next

theorem ledger_run (signals : List Signal) (ledger : Ledger url delay asked connection) :
    Ledger url delay (asked ++ (connection.run signals).2.reduceOption)
      (connection.run signals).1 := by
  induction signals generalizing asked connection with
  | nil => simpa [run] using ledger
  | cons signal rest induction =>
      have later := induction (ledger_step ledger signal)
      simp only [run]
      cases action : (connection.step signal).2 with
      | none => simpa [action, List.reduceOption_cons_of_none] using later
      | some action => simpa [*, List.reduceOption_cons_of_some] using later

end Preservation

theorem ledger_of_new (url : String) (delay : Nat) (signals : List Signal) :
    Ledger url delay (asked url delay signals) ((new url delay).run signals).1 := by
  simpa [asked] using ledger_run signals (ledger_new url delay)

theorem run_append (connection : Connection) (first second : List Signal) :
    connection.run (first ++ second) =
      (((connection.run first).1.run second).1,
        (connection.run first).2 ++ ((connection.run first).1.run second).2) := by
  induction first generalizing connection with
  | nil => rfl
  | cons signal rest induction => simp [run, induction]

theorem run_of_stopped (connection : Connection) (stopped : connection.phase = .stopped)
    (signals : List Signal) :
    connection.run signals = (connection, List.replicate signals.length none) := by
  induction signals with
  | nil => rfl
  | cons signal rest induction =>
      have stays : connection.step signal = (connection, none) := by
        cases signal <;> simp [step, stopped]
        rw [← stopped]
      simp [run, stays, induction, List.replicate_succ]

theorem run_stop (connection : Connection) (before after : List Signal) :
    connection.run (before ++ .stop :: after) =
      ({ (connection.run before).1 with phase := .stopped },
        (connection.run before).2 ++ List.replicate (after.length + 1) none) := by
  rw [run_append]
  simp [run, step, run_of_stopped, List.replicate_succ]

theorem asked_append_singleton (url : String) (delay : Nat) (signals : List Signal)
    (signal : Signal) :
    asked url delay (signals ++ [signal]) =
      asked url delay signals ++ (((new url delay).run signals).1.step signal).2.toList := by
  simp only [asked, run_append, run, List.reduceOption_append]
  cases (((new url delay).run signals).1.step signal).2 <;> rfl

/-- The last thing asked for on the way to an open connection was to connect. -/
theorem getLast?_asked_of_odd (url : String) (delay : Nat) (signals : List Signal)
    (odd : (asked url delay signals).length % 2 = 1) :
    (asked url delay signals).getLast? = some (.connect url) := by
  have inTurn := (ledger_of_new url delay signals).inTurn
  obtain ⟨count, length⟩ : ∃ count, (asked url delay signals).length = count + 1 :=
    Nat.exists_eq_add_one.mpr (by omega)
  rw [inTurn, length, turns_succ, if_pos (by omega), List.getLast?_concat]

/-- An open connection was opened after the last request to connect, and has neither closed nor
been stopped since. -/
theorem connected_since_opened (url : String) (delay : Nat) (signals : List Signal)
    (connected : ((new url delay).run signals).1.phase = .connected) :
    ∃ earlier later : List Signal, signals = earlier ++ .opened :: later ∧
      .closed ∉ later ∧ .stop ∉ later ∧
      (asked url delay earlier).getLast? = some (.connect url) ∧
      asked url delay signals = asked url delay earlier := by
  induction signals using List.reverseRecOn with
  | nil => cases connected
  | append_singleton signals signal induction =>
      have fits := (ledger_of_new url delay signals).fits
      rw [run_append] at connected
      simp only [run] at connected
      rw [asked_append_singleton]
      cases phase : ((new url delay).run signals).1.phase with
      | connected =>
          obtain ⟨earlier, later, split, notClosed, notStopped, last, same⟩ := induction phase
          have harmless : signal ≠ .closed ∧ signal ≠ .stop := by
            constructor <;> rintro rfl <;> simp [step, phase] at connected
          have silent : (((new url delay).run signals).1.step signal).2 = none := by
            cases signal <;> simp_all [step]
          refine ⟨earlier, later ++ [signal], by simp [split], ?_, ?_, last, ?_⟩
          · simp [notClosed, harmless.1.symm]
          · simp [notStopped, harmless.2.symm]
          · simp [silent, same]
      | connecting =>
          have opened : signal = .opened := by
            cases signal <;> simp [step, phase] at connected ⊢
          subst opened
          rw [phase] at fits
          have latest := getLast?_asked_of_odd url delay signals fits
          refine ⟨signals, [], rfl, by simp, by simp, latest, ?_⟩
          simp [step, phase]
      | disconnected => cases signal <;> simp [step, connect, phase] at connected
      | waiting => cases signal <;> simp [step, connect, phase] at connected
      | stopped => cases signal <;> simp [step, phase] at connected

/-- Over any signals a new connection asks for one thing at a time: to connect and to wait in turn,
at its own address and with its own delay, with one wait between two connections. It counts what it
opens, is up only since it was opened, and asks for nothing from the first stop on. -/
theorem one_request_at_a_time (url : String) (delay : Nat) (signals : List Signal) :
    (∃ count, asked url delay signals = turns url delay count) ∧
    (∀ (first second : String) (before middle after : List Action),
      asked url delay signals = before ++ .connect first :: (middle ++ .connect second :: after) →
      (∀ action ∈ middle, action.isConnect = false) → middle = [.wait url delay]) ∧
    ((new url delay).run signals).1.attempts =
      min ((asked url delay signals).countP Action.isConnect) (2 ^ 32 - 1) ∧
    (((new url delay).run signals).1.status = .connected →
      ∃ earlier later : List Signal, signals = earlier ++ .opened :: later ∧
        .closed ∉ later ∧ .stop ∉ later ∧
        (asked url delay earlier).getLast? = some (.connect url) ∧
        asked url delay signals = asked url delay earlier) ∧
    (∀ before after : List Signal, signals = before ++ .stop :: after →
      ((new url delay).run signals).1.phase = .stopped ∧
      ((new url delay).run signals).1.attempts = ((new url delay).run before).1.attempts ∧
      ((new url delay).run signals).2 =
        ((new url delay).run before).2 ++ List.replicate (after.length + 1) none) := by
  have ledger := ledger_of_new url delay signals
  refine ⟨⟨_, ledger.inTurn⟩, ?_, ledger.attempts, ?_, ?_⟩
  · intro first second before middle after split consecutive
    rw [ledger.inTurn] at split
    exact turns_between_connects url first second delay _ before middle after split consecutive
  · intro connected
    apply connected_since_opened url delay signals
    cases phase : ((new url delay).run signals).1.phase <;>
      simp [status, phase, Phase.status] at connected ⊢
  · rintro before after rfl
    simp [run_stop]

/-- A closed connection reports twice, and its successor comes up late. -/
theorem one_request_at_a_time_retry :
    let signals : List Signal := [.start, .opened, .closed, .closed, .timer, .timer, .opened]
    asked "ws://h/scores" 5 signals =
        [Action.connect "ws://h/scores", .wait "ws://h/scores" 5, .connect "ws://h/scores"] ∧
      ∃ earlier later : List Signal,
        signals = earlier ++ Signal.opened :: later ∧ Signal.closed ∉ later ∧ Signal.stop ∉ later ∧
        (asked "ws://h/scores" 5 earlier).getLast? = some (.connect "ws://h/scores") ∧
        asked "ws://h/scores" 5 signals = asked "ws://h/scores" 5 earlier :=
  ⟨by decide, (one_request_at_a_time "ws://h/scores" 5
    [.start, .opened, .closed, .closed, .timer, .timer, .opened]).2.2.2.1 (by decide)⟩

end Connection

end FlagBoard
