import FlagBoard.Proofs.Feed.Batching
import FlagBoard.Proofs.Feed.Reconnect
import Mathlib

/-!
Watching a feed over any number of connections. The views handed on are those of one fold over all
frames that came through, from the first connection to the last; between two connections the watch
waits once, and a stop ends it with the last view handed on.
-/

namespace FlagBoard

def WatchEvent.incoming? : WatchEvent → Option Incoming
  | .message incoming => some incoming
  | _ => none

/-- The signal that an event is to a connection which then says how to go on. -/
def WatchEvent.asks? : WatchEvent → Option Signal
  | .closed => some .closed
  | .elapsed => some .timer
  | _ => none

def Arrival.message? : Arrival → Option Incoming
  | .message incoming => some incoming
  | _ => none

/-- The messages that come through before the end of a connection. -/
def Link.delivered : Link → List Incoming
  | .failed => []
  | .opened arrivals =>
      (arrivals.takeWhile fun arrival => arrival.message?.isSome).filterMap Arrival.message?

namespace Watch

def received (met : List WatchEvent) : List Incoming := met.filterMap WatchEvent.incoming?

theorem received_arrivals (arrivals : List Arrival) :
    received (Arrival.events arrivals) = (Link.opened arrivals).delivered := by
  induction arrivals with
  | nil => rfl
  | cons arrival rest induction =>
      cases arrival with
      | message incoming =>
          simp only [Link.delivered] at induction ⊢
          simpa [received, Arrival.events, Arrival.message?, WatchEvent.incoming?] using induction
      | close => rfl
      | fault => rfl

theorem received_link (link : Link) : received link.events = link.delivered := by
  cases link with
  | failed => rfl
  | opened arrivals =>
      rw [← received_arrivals]
      simp [received, Link.events, WatchEvent.incoming?, List.filterMap_cons]

theorem received_script (links : List Link) :
    received (links.flatMap Link.events) = links.flatMap Link.delivered := by
  rw [received, List.filterMap_flatMap]
  exact List.flatMap_congr fun link _ => received_link link

/-- An event that a watch can meet in a phase of its connection, and the phase after it. -/
inductive Due : Phase → WatchEvent → Phase → Prop
  | opened : Due .connecting .opened .connected
  | failed : Due .connecting .closed .waiting
  | message (message : Incoming) : Due .connected (.message message) .connected
  | closed : Due .connected .closed .waiting
  | elapsed : Due .waiting .elapsed .connecting

/-- A connection that is asked how to go on in a phase where that is due always has an answer. -/
theorem Due.answer {phase next : Phase} {event : WatchEvent} {signal : Signal}
    (due : Due phase event next) (asks : event.asks? = some signal) (connection : Connection)
    (current : connection.phase = phase) :
    ∃ action, (connection.step signal).2 = some action ∧
      (connection.step signal).1.phase = next := by
  cases due <;> cases asks <;> simp [Connection.step, Connection.connect, current]

/-- Events that a watch can meet one after the other. -/
inductive Path : Phase → List WatchEvent → Phase → Prop
  | nil (phase : Phase) : Path phase [] phase
  | cons {first next last : Phase} {event : WatchEvent} {rest : List WatchEvent}
      (due : Due first event next) (path : Path next rest last) : Path first (event :: rest) last

namespace Path

variable {start finish : Phase} {first second : List WatchEvent}

theorem append_iff : Path start (first ++ second) finish ↔
    ∃ between, Path start first between ∧ Path between second finish := by
  induction first generalizing start with
  | nil =>
      constructor
      · exact fun path => ⟨start, .nil start, path⟩
      · rintro ⟨between, nothing, path⟩
        cases nothing
        exact path
  | cons event first induction =>
      constructor
      · intro path
        cases path with
        | cons due rest =>
            obtain ⟨between, left, right⟩ := induction.mp rest
            exact ⟨between, .cons due left, right⟩
      · rintro ⟨between, path, right⟩
        cases path with
        | cons due left => exact .cons due (induction.mpr ⟨between, left, right⟩)

theorem arrivals (arrivals : List Arrival) : Path .connected (Arrival.events arrivals) .waiting := by
  induction arrivals with
  | nil => exact .cons .closed (.nil _)
  | cons arrival rest induction =>
      cases arrival with
      | message incoming => exact .cons (.message incoming) induction
      | close => exact .cons .closed (.nil _)
      | fault => exact .cons .closed (.nil _)

theorem link (link : Link) : Path .connecting link.events .connecting := by
  cases link with
  | failed => exact .cons .failed (.cons .elapsed (.nil _))
  | opened arrivals =>
      refine append_iff.mpr ⟨.waiting, .cons .opened (Path.arrivals arrivals), ?_⟩
      exact .cons .elapsed (.nil _)

theorem script (links : List Link) :
    Path .connecting (links.flatMap Link.events) .connecting := by
  induction links with
  | nil => exact .nil _
  | cons link rest induction => exact append_iff.mpr ⟨.connecting, Path.link link, induction⟩

theorem of_prefix {met : List WatchEvent} (links : List Link)
    (reached : met <+: links.flatMap Link.events) : ∃ phase, Path .connecting met phase := by
  obtain ⟨later, whole⟩ := reached
  have path := script links
  rw [← whole] at path
  obtain ⟨phase, path, _⟩ := append_iff.mp path
  exact ⟨phase, path⟩

end Path

variable {State : Type} [View State]

/-- The views after each message that replaced a slice, in order. -/
def changes (view : State) : List Incoming → List State
  | [] => []
  | first :: rest =>
      let (next, report) := first.result view
      if report.changed then next :: changes next rest else changes next rest

theorem changes_cons (view : State) (first : Incoming) (rest : List Incoming) :
    changes view (first :: rest) = changes view [first] ++ changes (first.apply view) rest := by
  simp only [changes, Incoming.result_view]
  split_ifs <;> rfl

theorem changes_append (view : State) (first second : List Incoming) :
    changes view (first ++ second) = changes view first ++ changes (applyAll view first) second := by
  induction first generalizing view with
  | nil => rfl
  | cons message first induction =>
      rw [List.cons_append, changes_cons, induction, changes_cons view message first,
        List.append_assoc]
      rfl

/-- The view after messages is the last that changed. -/
theorem apply_all_eq_last (view : State) (incoming : List Incoming) :
    applyAll view incoming = (changes view incoming).getLast?.getD view := by
  induction incoming generalizing view with
  | nil => rfl
  | cons first rest induction =>
      have later : applyAll view (first :: rest) = applyAll (first.result view).1 rest := by
        rw [Incoming.result_view]
        rfl
      rw [later, induction]
      simp only [changes]
      split_ifs with changed
      · rw [List.getLast?_cons, Option.getD_some]
      · rw [Incoming.result_unchanged view first (Bool.eq_false_iff.mpr changed)]

/-- The views that are handed on: all, or the first where one is enough. -/
def handedOn (once : Bool) (views : List State) : List State :=
  if once then views.take 1 else views

variable {url : String} {delay : Nat} {once : Bool}

theorem receive_eq_take (watch : Watch State) (incoming : Incoming) :
    watch.receive once incoming = watch.take once (incoming.result watch.view) := by
  cases incoming <;> rfl

theorem run_of_finished (watch : Watch State) (finished : watch.finished = true)
    (events : List WatchEvent) : events.foldl (step once) watch = watch := by
  induction events with
  | nil => rfl
  | cons event rest induction =>
      have stays : watch.step once event = watch := if_pos finished
      rw [List.foldl_cons, stays, induction]

/-- What a watch has come to after events: what it has handed on, and what it has asked for. While
it goes on, its connection is in the phase that the events lead to. -/
structure Stands (url : String) (delay : Nat) (once : Bool) (phase : Phase) (met : List WatchEvent)
    (watch : Watch State) : Prop where
  ledger : Connection.Ledger url delay watch.asked watch.connection
  shown : watch.shown = handedOn once (changes View.start (received met))
  view : watch.view = watch.shown.getLast?.getD View.start
  finished : watch.finished = (once && !(changes (View.start : State) (received met)).isEmpty)
  phase : watch.finished = false → watch.connection.phase = phase
  turns : watch.finished = false →
    watch.asked.length = 1 + met.countP fun event => event.asks?.isSome

theorem stands_start : Stands url delay once .connecting [] (start url delay : Watch State) where
  ledger := Connection.ledger_step (Connection.ledger_new url delay) .start
  shown := by cases once <;> rfl
  view := rfl
  finished := by cases once <;> rfl
  phase _ := rfl
  turns _ := rfl

section Steps

variable {watch : Watch State} {phase next : Phase} {met : List WatchEvent} {event : WatchEvent}

theorem shown_of_running (stands : Stands url delay once phase met watch)
    (running : watch.finished = false) : watch.shown = changes View.start (received met) := by
  have finished := stands.finished
  rw [running] at finished
  rw [stands.shown, handedOn]
  cases once with
  | false => rfl
  | true =>
      have nothing : changes (View.start : State) (received met) = [] := by simpa using finished
      simp [nothing]

theorem stands_finished (stands : Stands url delay once phase met watch)
    (finished : watch.finished = true) (event : WatchEvent) (next : Phase) :
    Stands url delay once next (met ++ [event]) watch := by
  have ended := stands.finished
  rw [finished] at ended
  obtain ⟨enough, more⟩ : once = true ∧ changes (View.start : State) (received met) ≠ [] := by
    simpa using ended
  obtain ⟨first, rest, changed⟩ := List.exists_cons_of_ne_nil more
  have later : changes (View.start : State) (received (met ++ [event])) =
      first :: (rest ++ changes (applyAll View.start (received met)) (received [event])) := by
    have split : received (met ++ [event]) = received met ++ received [event] :=
      List.filterMap_append
    rw [split, changes_append, changed, List.cons_append]
  have notRunning : watch.finished ≠ false := by simp [finished]
  -- Only a first change ends a watch, so what comes later is beyond the one that it hands on.
  exact {
    ledger := stands.ledger
    shown := by rw [stands.shown, changed, later, enough]; rfl
    view := stands.view
    finished := by rw [finished, later, enough]; rfl
    phase := fun running => absurd running notRunning
    turns := fun running => absurd running notRunning }

theorem stands_silent (stands : Stands url delay once phase met watch)
    (silent : event.incoming? = none) (connection : Connection) (asked : List Action)
    (ledger : Connection.Ledger url delay asked connection) (current : connection.phase = next)
    (turns : asked.length = 1 + (met ++ [event]).countP fun event => event.asks?.isSome) :
    Stands url delay once next (met ++ [event]) { watch with connection, asked } := by
  have same : received (met ++ [event]) = received met := by
    simp [received, silent]
  exact {
    ledger := ledger
    shown := by rw [same]; exact stands.shown
    view := stands.view
    finished := by rw [same]; exact stands.finished
    phase := fun _ => current
    turns := fun _ => turns }

theorem stands_opened (stands : Stands url delay once .connecting met watch)
    (running : watch.finished = false) :
    Stands url delay once .connected (met ++ [.opened])
      { watch with connection := (watch.connection.step .opened).1 } := by
  have current := stands.phase running
  have ledger := Connection.ledger_silent stands.ledger .opened (Connection.opened_silent _)
  apply stands_silent stands rfl _ _ ledger
  · simp [Connection.step, current]
  · simp [stands.turns running, WatchEvent.asks?]

theorem stands_proceed {signal : Signal} (stands : Stands url delay once phase met watch)
    (running : watch.finished = false) (due : Due phase event next)
    (asks : event.asks? = some signal) :
    Stands url delay once next (met ++ [event])
      (watch.proceed (watch.connection.step signal)) := by
  obtain ⟨action, answer, after⟩ := due.answer asks watch.connection (stands.phase running)
  have silent : event.incoming? = none := by
    cases due <;> first | rfl | cases asks
  have ledger := Connection.ledger_step stands.ledger signal
  rw [answer] at ledger
  simp only [proceed, answer]
  apply stands_silent stands silent _ _ ledger after
  simp only [Option.toList_some, List.length_append, List.length_singleton, stands.turns running,
    List.countP_append, List.countP_singleton, asks, Option.isSome_some, if_true]
  omega

theorem stands_message (stands : Stands url delay once .connected met watch)
    (running : watch.finished = false) (incoming : Incoming) :
    Stands url delay once .connected (met ++ [.message incoming])
      (watch.receive once incoming) := by
  have shown := shown_of_running stands running
  have view : watch.view = applyAll View.start (received met) := by
    rw [stands.view, shown, apply_all_eq_last]
  have later : changes (View.start : State) (received (met ++ [.message incoming])) =
      watch.shown ++ changes watch.view [incoming] := by
    have split : received (met ++ [.message incoming]) = received met ++ [incoming] :=
      List.filterMap_append
    rw [split, changes_append, shown, view]
  have turns : watch.asked.length = 1 + (met ++ [WatchEvent.message incoming]).countP
      fun event => event.asks?.isSome := by
    simp [stands.turns running, WatchEvent.asks?]
  rw [receive_eq_take]
  -- Only a change hands on a view, and where one is enough it is the first, as the watch still runs.
  by_cases changed : (incoming.result watch.view).2.changed
  · have more : changes watch.view [incoming] = [(incoming.result watch.view).1] := by
      simp [changes, changed]
    rw [more] at later
    have last (views : List State) : (incoming.result watch.view).1 =
        (views ++ [(incoming.result watch.view).1]).getLast?.getD View.start := by
      rw [List.getLast?_concat, Option.getD_some]
    cases enough : once with
    | false =>
        simp only [take, changed, if_true, Bool.false_eq_true, if_false]
        exact {
          ledger := stands.ledger
          shown := by rw [later]; rfl
          view := last watch.shown
          finished := running
          phase := fun _ => stands.phase running
          turns := fun _ => turns }
    | true =>
        have none : watch.shown = [] := by
          have finished := stands.finished
          rw [running, enough, ← shown] at finished
          simpa using finished
        have halted := Connection.ledger_silent stands.ledger .stop rfl
        simp only [take, changed, if_true]
        exact {
          ledger := halted
          shown := by rw [later, none]; rfl
          view := last watch.shown
          finished := by rw [later, none]; rfl
          phase := fun goesOn => by cases goesOn
          turns := fun goesOn => by cases goesOn }
  · have none : changes watch.view [incoming] = [] := by
      simp [changes, changed]
    have same := Incoming.result_unchanged watch.view incoming (Bool.eq_false_iff.mpr changed)
    rw [none, List.append_nil, shown] at later
    simp only [take, changed, Bool.false_eq_true, if_false, same]
    exact {
      ledger := stands.ledger
      shown := by rw [later]; exact stands.shown
      view := stands.view
      finished := by rw [later]; exact stands.finished
      phase := fun _ => stands.phase running
      turns := fun _ => turns }

/-- One event takes a watch from where it stands to where it stands after the event. -/
theorem stands_step (stands : Stands url delay once phase met watch)
    (due : Due phase event next) :
    Stands url delay once next (met ++ [event]) (watch.step once event) := by
  cases finished : watch.finished with
  | true =>
      have stays : watch.step once event = watch := if_pos finished
      rw [stays]
      exact stands_finished stands finished event next
  | false =>
      have running : ¬ watch.finished = true := by simp [finished]
      cases due <;> simp only [step, if_neg running]
      case opened => exact stands_opened stands finished
      case message incoming => exact stands_message stands finished incoming
      case failed => exact stands_proceed stands finished .failed rfl
      case closed => exact stands_proceed stands finished .closed rfl
      case elapsed => exact stands_proceed stands finished .elapsed rfl

end Steps

theorem stands_path {watch : Watch State} {phase next : Phase} {met more : List WatchEvent}
    (stands : Stands url delay once phase met watch) (path : Path phase more next) :
    Stands url delay once next (met ++ more) (more.foldl (step once) watch) := by
  -- The induction moves the first event of the path to the end of what was met before.
  induction path generalizing met watch with
  | nil => simpa using stands
  | cons due path induction =>
      have later := induction (stands_step stands due)
      rwa [List.append_assoc] at later

theorem stands_run {phase : Phase} {met : List WatchEvent} (path : Path .connecting met phase) :
    Stands url delay once phase met (run url delay once met : Watch State) :=
  stands_path stands_start path

/-- A stop ends a watch as it is. -/
theorem run_stop (once : Bool) (watch : Watch State) (later : List WatchEvent) :
    ((WatchEvent.stop :: later).foldl (step once) watch).finished = true ∧
    ((WatchEvent.stop :: later).foldl (step once) watch).view = watch.view ∧
    ((WatchEvent.stop :: later).foldl (step once) watch).shown = watch.shown ∧
    ((WatchEvent.stop :: later).foldl (step once) watch).asked = watch.asked := by
  cases finished : watch.finished with
  | true =>
      rw [run_of_finished _ finished]
      exact ⟨finished, rfl, rfl, rfl⟩
  | false =>
      have stopped : watch.step once .stop = watch.halt := by
        rw [step, finished]
        rfl
      rw [List.foldl_cons, stopped, run_of_finished _ rfl]
      exact ⟨rfl, rfl, rfl, rfl⟩

/-- A watch hands on every change and nothing else. Over any number of connections, each of which
fails or yields messages and ends in one way or another, and up to any point among what it meets, a
watch has handed on the views of one fold over all messages that came through, in order and once
each; only where one change is enough does it end with the first. It asks for connections at its own
address with one wait of its delay between them, and its connection never leaves it without an
answer. Wherever it is stopped, it ends with the last view handed on. -/
theorem watch_hands_on_every_change (url : String) (session : Option String) (delay : Nat)
    (request : Handshake) (requested : Handshake.ofUrl url session = .ok request)
    (links : List Link) :
    received (links.flatMap Link.events) = links.flatMap Link.delivered ∧
    ∀ (once : Bool) (met : List WatchEvent), met <+: links.flatMap Link.events →
      ∃ watch : Watch State, ofUrl url session delay once met = .ok watch ∧
        watch.shown = handedOn once (changes View.start (received met)) ∧
        watch.finished = (once && !(changes (View.start : State) (received met)).isEmpty) ∧
        watch.asked = Connection.turns url delay watch.asked.length ∧
        (watch.finished = false →
          watch.asked.length = 1 + met.countP fun event => event.asks?.isSome) ∧
        (∀ (first second : String) (before middle after : List Action),
          watch.asked = before ++ .connect first :: (middle ++ .connect second :: after) →
          (∀ action ∈ middle, action.isConnect = false) → middle = [.wait url delay]) ∧
        (∀ event signal, met ++ [event] <+: links.flatMap Link.events →
          event.asks? = some signal → watch.finished = false →
          (watch.connection.step signal).2 ≠ none) ∧
        ∀ later, ∃ stopped : Watch State,
          ofUrl url session delay once (met ++ .stop :: later) = .ok stopped ∧
          stopped.finished = true ∧ stopped.view = watch.shown.getLast?.getD View.start ∧
          stopped.shown = watch.shown ∧ stopped.asked = watch.asked := by
  refine ⟨received_script links, fun once met reached => ?_⟩
  obtain ⟨phase, path⟩ := Path.of_prefix links reached
  have stands : Stands url delay once phase met (run url delay once met : Watch State) :=
    stands_run path
  have inTurn := stands.ledger.inTurn
  refine ⟨run url delay once met, by rw [ofUrl, requested], stands.shown, stands.finished, inTurn,
    stands.turns, ?_, ?_, ?_⟩
  · intro first second before middle after split consecutive
    rw [inTurn] at split
    exact Connection.turns_between_connects url first second delay _ before middle after split
      consecutive
  · intro event signal reached asks running
    -- The path to the event ends in a phase that it is due in, and there the connection answers.
    obtain ⟨_, path⟩ := Path.of_prefix links reached
    obtain ⟨current, path, last⟩ := Path.append_iff.mp path
    cases last with
    | cons due _ =>
        have phase := (stands_run path : Stands url delay once current met
          (run url delay once met : Watch State)).phase running
        obtain ⟨action, answer, _⟩ := due.answer asks _ phase
        simp [answer]
  · intro later
    obtain ⟨finished, view, shown, asked⟩ :=
      run_stop once (run url delay once met : Watch State) later
    refine ⟨_, ?_, finished, view.trans stands.view, shown, asked⟩
    rw [ofUrl, requested, run, List.foldl_append]
    rfl

/-- A first connection fails; what is sent behind the close message of the second is not read. -/
theorem watch_hands_on_every_change_reconnected :
    ∃ watch : Watch Scoreboard,
      ofUrl "ws://h/scores" (some "abc") 5 false [.closed, .elapsed, .opened,
        .message (.text "\x7b\"msg\":\"teams\",\"values\":[[\"1\",\"a\"]]\x7d"), .closed] =
          .ok watch ∧
      watch.shown = [⟨[⟨"1", "a", 0, [], false⟩], []⟩] ∧
      watch.asked = [.connect "ws://h/scores", .wait "ws://h/scores" 5, .connect "ws://h/scores",
        .wait "ws://h/scores" 5] := by
  obtain ⟨watch, met, shown, finished, inTurn, turns, _⟩ :=
    (@watch_hands_on_every_change Scoreboard _ "ws://h/scores" (some "abc") 5
      ⟨"/scores", none, "h", some "session=abc"⟩ (by cbv)
      [.failed, .opened [.message
        (.text "\x7b\"msg\":\"teams\",\"values\":[[\"1\",\"a\"]]\x7d"), .close,
          .message (.text "\x7b\"msg\":\"teams\",\"values\":[]\x7d")]]).2 false
      [.closed, .elapsed, .opened,
        .message (.text "\x7b\"msg\":\"teams\",\"values\":[[\"1\",\"a\"]]\x7d"), .closed]
      ⟨[.elapsed], rfl⟩
  refine ⟨watch, met, shown.trans (by decide +kernel), ?_⟩
  rw [inTurn, turns (finished.trans rfl)]
  rfl

end Watch

end FlagBoard
