import FlagBoard.Proofs.Feed.Watching
import Mathlib

/-!
A watch for which the first change is enough. It ends at the first message that replaces a slice of
the view, wherever that comes, and at nothing else; until then the view is as at the start, and
every connection that failed or ended has led to one wait and one new connection.
-/

namespace FlagBoard

/-- A message that replaces a slice of the view that a watch starts with. -/
def Incoming.Replaces (State : Type) [View State] (incoming : Incoming) : Prop :=
  (incoming.result (View.start : State)).2.changed = true

/-- What a watch meets on its first attempts to connect, of which there is no end. -/
def firstAttempts (script : Nat → Link) (count : Nat) : List WatchEvent :=
  (List.range count).flatMap fun attempt => (script attempt).events

def asking (met : List WatchEvent) : Nat := met.countP fun event => event.asks?.isSome

theorem first_attempts_succ (script : Nat → Link) (count : Nat) :
    firstAttempts script (count + 1) = firstAttempts script count ++ (script count).events := by
  simp [firstAttempts, List.range_succ]

theorem arrival_events (arrivals : List Arrival) :
    Arrival.events arrivals =
      (Link.opened arrivals).delivered.map WatchEvent.message ++ [.closed] := by
  induction arrivals with
  | nil => rfl
  | cons arrival rest induction =>
      cases arrival with
      | message incoming =>
          simp only [Link.delivered] at induction ⊢
          simp [Arrival.events, Arrival.message?, induction]
      | close => rfl
      | fault => rfl

/-- All that is met on an attempt on which something is delivered. -/
theorem link_events (link : Link) (delivers : link.delivered ≠ []) :
    link.events = .opened :: (link.delivered.map WatchEvent.message ++ [.closed, .elapsed]) := by
  cases link with
  | failed => exact absurd rfl delivers
  | opened arrivals =>
      rw [Link.events, arrival_events]
      simp

theorem asking_append (first second : List WatchEvent) :
    asking (first ++ second) = asking first + asking second := List.countP_append

theorem asking_messages (messages : List Incoming) :
    asking (messages.map WatchEvent.message) = 0 := by
  rw [asking, List.countP_map, List.countP_eq_zero]
  intro message _
  simp [WatchEvent.asks?]

theorem asking_link (link : Link) : asking link.events = 2 := by
  cases link with
  | failed => rfl
  | opened arrivals =>
      have opened : asking [.opened] = 0 := rfl
      have closed : asking [.closed] = 1 := rfl
      have elapsed : asking [.elapsed] = 1 := rfl
      rw [Link.events, arrival_events, ← List.singleton_append, asking_append, asking_append,
        asking_append, asking_messages, opened, closed, elapsed]

theorem asking_attempts (script : Nat → Link) (count : Nat) :
    asking (firstAttempts script count) = 2 * count := by
  induction count with
  | zero => rfl
  | succ count induction =>
      rw [first_attempts_succ, asking_append, induction, asking_link]
      omega

namespace Watch

theorem path_attempts (script : Nat → Link) (count : Nat) :
    Path .connecting (firstAttempts script count) .connecting := by
  induction count with
  | zero => exact .nil _
  | succ count induction =>
      rw [first_attempts_succ]
      exact Path.append_iff.mpr ⟨.connecting, induction, Path.link (script count)⟩

theorem path_messages (messages : List Incoming) :
    Path .connected (messages.map WatchEvent.message) .connected := by
  induction messages with
  | nil => exact .nil _
  | cons message rest induction => exact .cons (.message message) induction

theorem received_attempts (script : Nat → Link) (count : Nat) :
    received (firstAttempts script count) =
      (List.range count).flatMap fun attempt => (script attempt).delivered := by
  rw [firstAttempts, received, List.filterMap_flatMap]
  apply List.flatMap_congr
  intro attempt _
  exact received_link (script attempt)

theorem received_messages (messages : List Incoming) :
    received (messages.map WatchEvent.message) = messages := by
  rw [received, List.filterMap_map]
  exact List.filterMap_some

section Runs

variable {State : Type} [View State] (url : String) (delay : Nat) {met : List WatchEvent}
  {phase : Phase}

theorem changes_of_quiet (view : State) (incoming : List Incoming)
    (quiet : ∀ message ∈ incoming, (message.result view).2.changed = false) :
    changes view incoming = [] := by
  induction incoming with
  | nil => rfl
  | cons first rest induction =>
      rw [List.forall_mem_cons] at quiet
      have same := Incoming.result_unchanged view first quiet.1
      simp only [changes, quiet.1, Bool.false_eq_true, if_false, same]
      exact induction quiet.2

/-- As long as nothing that came through replaces a slice, the watch goes on with its first view. -/
theorem run_quiet (path : Path .connecting met phase)
    (quiet : ∀ message ∈ received met, ¬ message.Replaces State) :
    let watch : Watch State := run url delay true met
    watch.finished = false ∧ watch.view = View.start ∧ watch.shown = [] ∧
      watch.asked = Connection.turns url delay (asking met + 1) := by
  intro watch
  have stands : Stands url delay true phase met watch := stands_run path
  have nothing : changes (View.start : State) (received met) = [] := by
    apply changes_of_quiet
    intro message member
    exact Bool.eq_false_iff.mpr (quiet message member)
  have running : watch.finished = false := by
    rw [stands.finished, nothing]
    rfl
  have shown : watch.shown = [] := by
    rw [stands.shown, nothing]
    rfl
  have asked := stands.ledger.inTurn
  rw [stands.turns running, Nat.add_comm] at asked
  refine ⟨running, ?_, shown, asked⟩
  rw [stands.view, shown]
  rfl

/-- A message that replaces a slice ends a watch that goes on with its first view. -/
theorem step_first_change (watch : Watch State) (running : watch.finished = false)
    (view : watch.view = View.start) (message : Incoming) (replaces : message.Replaces State) :
    let next := watch.step true (.message message)
    next.finished = true ∧ next.view = message.apply View.start ∧
      next.shown = watch.shown ++ [message.apply View.start] ∧ next.asked = watch.asked := by
  have goesOn : ¬ watch.finished = true := by simp [running]
  have changed : (message.result (View.start : State)).2.changed = true := replaces
  simp only [step, if_neg goesOn, receive_eq_take, view, take, changed, if_true,
    Incoming.result_view, halt, and_self]

/-- The first message that replaces a slice ends the watch, whatever would come later. -/
theorem run_first_change (path : Path .connecting met phase)
    (quiet : ∀ message ∈ received met, ¬ message.Replaces State) (message : Incoming)
    (replaces : message.Replaces State) (later : List WatchEvent) :
    let watch : Watch State := run url delay true (met ++ .message message :: later)
    watch.finished = true ∧ watch.view = message.apply View.start ∧
      watch.shown = [message.apply View.start] ∧
      watch.asked = Connection.turns url delay (asking met + 1) := by
  obtain ⟨running, view, shown, asked⟩ := run_quiet url delay path quiet
  obtain ⟨finished, changed, handedOn, kept⟩ :=
    step_first_change (run url delay true met) running view message replaces
  have ended : (run url delay true (met ++ .message message :: later) : Watch State) =
      (run url delay true met).step true (.message message) := by
    rw [run, List.foldl_append, List.foldl_cons]
    exact run_of_finished _ finished later
  rw [shown, List.nil_append] at handedOn
  rw [asked] at kept
  rw [ended]
  exact ⟨finished, changed, handedOn, kept⟩

end Runs

section Attempts

variable (State : Type) [View State] (script : Nat → Link)

/-- Nothing that is delivered on the first attempts replaces a slice. -/
def QuietBefore (count : Nat) : Prop :=
  ∀ attempt < count, ∀ message ∈ (script attempt).delivered, ¬ message.Replaces State

variable {State script}

theorem quiet_attempts {count : Nat} (quiet : QuietBefore State script count) :
    ∀ message ∈ received (firstAttempts script count), ¬ message.Replaces State := by
  intro message member
  rw [received_attempts, List.mem_flatMap] at member
  obtain ⟨attempt, inRange, member⟩ := member
  exact quiet attempt (List.mem_range.mp inRange) message member

/-- A message that replaces a slice has a first one before it, on the same attempt or an earlier
one. -/
theorem exists_first_change (attempt : Nat) (message : Incoming)
    (member : message ∈ (script attempt).delivered) (replaces : message.Replaces State) :
    ∃ count before first after, QuietBefore State script count ∧
      (script count).delivered = before ++ first :: after ∧
      (∀ earlier ∈ before, ¬ earlier.Replaces State) ∧ first.Replaces State := by
  classical
  have some : ∃ attempt, ∃ message ∈ (script attempt).delivered, message.Replaces State :=
    ⟨attempt, message, member, replaces⟩
  obtain ⟨found, member, replaces⟩ := Nat.find_spec some
  have isFound : ((script (Nat.find some)).delivered.find? fun message =>
      (message.result (View.start : State)).2.changed).isSome := by
    rw [List.find?_isSome]
    exact ⟨found, member, replaces⟩
  obtain ⟨first, isFirst⟩ := Option.isSome_iff_exists.mp isFound
  obtain ⟨changed, before, after, split, quiet⟩ := List.find?_eq_some_iff_append.mp isFirst
  refine ⟨Nat.find some, before, first, after, ?_, split, ?_, changed⟩
  · intro earlier less message member replaces
    exact Nat.find_min some less ⟨message, member, replaces⟩
  · intro earlier member replaces
    have unchanged := quiet earlier member
    rw [Bool.not_eq_true', Bool.eq_false_iff] at unchanged
    exact unchanged replaces

/-- All that is met up to a message that is delivered on an attempt. -/
def upTo (script : Nat → Link) (count : Nat) (before : List Incoming) (message : Incoming) :
    List WatchEvent :=
  firstAttempts script count ++ .opened :: before.map WatchEvent.message ++ [.message message]

theorem up_to_begins {count : Nat} {before after : List Incoming} {message : Incoming}
    (split : (script count).delivered = before ++ message :: after) :
    upTo script count before message <+: firstAttempts script (count + 1) := by
  refine ⟨after.map WatchEvent.message ++ [.closed, .elapsed], ?_⟩
  have events := link_events (script count) (by simp [split])
  rw [first_attempts_succ, events, split]
  simp [upTo]

theorem quiet_up_to {count : Nat} (quiet : QuietBefore State script count)
    (before : List Incoming) (quietBefore : ∀ earlier ∈ before, ¬ earlier.Replaces State) :
    ∀ message ∈ received
      (firstAttempts script count ++ .opened :: before.map WatchEvent.message),
        ¬ message.Replaces State := by
  have split : received (firstAttempts script count ++
      .opened :: before.map WatchEvent.message) =
        received (firstAttempts script count) ++ before := by
    rw [received, List.filterMap_append]
    exact congrArg (received (firstAttempts script count) ++ ·) (received_messages before)
  intro message member
  rw [split, List.mem_append] at member
  cases member with
  | inl earlier => exact quiet_attempts quiet message earlier
  | inr same => exact quietBefore message same

end Attempts

section Ends

variable {State : Type} [View State] {url : String} {session : Option String} {delay : Nat}
  {request : Handshake}

theorem of_url_eq_run (requested : Handshake.ofUrl url session = .ok request)
    (events : List WatchEvent) :
    ofUrl url session delay true events = .ok (run url delay true events : Watch State) := by
  rw [ofUrl, requested]

variable {script : Nat → Link} {count : Nat}

theorem goes_on_before_change (url : String) (delay : Nat)
    (quiet : QuietBefore State script count) :
    let watch : Watch State := run url delay true (firstAttempts script count)
    watch.finished = false ∧ watch.view = View.start ∧ watch.shown = [] ∧
      watch.asked = Connection.turns url delay (2 * count + 1) := by
  have goesOn := run_quiet url delay (path_attempts script count)
    (quiet_attempts quiet)
  rwa [asking_attempts] at goesOn

theorem ends_with_change (url : String) (delay : Nat) (quiet : QuietBefore State script count)
    (before : List Incoming) (quietBefore : ∀ earlier ∈ before, ¬ earlier.Replaces State)
    (message : Incoming) (replaces : message.Replaces State) (later : List WatchEvent) :
    let watch : Watch State := run url delay true (upTo script count before message ++ later)
    watch.finished = true ∧ watch.view = message.apply View.start ∧
      watch.shown = [message.apply View.start] ∧
      watch.asked = Connection.turns url delay (2 * count + 1) := by
  have path : Path .connecting
      (firstAttempts script count ++ .opened :: before.map WatchEvent.message) .connected :=
    Path.append_iff.mpr ⟨.connecting, path_attempts script count,
      .cons .opened (path_messages before)⟩
  have asks : asking (firstAttempts script count ++ .opened :: before.map WatchEvent.message) =
      2 * count := by
    have opened : asking [.opened] = 0 := rfl
    rw [← List.singleton_append, asking_append, asking_append, asking_attempts, asking_messages,
      opened, Nat.add_zero]
  have ends := run_first_change url delay path (quiet_up_to quiet before quietBefore) message
    replaces later
  rw [asks] at ends
  simpa [upTo] using ends

/-- A watch for which one change is enough ends if and only if there is one. -/
theorem ends_iff_change (url : String) (delay : Nat) (script : Nat → Link) :
    (∃ count, (run url delay true (firstAttempts script count) : Watch State).finished = true) ↔
      ∃ attempt, ∃ message ∈ (script attempt).delivered, message.Replaces State := by
  constructor
  · intro ends
    obtain ⟨count, finished⟩ := ends
    by_contra none
    have quiet : QuietBefore State script count := by
      intro attempt _ message member replaces
      exact none ⟨attempt, message, member, replaces⟩
    have running := (goes_on_before_change url delay quiet).1
    rw [finished] at running
    cases running
  · intro some
    obtain ⟨attempt, message, member, replaces⟩ := some
    obtain ⟨count, before, first, after, quiet, split, quietBefore, replaces⟩ :=
      exists_first_change attempt message member replaces
    obtain ⟨later, whole⟩ := up_to_begins split
    have ends := (ends_with_change url delay quiet before quietBefore first
      replaces later).1
    rw [whole] at ends
    exact ⟨count + 1, ends⟩

end Ends

/-- The first change ends a watch for which one is enough. On whatever script of connections, the
watch comes to an end if and only if some message that is delivered replaces a slice of the view.
It then ends with the view after all segments of the first such message, which is the one view that
is handed on, and nothing that comes later makes a difference. Until then it has its first view, has
handed on nothing, and has asked for one wait and one connection for each attempt that is over. -/
theorem first_change_ends_watch (State : Type) [View State] (url : String)
    (session : Option String) (delay : Nat) (request : Handshake)
    (requested : Handshake.ofUrl url session = .ok request) (script : Nat → Link) :
    ((∃ count, ∃ watch : Watch State,
        ofUrl url session delay true (firstAttempts script count) = .ok watch ∧
          watch.finished = true) ↔
      ∃ attempt, ∃ message ∈ (script attempt).delivered, message.Replaces State) ∧
    (∀ count, QuietBefore State script count → ∃ watch : Watch State,
      ofUrl url session delay true (firstAttempts script count) = .ok watch ∧
        watch.finished = false ∧ watch.view = View.start ∧ watch.shown = [] ∧
        watch.asked = Connection.turns url delay (2 * count + 1)) ∧
    (∀ count before message after, QuietBefore State script count →
      (script count).delivered = before ++ message :: after →
      (∀ earlier ∈ before, ¬ earlier.Replaces State) → message.Replaces State →
      upTo script count before message <+: firstAttempts script (count + 1) ∧
      ∀ later, ∃ watch : Watch State,
        ofUrl url session delay true (upTo script count before message ++ later) = .ok watch ∧
          watch.finished = true ∧
          watch.view = (message.events.filterMap decodedMessage).foldl absorb View.start ∧
          watch.shown = [watch.view] ∧
          watch.asked = Connection.turns url delay (2 * count + 1)) := by
  simp only [of_url_eq_run requested, Except.ok.injEq, exists_eq_left']
  refine ⟨ends_iff_change url delay script, ?_, ?_⟩
  · intro count quiet
    exact goes_on_before_change url delay quiet
  · intro count before message after quiet split quietBefore replaces
    refine ⟨up_to_begins split, ?_⟩
    intro later
    obtain ⟨finished, view, shown, asked⟩ := ends_with_change url delay quiet
      before quietBefore message replaces later
    rw [view, shown, ← incoming_apply_view]
    exact ⟨finished, rfl, rfl, asked⟩

/-- A connection fails, and the next yields a frame without a change before one with two. -/
theorem first_change_ends_watch_second_attempt :
    let quiet : Incoming := .text "\x7b\"msg\":\"teams\"\x7d"
    let change : Incoming := .text ("\x7b\"msg\":\"teams\",\"values\":[]\x7d\n" ++
      "\x7b\"msg\":\"challenges\",\"values\":[\x7b\"tag\":\"a\",\"name\":\"A\"\x7d]\x7d")
    let script : Nat → Link := fun attempt =>
      if attempt = 0 then .failed else .opened [.message quiet, .message change, .close]
    ∃ watch : Watch Scoreboard,
      ofUrl "ws://h/scores" (some "abc") 5 true (firstAttempts script 2) = .ok watch ∧
        watch.finished = true ∧ watch.view = ⟨[], [⟨"a", "A", 0, "", ""⟩]⟩ ∧
        watch.shown = [watch.view] ∧
        watch.asked = [.connect "ws://h/scores", .wait "ws://h/scores" 5,
          .connect "ws://h/scores"] := by
  intro quiet change script
  have ends := (first_change_ends_watch Scoreboard "ws://h/scores" (some "abc") 5
    ⟨"/scores", none, "h", some "session=abc"⟩ (by cbv) script).2.2 1 [quiet] change []
  obtain ⟨⟨later, whole⟩, ends⟩ := ends (by
      intro attempt less message member
      obtain rfl : attempt = 0 := Nat.lt_one_iff.mp less
      cases member)
    rfl (by
      intro earlier member
      rw [List.mem_singleton.mp member]
      change ¬ (Incoming.result (View.start : Scoreboard) quiet).2.changed = true
      decide +kernel)
    (by
      change (Incoming.result (View.start : Scoreboard) change).2.changed = true
      decide +kernel)
  obtain ⟨watch, met, finished, view, shown, asked⟩ := ends later
  rw [whole] at met
  refine ⟨watch, met, finished, view.trans ?_, shown, asked.trans rfl⟩
  decide +kernel

end Watch

end FlagBoard
