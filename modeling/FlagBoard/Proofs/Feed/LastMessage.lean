import FlagBoard.Feed.ChallengeBrowser
import FlagBoard.Feed.Scoreboard
import FlagBoard.Feed.Watch
import Mathlib

/-!
What a view shows after any run of frames. Every slice of it is the payload of the last message of
its kind, whatever stood around that message, so frames may be repeated, and messages of different
kinds may change places.
-/

namespace FlagBoard

section Folding

variable {State : Type} [View State]

def Incoming.events : Incoming → List (Except SegmentError Event)
  | .text frame => decodeFrame frame
  | .bytes frame => decodeBytes frame
  | .other => []

def Incoming.apply (view : State) : Incoming → State
  | .text frame => (applyFrame view frame).1
  | .bytes frame => (applyBytes view frame).1
  | .other => view

def applyAll (view : State) (incoming : List Incoming) : State :=
  incoming.foldl Incoming.apply view

def decodedMessage : Except SegmentError Event → Option Message
  | .ok (.message message) => some message
  | .ok (.unknown _) => none
  | .error _ => none

def decodedMessages (incoming : List Incoming) : List Message :=
  (incoming.flatMap Incoming.events).filterMap decodedMessage

/-- The view after a message, which stays as it is where it ignores the message. -/
def absorb (view : State) (message : Message) : State := (View.accept view message).getD view

theorem apply_event_view (view : State) (report : FrameReport)
    (event : Except SegmentError Event) :
    (applyEvent (view, report) event).1 = (decodedMessage event).elim view (absorb view) := by
  match event with
  | .ok (.message message) =>
      simp only [applyEvent, decodedMessage, Option.elim_some, absorb]
      cases View.accept view message <;> rfl
  | .ok (.unknown _) => rfl
  | .error _ => rfl

theorem fold_events_view (view : State) (report : FrameReport)
    (events : List (Except SegmentError Event)) :
    (events.foldl applyEvent (view, report)).1 =
      (events.filterMap decodedMessage).foldl absorb view := by
  induction events generalizing view report with
  | nil => rfl
  | cons event rest induction =>
      have first := apply_event_view view report event
      rw [List.foldl_cons, ← Prod.eta (applyEvent (view, report) event), induction, first]
      cases taken : decodedMessage event <;> simp [taken]

theorem incoming_apply_view (view : State) (incoming : Incoming) :
    incoming.apply view = (incoming.events.filterMap decodedMessage).foldl absorb view := by
  cases incoming with
  | text frame => exact fold_events_view view .empty (decodeFrame frame)
  | bytes frame => exact fold_events_view view .empty (decodeBytes frame)
  | other => rfl

/-- Of a run of frames a view keeps only what the decoded messages do to it. -/
theorem apply_all_view (view : State) (incoming : List Incoming) :
    applyAll view incoming = (decodedMessages incoming).foldl absorb view := by
  induction incoming generalizing view with
  | nil => rfl
  | cons first rest induction =>
      have later := induction (first.apply view)
      rw [incoming_apply_view] at later
      simp only [applyAll, decodedMessages] at later
      simp [applyAll, decodedMessages, incoming_apply_view, later]

end Folding

namespace Message

def teams? : Message → Option (List Team)
  | .teams payload => some payload
  | _ => none

def challenges? : Message → Option (List Challenge)
  | .challenges payload => some payload
  | _ => none

def rows? : Message → Option (List LiveRow)
  | .rows payload => some payload
  | _ => none

/-- The last payload that is picked out of messages, or what was there before if there is none. -/
def last {Payload : Type} (pick : Message → Option Payload) (messages : List Message)
    (before : Payload) : Payload :=
  (messages.filterMap pick).getLast?.getD before

section Last

variable {Payload : Type} (pick : Message → Option Payload)

theorem last_cons (message : Message) (rest : List Message) (before : Payload) :
    last pick (message :: rest) before = last pick rest ((pick message).getD before) := by
  cases picked : pick message <;>
    simp [last, picked, List.getLast?_cons]

theorem last_append_self (messages : List Message) (before : Payload) :
    last pick (messages ++ messages) before = last pick messages before := by
  simp only [last, List.filterMap_append, List.getLast?_append, Option.or_self]

/-- A pick that takes messages of one kind only sees the messages of that kind. -/
theorem last_of_kind (kind : Kind) (only : ∀ message, message.kind ≠ kind → pick message = none)
    (messages : List Message) (before : Payload) :
    last pick (messages.filter fun message => message.kind = kind) before =
      last pick messages before := by
  simp only [last, List.filterMap_filter]
  congr 3
  funext message
  by_cases same : message.kind = kind
  · simp [same]
  · simp [same, only message same]

end Last

theorem teams?_of_other (message : Message) (other : message.kind ≠ .teams) :
    message.teams? = none := by
  cases message <;> simp_all [kind, teams?]

theorem challenges?_of_other (message : Message) (other : message.kind ≠ .challenges) :
    message.challenges? = none := by
  cases message <;> simp_all [kind, challenges?]

theorem rows?_of_other (message : Message) (other : message.kind ≠ .rows) :
    message.rows? = none := by
  cases message <;> simp_all [kind, rows?]

end Message

open Message

/-- The scoreboard after messages. -/
theorem fold_scoreboard (board : Scoreboard) (messages : List Message) :
    messages.foldl absorb board =
      ⟨last teams? messages board.teams, last challenges? messages board.challenges⟩ := by
  induction messages generalizing board with
  | nil => rfl
  | cons message rest induction =>
      rw [List.foldl_cons, induction, last_cons, last_cons]
      cases message <;> rfl

/-- The challenge browser after messages. -/
theorem fold_browser (browser : ChallengeBrowser) (messages : List Message) :
    messages.foldl absorb browser = ⟨browser.groups, last rows? messages browser.rows⟩ := by
  induction messages generalizing browser with
  | nil => rfl
  | cons message rest induction =>
      rw [List.foldl_cons, induction, last_cons]
      cases message <;> rfl

theorem apply_all_scoreboard (board : Scoreboard) (incoming : List Incoming) :
    applyAll board incoming =
      ⟨last teams? (decodedMessages incoming) board.teams,
        last challenges? (decodedMessages incoming) board.challenges⟩ := by
  rw [apply_all_view, fold_scoreboard]

theorem apply_all_browser (browser : ChallengeBrowser) (incoming : List Incoming) :
    applyAll browser incoming =
      ⟨browser.groups, last rows? (decodedMessages incoming) browser.rows⟩ := by
  rw [apply_all_view, fold_browser]

theorem decoded_messages_twice (incoming : Incoming) :
    decodedMessages [incoming, incoming] =
      decodedMessages [incoming] ++ decodedMessages [incoming] := by
  simp [decodedMessages]

/-- The same messages of every kind, each kind in the same order. -/
def SameByKind (first second : List Message) : Prop :=
  ∀ kind : Kind, first.filter (fun message => message.kind = kind) =
    second.filter fun message => message.kind = kind

theorem last_of_same_by_kind {Payload : Type} (pick : Message → Option Payload) (kind : Kind)
    (only : ∀ message, message.kind ≠ kind → pick message = none) (first second : List Message)
    (same : SameByKind first second) (before : Payload) :
    last pick first before = last pick second before := by
  rw [← last_of_kind pick kind only first, same kind, last_of_kind pick kind only second]

/-- Every slice that a view shows is the payload of the last message of its kind, and the
challenges of a browser are always those it was given. So a frame may as well be applied once as
twice, and only the order among messages of one kind counts. -/
theorem view_shows_last_messages :
    (∀ incoming, applyAll (View.start : Scoreboard) incoming =
      ⟨last teams? (decodedMessages incoming) [], last challenges? (decodedMessages incoming) []⟩) ∧
    (∀ seed incoming, applyAll (ChallengeBrowser.ofChallenges seed) incoming =
      ⟨Group.ofChallenges seed, last rows? (decodedMessages incoming) []⟩) ∧
    (∀ (board : Scoreboard) (frame : Incoming),
      frame.apply (frame.apply board) = frame.apply board) ∧
    (∀ (browser : ChallengeBrowser) (frame : Incoming),
      frame.apply (frame.apply browser) = frame.apply browser) ∧
    (∀ (board : Scoreboard) first second,
      SameByKind (decodedMessages first) (decodedMessages second) →
      applyAll board first = applyAll board second) ∧
    (∀ (browser : ChallengeBrowser) first second,
      SameByKind (decodedMessages first) (decodedMessages second) →
      applyAll browser first = applyAll browser second) := by
  refine ⟨apply_all_scoreboard Scoreboard.empty, ?_, ?_, ?_, ?_, ?_⟩
  · intro seed incoming
    exact apply_all_browser (ChallengeBrowser.ofChallenges seed) incoming
  · intro board frame
    have twice := apply_all_scoreboard board [frame, frame]
    rw [decoded_messages_twice, last_append_self, last_append_self] at twice
    exact twice.trans (apply_all_scoreboard board [frame]).symm
  · intro browser frame
    have twice := apply_all_browser browser [frame, frame]
    rw [decoded_messages_twice, last_append_self] at twice
    exact twice.trans (apply_all_browser browser [frame]).symm
  · intro board first second same
    rw [apply_all_scoreboard, apply_all_scoreboard,
      last_of_same_by_kind teams? .teams teams?_of_other _ _ same,
      last_of_same_by_kind challenges? .challenges challenges?_of_other _ _ same]
  · intro browser first second same
    rw [apply_all_browser, apply_all_browser,
      last_of_same_by_kind rows? .rows rows?_of_other _ _ same]

/-- Teams and challenges may come in either order. -/
theorem view_shows_last_messages_swapped :
    applyAll (View.start : Scoreboard)
        [.text "\x7b\"msg\":\"teams\",\"values\":[[\"1\",\"a\"]]\x7d",
          .text "\x7b\"msg\":\"challenges\",\"values\":[[\"t\",\"n\"]]\x7d"] =
      applyAll (View.start : Scoreboard)
        [.text "\x7b\"msg\":\"challenges\",\"values\":[[\"t\",\"n\"]]\x7d",
          .text "\x7b\"msg\":\"teams\",\"values\":[[\"1\",\"a\"]]\x7d"] := by
  apply view_shows_last_messages.2.2.2.2.1
  intro kind
  cases kind <;> decide +kernel

end FlagBoard
