import FlagBoard.Feed.Live
import FlagBoard.Proofs.Feed.Batching
import Mathlib

/-!
A live view that is shown to subscribers. Its connection and its frames write to it in any order,
and after every write the subscribers are told of it or not; what they were shown last is never
behind the live view.
-/

namespace FlagBoard

variable {State : Type} [View State]

/-- One of the segments holds a message that the view takes, as the segments before it leave the
view. -/
def Replaces (view : State) (events : List (Except SegmentError Event)) : Prop :=
  ∃ before message after, events = before ++ .ok (.message message) :: after ∧
    (View.accept (applyEvents view before).1 message).isSome

theorem apply_event_changed_iff (view : State) (event : Except SegmentError Event) :
    (applyEvent (view, .empty) event).2.changed = true ↔
      ∃ message, event = .ok (.message message) ∧ (View.accept view message).isSome := by
  match event with
  | .ok (.message message) =>
      simp only [applyEvent, Except.ok.injEq, Event.message.injEq, exists_eq_left']
      cases View.accept view message <;> simp [FrameReport.changed, FrameReport.empty]
  | .ok (.unknown name) => simp [applyEvent, FrameReport.changed, FrameReport.empty]
  | .error error => simp [applyEvent, FrameReport.changed, FrameReport.empty]

theorem replaces_cons_iff (view : State) (event : Except SegmentError Event)
    (rest : List (Except SegmentError Event)) :
    Replaces view (event :: rest) ↔
      (∃ message, event = .ok (.message message) ∧ (View.accept view message).isSome) ∨
        Replaces (applyEvent (view, .empty) event).1 rest := by
  constructor
  · rintro ⟨before, message, after, same, taken⟩
    cases before with
    | nil =>
        obtain ⟨rfl, rfl⟩ := List.cons.inj same
        exact .inl ⟨message, rfl, taken⟩
    | cons first before =>
        obtain ⟨rfl, rfl⟩ := List.cons.inj same
        rw [apply_events_cons] at taken
        exact .inr ⟨before, message, after, rfl, taken⟩
  · rintro (⟨message, rfl, taken⟩ | ⟨before, message, after, rfl, taken⟩)
    · exact ⟨[], message, rest, rfl, taken⟩
    · refine ⟨event :: before, message, after, rfl, ?_⟩
      rw [apply_events_cons]
      exact taken

/-- A report tells of a change when a message was taken, and only then. -/
theorem apply_events_changed_iff (view : State) (events : List (Except SegmentError Event)) :
    (applyEvents view events).2.changed = true ↔ Replaces view events := by
  induction events generalizing view with
  | nil =>
      constructor
      · intro changed
        cases changed
      · rintro ⟨before, message, after, none, _⟩
        exact absurd none (by simp)
  | cons event rest induction =>
      rw [apply_events_cons, FrameReport.changed_append, Bool.or_eq_true, apply_event_changed_iff,
        induction, replaces_cons_iff]

namespace Live

/-- What writes to a live view: its connection, in whatever phase that is, or a frame. -/
inductive Write
  | status (connection : Connection)
  | text (frame : String)
  | bytes (frame : List UInt8)
  deriving DecidableEq, Repr

/-- The live view after a write, and whether subscribers are told of it. -/
def write (live : Live State) : Write → Live State × Bool
  | .status connection => live.publish connection
  | .text frame => live.applyFrame frame
  | .bytes frame => live.applyBytes frame

/-- What a write replaces: the status by one that differs, or a slice of the view. -/
def Write.Matters (live : Live State) : Write → Prop
  | .status connection => live.status ≠ connection.status
  | .text frame => Replaces live.view (decodeFrame frame)
  | .bytes frame => Replaces live.view (decodeBytes frame)

theorem apply_frame_eq (live : Live State) (frame : String) :
    live.applyFrame frame = (⟨(applyEvents live.view (decodeFrame frame)).1, live.status⟩,
      (applyEvents live.view (decodeFrame frame)).2.changed) := by
  rw [Live.applyFrame, FlagBoard.applyFrame]

theorem apply_bytes_eq (live : Live State) (frame : List UInt8) :
    live.applyBytes frame = (⟨(applyEvents live.view (decodeBytes frame)).1, live.status⟩,
      (applyEvents live.view (decodeBytes frame)).2.changed) := by
  rw [Live.applyBytes, FlagBoard.applyBytes]

theorem write_tells_iff (live : Live State) (write : Write) :
    (live.write write).2 = true ↔ write.Matters live := by
  cases write with
  | status connection =>
      simp only [Live.write, publish, Write.Matters]
      split <;> simp [*]
  | text frame =>
      simp only [Live.write, apply_frame_eq, Write.Matters]
      exact apply_events_changed_iff live.view (decodeFrame frame)
  | bytes frame =>
      simp only [Live.write, apply_bytes_eq, Write.Matters]
      exact apply_events_changed_iff live.view (decodeBytes frame)

/-- A write that nobody is told of leaves the live view as it is. -/
theorem write_untold (live : Live State) (write : Write)
    (untold : (live.write write).2 = false) : (live.write write).1 = live := by
  cases write with
  | status connection =>
      simp only [Live.write, publish] at untold ⊢
      split at untold
      · next same => rw [if_pos same]
      · cases untold
  | text frame =>
      simp only [Live.write, apply_frame_eq] at untold ⊢
      rw [apply_events_unchanged live.view (decodeFrame frame) untold]
  | bytes frame =>
      simp only [Live.write, apply_bytes_eq] at untold ⊢
      rw [apply_events_unchanged live.view (decodeBytes frame) untold]

theorem write_status (live : Live State) (connection : Connection) :
    (live.write (.status connection)).1 = ⟨live.view, connection.status⟩ := by
  simp only [write, publish]
  split
  · next same => rw [← same]
  · rfl

/-- A live view, the state of it that its subscribers were shown last, and of every write so far
whether they were told. -/
structure Observed (State : Type) where
  live : Live State
  shown : Live State
  told : List Bool

namespace Observed

/-- Subscribers that are told of a write are shown what it leaves. -/
def write (observed : Observed State) (write : Write) : Observed State :=
  let (live, tells) := observed.live.write write
  ⟨live, if tells then live else observed.shown, observed.told ++ [tells]⟩

theorem write_coherent (observed : Observed State) (write : Write)
    (coherent : observed.live = observed.shown) :
    (observed.write write).live = (observed.write write).shown := by
  cases tells : (observed.live.write write).2 with
  | true => simp [Observed.write, tells]
  | false =>
      have unchanged := write_untold observed.live write tells
      simpa only [Observed.write, tells, unchanged, Bool.false_eq_true, if_false] using coherent

end Observed

def observe (start : Live State) (writes : List Write) : Observed State :=
  writes.foldl Observed.write ⟨start, start, []⟩

theorem observe_snoc (start : Live State) (writes : List Write) (write : Write) :
    observe start (writes ++ [write]) = (observe start writes).write write := by
  rw [observe, List.foldl_append]
  rfl

theorem observe_coherent (start : Live State) (writes : List Write) :
    (observe start writes).live = (observe start writes).shown := by
  induction writes using List.reverseRecOn with
  | nil => rfl
  | append_singleton before write induction =>
      rw [observe_snoc]
      exact Observed.write_coherent _ write induction

theorem observe_told_length (start : Live State) (writes : List Write) :
    (observe start writes).told.length = writes.length := by
  induction writes using List.reverseRecOn with
  | nil => rfl
  | append_singleton before write induction =>
      rw [observe_snoc, List.length_append, ← induction]
      exact List.length_append

/-- What was told of a write stays told over all that follow. -/
theorem observe_told_prefix (start : Live State) (before after : List Write) :
    ∃ later, (observe start (before ++ after)).told = (observe start before).told ++ later := by
  induction after using List.reverseRecOn with
  | nil => exact ⟨[], by simp⟩
  | append_singleton middle write induction =>
      obtain ⟨later, told⟩ := induction
      refine ⟨later ++ [((observe start (before ++ middle)).live.write write).2], ?_⟩
      rw [← List.append_assoc, observe_snoc, ← List.append_assoc, ← told]
      rfl

theorem observe_told (start : Live State) (before : List Write) (write : Write)
    (after : List Write) :
    (observe start (before ++ write :: after)).told[before.length]? =
      some ((observe start before).live.write write).2 := by
  obtain ⟨later, told⟩ := observe_told_prefix start (before ++ [write]) after
  have step : (observe start (before ++ [write])).told =
      (observe start before).told ++ [((observe start before).live.write write).2] := by
    rw [observe_snoc]
    rfl
  rw [List.append_cons, told, step, List.append_assoc, ← observe_told_length start before,
    List.getElem?_append_right (Nat.le_refl _), Nat.sub_self]
  rfl

/-- Subscribers are told of a write when it replaces the status by another or a slice of the view,
and only then. After any writes the live view is what they were shown last, so no change is hidden
from them. A connection never touches the view, and a frame never touches the status. -/
theorem subscribers_are_told (start : Live State) (writes : List Write) :
    (observe start writes).live = (observe start writes).shown ∧
    (observe start writes).told.length = writes.length ∧
    ∀ before write after, writes = before ++ write :: after →
      let earlier := (observe start before).live
      let later := (observe start (before ++ [write])).live
      ((observe start writes).told[before.length]? = some true ↔ write.Matters earlier) ∧
      (¬ write.Matters earlier → later = earlier) ∧
      (∀ connection, write = .status connection → later = ⟨earlier.view, connection.status⟩) ∧
      (∀ frame, write = .text frame →
        later = ⟨(FlagBoard.applyFrame earlier.view frame).1, earlier.status⟩) ∧
      (∀ frame, write = .bytes frame →
        later = ⟨(FlagBoard.applyBytes earlier.view frame).1, earlier.status⟩) := by
  refine ⟨observe_coherent start writes, observe_told_length start writes, ?_⟩
  rintro before write after rfl
  have step : (observe start (before ++ [write])).live =
      ((observe start before).live.write write).1 := by
    rw [observe_snoc]
    rfl
  simp only [step, observe_told, Option.some.injEq, ← write_tells_iff]
  refine ⟨trivial, ?_, ?_, ?_, ?_⟩
  · intro untold
    exact write_untold _ write (Bool.eq_false_of_not_eq_true untold)
  · rintro connection rfl
    exact write_status _ connection
  · rintro frame rfl
    rfl
  · rintro frame rfl
    rfl

/-- Of a second look at a connection that is being opened nobody is told, and of a frame of teams
after it subscribers are. -/
theorem subscribers_are_told_of_teams :
    let connection := ((Connection.new "" 0).step .start).1
    let told := (observe (ofView Scoreboard.empty) [.status connection, .status connection,
      .text "\x7b\"msg\":\"teams\",\"values\":[]\x7d"]).told
    told[1]? ≠ some true ∧ told[2]? = some true := by
  intro connection
  -- As a variable the frame is not taken apart where only its place counts.
  generalize frame : "\x7b\"msg\":\"teams\",\"values\":[]\x7d" = text
  have all := (subscribers_are_told (ofView Scoreboard.empty) [.status connection,
    .status connection, .text text]).2.2
  have second := (all [.status connection] (.status connection) [.text text] rfl).1
  have third := (all [.status connection, .status connection] (.text text) [] rfl).1
  refine ⟨fun told => second.mp told rfl, third.mpr ?_⟩
  have decoded : decodeFrame text = [.ok (.message (.teams []))] := by
    rw [← frame]
    cbv
  rw [Write.Matters, decoded]
  exact ⟨[], _, [], rfl, rfl⟩

end Live

end FlagBoard
