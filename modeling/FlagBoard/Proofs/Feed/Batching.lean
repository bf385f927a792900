import FlagBoard.Proofs.Feed.LastMessage
import FlagBoard.Proofs.Feed.Lines
import Mathlib

/-!
Frames as batches of segments. What the segments of a frame do to a view, and what is reported of
them, depends on their order alone and not on the frames they come in.
-/

namespace FlagBoard

attribute [ext] FrameReport

namespace FrameReport

def append (first second : FrameReport) : FrameReport :=
  ⟨first.applied ++ second.applied, first.unknown ++ second.unknown, first.errors ++ second.errors⟩

instance : Append FrameReport := ⟨append⟩

@[simp] theorem applied_append (first second : FrameReport) :
    (first ++ second).applied = first.applied ++ second.applied := rfl

@[simp] theorem unknown_append (first second : FrameReport) :
    (first ++ second).unknown = first.unknown ++ second.unknown := rfl

@[simp] theorem errors_append (first second : FrameReport) :
    (first ++ second).errors = first.errors ++ second.errors := rfl

@[simp] theorem empty_append (report : FrameReport) : empty ++ report = report := rfl

@[simp] theorem append_empty (report : FrameReport) : report ++ empty = report :=
  FrameReport.ext (List.append_nil _) (List.append_nil _) (List.append_nil _)

theorem append_assoc (first second third : FrameReport) :
    first ++ second ++ third = first ++ (second ++ third) :=
  FrameReport.ext (List.append_assoc _ _ _) (List.append_assoc _ _ _) (List.append_assoc _ _ _)

theorem changed_append (first second : FrameReport) :
    (first ++ second).changed = (first.changed || second.changed) := by
  simp only [changed, applied_append]
  cases first.applied <;> rfl

end FrameReport

variable {State : Type} [View State]

/-- A segment acts on the view alone; what was reported before it is kept in front. -/
theorem apply_event_report (view : State) (report : FrameReport)
    (event : Except SegmentError Event) :
    applyEvent (view, report) event =
      ((applyEvent (view, .empty) event).1, report ++ (applyEvent (view, .empty) event).2) := by
  match event with
  | .ok (.message message) =>
      simp only [applyEvent]
      cases View.accept view message with
      | none => rw [FrameReport.append_empty]
      | some changed =>
          exact congrArg (Prod.mk changed)
            (FrameReport.ext rfl (List.append_nil _).symm (List.append_nil _).symm)
  | .ok (.unknown name) =>
      exact congrArg (Prod.mk view)
        (FrameReport.ext (List.append_nil _).symm rfl (List.append_nil _).symm)
  | .error error =>
      exact congrArg (Prod.mk view)
        (FrameReport.ext (List.append_nil _).symm (List.append_nil _).symm rfl)

theorem fold_events_report (view : State) (report : FrameReport)
    (events : List (Except SegmentError Event)) :
    events.foldl applyEvent (view, report) =
      ((applyEvents view events).1, report ++ (applyEvents view events).2) := by
  induction events generalizing view report with
  | nil => exact (congrArg (Prod.mk view) (FrameReport.append_empty report)).symm
  | cons event rest induction =>
      rw [applyEvents, List.foldl_cons, List.foldl_cons, apply_event_report, induction,
        induction _ (applyEvent (view, .empty) event).2, FrameReport.append_assoc]

/-- Of two runs of segments, the second acts on the view that the first has left. -/
theorem apply_events_append (view : State) (first second : List (Except SegmentError Event)) :
    applyEvents view (first ++ second) =
      ((applyEvents (applyEvents view first).1 second).1,
        (applyEvents view first).2 ++ (applyEvents (applyEvents view first).1 second).2) := by
  have later := fold_events_report (applyEvents view first).1 (applyEvents view first).2 second
  rw [applyEvents, List.foldl_append]
  exact later

theorem apply_events_cons (view : State) (event : Except SegmentError Event)
    (rest : List (Except SegmentError Event)) :
    applyEvents view (event :: rest) =
      ((applyEvents (applyEvent (view, .empty) event).1 rest).1,
        (applyEvent (view, .empty) event).2 ++
          (applyEvents (applyEvent (view, .empty) event).1 rest).2) :=
  apply_events_append view [event] rest

theorem apply_event_unchanged (view : State) (event : Except SegmentError Event)
    (unchanged : (applyEvent (view, .empty) event).2.changed = false) :
    (applyEvent (view, .empty) event).1 = view := by
  match event with
  | .ok (.message message) =>
      simp only [applyEvent] at unchanged ⊢
      cases taken : View.accept view message with
      | none => rfl
      | some changed => simp [taken, FrameReport.empty, FrameReport.changed] at unchanged
  | .ok (.unknown name) => rfl
  | .error error => rfl

/-- A view stays as it is under segments of which none was taken. -/
theorem apply_events_unchanged (view : State) (events : List (Except SegmentError Event))
    (unchanged : (applyEvents view events).2.changed = false) :
    (applyEvents view events).1 = view := by
  induction events generalizing view with
  | nil => rfl
  | cons event rest induction =>
      rw [apply_events_cons, FrameReport.changed_append, Bool.or_eq_false_iff] at unchanged
      have first := apply_event_unchanged view event unchanged.1
      have later := induction _ unchanged.2
      rw [apply_events_cons, later, first]

def Incoming.result (view : State) : Incoming → State × FrameReport
  | .text frame => applyFrame view frame
  | .bytes frame => applyBytes view frame
  | .other => (view, .empty)

/-- The view after incoming messages in order, and their reports one after the other. -/
def applyEach (view : State) : List Incoming → State × FrameReport
  | [] => (view, .empty)
  | first :: rest =>
      let (next, report) := first.result view
      let (final, later) := applyEach next rest
      (final, report ++ later)

theorem Incoming.result_eq (view : State) (incoming : Incoming) :
    incoming.result view = applyEvents view incoming.events := by
  cases incoming <;> rfl

theorem Incoming.result_view (view : State) (incoming : Incoming) :
    (incoming.result view).1 = incoming.apply view := by
  cases incoming <;> rfl

theorem Incoming.result_unchanged (view : State) (incoming : Incoming)
    (unchanged : (incoming.result view).2.changed = false) : (incoming.result view).1 = view := by
  rw [Incoming.result_eq] at unchanged ⊢
  exact apply_events_unchanged view incoming.events unchanged

/-- The messages that segments come in make no difference. -/
theorem apply_each_eq (view : State) (incoming : List Incoming) :
    applyEach view incoming = applyEvents view (incoming.flatMap Incoming.events) := by
  induction incoming generalizing view with
  | nil => rfl
  | cons first rest induction =>
      rw [applyEach, List.flatMap_cons, apply_events_append, Incoming.result_eq]
      simp only [induction]

theorem decode_frame_append (first second : String) :
    decodeFrame (first ++ "\n" ++ second) = decodeFrame first ++ decodeFrame second := by
  have whole : (first ++ "\n" ++ second).toList = first.toList ++ '\n' :: second.toList := by
    simp
  simp only [decodeFrame, splitFrame, whole, segments_append, List.map_append]

theorem decode_frame_intercalate (frames : List String) :
    decodeFrame ("\n".intercalate frames) = frames.flatMap decodeFrame := by
  rw [decodeFrame, splitFrame, segments_joined, List.map_flatMap, List.map_flatMap]
  rfl

theorem texts_events (frames : List String) :
    (frames.map Incoming.text).flatMap Incoming.events = frames.flatMap decodeFrame :=
  List.flatMap_map _ _ _

/-- Where frames begin and end makes no difference. Two texts that come as one frame leave the view
that they leave one after the other, with their reports put together; and however a stream of
segments is cut into frames, the view and the report are those of the stream in one frame. -/
theorem frames_cut_anywhere (view : State) :
    (∀ first second : String,
      let earlier := applyFrame view first
      let later := applyFrame earlier.1 second
      let whole := applyFrame view (first ++ "\n" ++ second)
      whole.1 = later.1 ∧
        whole.2.applied = earlier.2.applied ++ later.2.applied ∧
        whole.2.unknown = earlier.2.unknown ++ later.2.unknown ∧
        whole.2.errors = earlier.2.errors ++ later.2.errors ∧
        whole.2.errors.map SegmentError.message =
          earlier.2.errors.map SegmentError.message ++ later.2.errors.map SegmentError.message ∧
        whole.2.changed = (earlier.2.changed || later.2.changed)) ∧
    (∀ frames : List String,
      applyEach view (frames.map .text) = applyFrame view ("\n".intercalate frames)) ∧
    (∀ cut : List (List String),
      applyEach view (cut.map fun frame => .text ("\n".intercalate frame)) =
        applyFrame view ("\n".intercalate cut.flatten)) := by
  refine ⟨?_, ?_, ?_⟩
  · intro first second
    have whole : applyFrame view (first ++ "\n" ++ second) =
        ((applyFrame (applyFrame view first).1 second).1,
          (applyFrame view first).2 ++ (applyFrame (applyFrame view first).1 second).2) := by
      rw [applyFrame, decode_frame_append, apply_events_append]
      rfl
    simp only [whole, FrameReport.applied_append, FrameReport.unknown_append,
      FrameReport.errors_append, List.map_append, FrameReport.changed_append, and_self]
  · intro frames
    rw [apply_each_eq, texts_events, applyFrame, decode_frame_intercalate]
  · intro cut
    have texts : (cut.map fun frame => Incoming.text ("\n".intercalate frame)) =
        (cut.map "\n".intercalate).map .text := by
      rw [List.map_map]
      rfl
    rw [texts, apply_each_eq, texts_events, applyFrame, decode_frame_intercalate,
      List.flatMap_map, List.flatten_eq_flatMap, List.flatMap_assoc]
    simp only [decode_frame_intercalate, id]

end FlagBoard
