import FlagBoard.Proofs.Feed.Batching
import Mathlib

/-!
Segments that a view takes nothing from. They may stand anywhere among others without any effect but
on the lists that they are reported in, and every segment of a frame is accounted for once.
-/

namespace FlagBoard

/-- A view that takes messages by their kind alone, whatever state it is in. -/
class SelectiveView (State : Type) extends View State where
  takes : Kind → Bool
  accept_isSome : ∀ (view : State) (message : Message),
    (View.accept view message).isSome = takes message.kind

def Scoreboard.takes : Kind → Bool
  | .teams => true
  | .challenges => true
  | .rows => false

instance : SelectiveView Scoreboard where
  takes := Scoreboard.takes
  accept_isSome _ message := by cases message <;> rfl

def ChallengeBrowser.takes : Kind → Bool
  | .teams => false
  | .challenges => false
  | .rows => true

instance : SelectiveView ChallengeBrowser where
  takes := ChallengeBrowser.takes
  accept_isSome _ message := by cases message <;> rfl

/-- A list is woven from two if it holds the items of both and keeps the order of each. -/
inductive Woven {Item : Type} : List Item → List Item → List Item → Prop
  | nil : Woven [] [] []
  | keep (item : Item) {kept inserted whole : List Item} (rest : Woven kept inserted whole) :
      Woven (item :: kept) inserted (item :: whole)
  | insert (item : Item) {kept inserted whole : List Item} (rest : Woven kept inserted whole) :
      Woven kept (item :: inserted) (item :: whole)

namespace Woven

variable {Item Result : Type} {kept inserted whole : List Item}

theorem filterMap (woven : Woven kept inserted whole) (pick : Item → Option Result) :
    Woven (kept.filterMap pick) (inserted.filterMap pick) (whole.filterMap pick) := by
  induction woven with
  | nil => exact .nil
  | keep item rest induction =>
      cases picked : pick item with
      | none => simpa only [List.filterMap_cons_none picked] using induction
      | some result => simpa only [List.filterMap_cons_some picked] using induction.keep result
  | insert item rest induction =>
      cases picked : pick item with
      | none => simpa only [List.filterMap_cons_none picked] using induction
      | some result => simpa only [List.filterMap_cons_some picked] using induction.insert result

theorem map (woven : Woven kept inserted whole) (f : Item → Result) :
    Woven (kept.map f) (inserted.map f) (whole.map f) := by
  simpa only [List.filterMap_eq_map'] using woven.filterMap fun item => some (f item)

theorem eq_of_nil (woven : Woven kept [] whole) : whole = kept := by
  generalize nothing : ([] : List Item) = inserted at woven
  induction woven with
  | nil => rfl
  | keep item rest induction => rw [induction nothing]
  | insert item rest induction => cases nothing

end Woven

def unknownName : Except SegmentError Event → Option String
  | .ok (.unknown name) => some name
  | .ok (.message _) => none
  | .error _ => none

def refusal : Except SegmentError Event → Option SegmentError
  | .error error => some error
  | .ok _ => none

section Selective

variable (State : Type) [SelectiveView State]

def takenKind : Except SegmentError Event → Option Kind
  | .ok (.message message) =>
      if SelectiveView.takes State message.kind then some message.kind else none
  | .ok (.unknown _) => none
  | .error _ => none

def isIgnored : Except SegmentError Event → Bool
  | .ok (.message message) => !SelectiveView.takes State message.kind
  | .ok (.unknown _) => false
  | .error _ => false

/-- A segment that a view takes nothing from: it is refused, it is of a kind that is not known, or it
holds a message that the view ignores in every state. -/
def Harmless (segment : String) : Prop :=
  (∃ error, decodeSegment segment = .error error) ∨
  (∃ name, decodeSegment segment = .ok (.unknown name)) ∨
  ∃ message, decodeSegment segment = .ok (.message message) ∧
    ∀ view : State, View.accept view message = none

/-- Every segment is taken, unknown, refused or ignored, and only one of these. -/
theorem length_eq_lists (events : List (Except SegmentError Event)) :
    events.length = (events.filterMap (takenKind State)).length +
      (events.filterMap unknownName).length + (events.filterMap refusal).length +
      events.countP (isIgnored State) := by
  induction events with
  | nil => rfl
  | cons event rest induction =>
      match event with
      | .ok (.message message) =>
          cases takes : SelectiveView.takes State message.kind <;>
            simp [List.filterMap_cons, takenKind, unknownName, refusal, isIgnored, takes,
              induction] <;>
            omega
      | .ok (.unknown name) =>
          simp [List.filterMap_cons, takenKind, unknownName, refusal, isIgnored, induction]
          omega
      | .error error =>
          simp [List.filterMap_cons, takenKind, unknownName, refusal, isIgnored, induction]
          omega

variable {State}

theorem apply_event_adds (view : State) (event : Except SegmentError Event) :
    (applyEvent (view, .empty) event).2 =
      ⟨(takenKind State event).toList, (unknownName event).toList, (refusal event).toList⟩ := by
  match event with
  | .ok (.message message) =>
      have accepts := SelectiveView.accept_isSome view message
      cases taken : View.accept view message with
      | none =>
          have ignored : SelectiveView.takes State message.kind = false := by simp [← accepts, taken]
          simp [applyEvent, taken, takenKind, ignored, unknownName, refusal, FrameReport.empty]
      | some changed =>
          have taking : SelectiveView.takes State message.kind = true := by simp [← accepts, taken]
          simp [applyEvent, taken, takenKind, taking, unknownName, refusal, FrameReport.empty]
  | .ok (.unknown name) => rfl
  | .error error => rfl

theorem apply_event_untaken (view : State) (event : Except SegmentError Event)
    (untaken : takenKind State event = none) : (applyEvent (view, .empty) event).1 = view := by
  apply apply_event_unchanged
  rw [apply_event_adds, untaken]
  rfl

/-- The report of segments is read off them one by one, in order. -/
theorem apply_events_lists (view : State) (events : List (Except SegmentError Event)) :
    (applyEvents view events).2 =
      ⟨events.filterMap (takenKind State), events.filterMap unknownName,
        events.filterMap refusal⟩ := by
  induction events generalizing view with
  | nil => rfl
  | cons event rest induction =>
      have next {Item : Type} (pick : Except SegmentError Event → Option Item) :
          (pick event).toList ++ rest.filterMap pick = (event :: rest).filterMap pick := by
        cases picked : pick event <;> simp [picked]
      rw [apply_events_cons, induction, apply_event_adds]
      exact FrameReport.ext (next _) (next _) (next _)

/-- Segments that nothing is taken from leave no trace in the view, wherever they stand. -/
theorem apply_events_woven (view : State) {kept inserted whole : List (Except SegmentError Event)}
    (woven : Woven kept inserted whole)
    (untaken : ∀ event ∈ inserted, takenKind State event = none) :
    (applyEvents view whole).1 = (applyEvents view kept).1 := by
  induction woven generalizing view with
  | nil => rfl
  | keep event rest induction =>
      rw [apply_events_cons, apply_events_cons view event, induction _ untaken]
  | insert event rest induction =>
      rw [List.forall_mem_cons] at untaken
      rw [apply_events_cons, apply_event_untaken view event untaken.1, induction _ untaken.2]

theorem taken_kind_of_harmless (segment : String) (harmless : Harmless State segment) :
    takenKind State (decodeSegment segment) = none := by
  obtain ⟨error, decoded⟩ | ⟨name, decoded⟩ | ⟨message, decoded, ignored⟩ := harmless
  · rw [decoded, takenKind]
  · rw [decoded, takenKind]
  · have untaken := SelectiveView.accept_isSome (View.start : State) message
    rw [ignored View.start] at untaken
    rw [decoded, takenKind, ← untaken]
    rfl

/-- Bad segments are set apart. Refused, unknown and ignored segments may be put anywhere among
others: the view and the kinds taken stay the same, and the lists of unknown names and of refusals
gain those of the segments put in. Every segment of a frame is on one list of its report or ignored,
and where nothing is taken the view stays as it is. -/
theorem bad_segments_are_set_apart (view : State) :
    (∀ (plain whole : String) (inserted : List String),
      Woven (splitFrame plain) inserted (splitFrame whole) →
      (∀ segment ∈ inserted, Harmless State segment) →
      let before := applyFrame view plain
      let after := applyFrame view whole
      after.1 = before.1 ∧ after.2.applied = before.2.applied ∧
        after.2.changed = before.2.changed ∧
        Woven before.2.unknown
          (inserted.filterMap fun segment => unknownName (decodeSegment segment))
          after.2.unknown ∧
        Woven before.2.errors
          (inserted.filterMap fun segment => refusal (decodeSegment segment))
          after.2.errors) ∧
    (∀ segments : List String, (∀ segment ∈ segments, ∃ frame, segment ∈ splitFrame frame) →
      splitFrame ("\n".intercalate segments) = segments) ∧
    (∀ frame : String,
      let result := applyFrame view frame
      result.2.applied = (decodeFrame frame).filterMap (takenKind State) ∧
        result.2.unknown = (decodeFrame frame).filterMap unknownName ∧
        result.2.errors = (decodeFrame frame).filterMap refusal ∧
        (splitFrame frame).length =
          result.2.applied.length + result.2.unknown.length + result.2.errors.length +
            (decodeFrame frame).countP (isIgnored State) ∧
        (result.2.changed = false → result.1 = view)) := by
  refine ⟨?_, ?_, ?_⟩
  · intro plain whole inserted woven harmless
    have decoded : Woven (decodeFrame plain) (inserted.map decodeSegment) (decodeFrame whole) :=
      woven.map decodeSegment
    -- No segment put in is taken, so none of them moves the view or adds a kind.
    have untaken : ∀ event ∈ inserted.map decodeSegment, takenKind State event = none := by
      rw [List.forall_mem_map]
      exact fun segment member => taken_kind_of_harmless segment (harmless segment member)
    have applied : (decodeFrame whole).filterMap (takenKind State) =
        (decodeFrame plain).filterMap (takenKind State) := by
      have kinds := decoded.filterMap (takenKind State)
      rw [List.filterMap_eq_nil_iff.mpr untaken] at kinds
      exact kinds.eq_of_nil
    have unknown := decoded.filterMap unknownName
    have errors := decoded.filterMap refusal
    rw [List.filterMap_map] at unknown errors
    simp only [applyFrame, FrameReport.changed, apply_events_lists, applied, true_and]
    exact ⟨apply_events_woven view decoded untaken, unknown, errors⟩
  · intro segments written
    exact split_frame_intercalate segments written
  · intro frame
    have lists := apply_events_lists view (decodeFrame frame)
    have length := length_eq_lists State (decodeFrame frame)
    rw [decodeFrame, List.length_map] at length
    simp only [applyFrame, lists, true_and]
    refine ⟨length, fun unchanged => ?_⟩
    exact apply_events_unchanged view (decodeFrame frame) (by rw [lists]; exact unchanged)

/-- A team is taken over from between a segment that is cut short, one of an unknown kind and live
rows, which a scoreboard ignores. -/
theorem bad_segments_are_set_apart_around_team :
    (applyFrame Scoreboard.empty ("\x7b\"msg\":\n\x7b\"msg\":\"teams\",\"values\":" ++
      "[[\"1\",\"a\"]]\x7d\n\x7b\"msg\":\"x\"\x7d\n" ++
      "\x7b\"msg\":\"challengesFrontend\",\"values\":[]\x7d")).1 =
      (applyFrame Scoreboard.empty "\x7b\"msg\":\"teams\",\"values\":[[\"1\",\"a\"]]\x7d").1 := by
  refine ((bad_segments_are_set_apart Scoreboard.empty).1 _ _
    ["\x7b\"msg\":", "\x7b\"msg\":\"x\"\x7d",
      "\x7b\"msg\":\"challengesFrontend\",\"values\":[]\x7d"] ?_ ?_).1
  · have plain : splitFrame "\x7b\"msg\":\"teams\",\"values\":[[\"1\",\"a\"]]\x7d" =
        ["\x7b\"msg\":\"teams\",\"values\":[[\"1\",\"a\"]]\x7d"] := by decide +kernel
    have whole : splitFrame ("\x7b\"msg\":\n\x7b\"msg\":\"teams\",\"values\":" ++
        "[[\"1\",\"a\"]]\x7d\n\x7b\"msg\":\"x\"\x7d\n" ++
        "\x7b\"msg\":\"challengesFrontend\",\"values\":[]\x7d") =
        ["\x7b\"msg\":", "\x7b\"msg\":\"teams\",\"values\":[[\"1\",\"a\"]]\x7d",
          "\x7b\"msg\":\"x\"\x7d",
          "\x7b\"msg\":\"challengesFrontend\",\"values\":[]\x7d"] := by decide +kernel
    rw [plain, whole]
    exact .insert _ (.keep _ (.insert _ (.insert _ .nil)))
  · simp only [List.forall_mem_cons]
    refine ⟨.inl ⟨_, by cbv⟩, .inr (.inl ⟨_, by cbv⟩), .inr (.inr ⟨.rows [], by cbv, ?_⟩), by simp⟩
    exact fun _ => rfl

end Selective

end FlagBoard
