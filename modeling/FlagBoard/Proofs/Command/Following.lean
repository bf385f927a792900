import FlagBoard.Command.Run
import Mathlib

/-!
A watch as a command runs it. It is the watch of the feed, unless a view that is handed on cannot be
printed: the command is broken off there, and the events behind are not met.
-/

namespace FlagBoard.Command

section Following

variable {State : Type} [Render State]

def isPrintable (view : State) : Bool := (Render.render view).isSome

theorem printed_length_lt_iff (views : List State) :
    (views.filterMap Render.render).length < views.length ↔ views.all isPrintable = false := by
  induction views with
  | nil => simp
  | cons view views induction =>
      have most := List.length_filterMap_le Render.render views
      cases printed : Render.render view with
      | none =>
          rw [List.filterMap_cons_none printed, List.all_cons, isPrintable, printed]
          simp only [Option.isSome_none, Bool.false_and, iff_true]
          exact Nat.lt_succ_of_le most
      | some text =>
          rw [List.filterMap_cons_some printed, List.all_cons, isPrintable, printed]
          simp only [List.length_cons, Nat.add_lt_add_iff_right, Option.isSome_some, Bool.true_and]
          exact induction

variable [View State]

theorem watch_on_runs (once : Bool) (events : List WatchEvent) (watch : Watch State) :
    ∃ met rest, events = met ++ rest ∧
      watchOn once watch events = met.foldl (Watch.step once) watch ∧
      (rest = [] ∨ (watchOn once watch events).shown.all isPrintable = false) := by
  induction events generalizing watch with
  | nil => exact ⟨[], [], rfl, rfl, .inl rfl⟩
  | cons event events induction =>
      unfold watchOn
      dsimp only
      split_ifs with printed
      · obtain ⟨met, rest, rfl, same, stops⟩ := induction (watch.step once event)
        exact ⟨event :: met, rest, rfl, same, stops⟩
      · exact ⟨[event], events, rfl, rfl, .inr (Bool.eq_false_of_not_eq_true printed)⟩

/-- A watch that can begin is followed as far as its views can be printed, and says one line for
each of them. -/
theorem follow_runs (world : World) (arguments : Arguments) (endpoint : Endpoint) (once : Bool)
    {url : String} {request : Handshake} (page : streamUrl arguments.baseUrl endpoint = .ok url)
    (requested : Handshake.ofUrl url arguments.session = .ok request) :
    ∃ met rest, world.events = met ++ rest ∧
      let watch : Watch State := Watch.run url arguments.delay once met
      let report := follow State world arguments endpoint once
      report.failure = none ∧ report.connections = watch.attempts ∧
        report.output = String.join ((watch.shown.filterMap Render.render).map line) ∧
        (report.broken = true ↔ watch.shown.all isPrintable = false) ∧
        (report.broken = false → rest = [] ∧ report.ended = watch.finished) := by
  obtain ⟨met, rest, split, runs, stops⟩ := watch_on_runs once world.events
    (Watch.run url arguments.delay once [] : Watch State)
  have begun : (Watch.ofUrl url arguments.session arguments.delay once [] :
      Except Failure (Watch State)) = .ok (Watch.run url arguments.delay once []) := by
    rw [Watch.ofUrl, requested]
  have same : watchOn once (Watch.run url arguments.delay once []) world.events =
      (Watch.run url arguments.delay once met : Watch State) := runs
  rw [same] at stops
  refine ⟨met, rest, split, ?_⟩
  dsimp only
  unfold follow
  simp only [page, begun, same, printed_length_lt_iff, decide_eq_true_iff, decide_eq_false_iff_not,
    true_and]
  constructor
  · rfl
  · intro whole
    exact ⟨stops.resolve_right whole, by rw [decide_eq_false whole, Bool.or_false]⟩

end Following

end FlagBoard.Command
