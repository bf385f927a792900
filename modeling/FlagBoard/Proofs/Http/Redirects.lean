import FlagBoard.Http.Redirect
import Mathlib

/-!
The requests that are made for one. Each but the first takes the place of the one before it, as the
reply to that has it, and the reply that counts is the one to the last. There are no more of them
than redirects are allowed, and none tells a host more than the first one did.
-/

namespace FlagBoard.Http

/-- A request tells no more than an earlier one: it carries the same body to the same end, or is for
a page, and has the same cookie or none. -/
structure Request.Relays (earlier later : Request) : Prop where
  body : later.method = earlier.method ∧ later.body = earlier.body ∨
    later.method = .get ∧ later.body = none
  cookie : later.cookie = earlier.cookie ∨ later.cookie = none

namespace Request

theorem relays_refl (request : Request) : request.Relays request := ⟨.inl ⟨rfl, rfl⟩, .inl rfl⟩

theorem relays_redirected (request : Request) (redirect : Redirect) :
    request.Relays (request.redirected redirect) := by
  constructor
  · cases again : redirect.repeats <;> simp [redirected, again]
  · simp only [redirected]
    split <;> simp

theorem Relays.trans {first second third : Request} (one : first.Relays second)
    (other : second.Relays third) : first.Relays third := by
  constructor
  · rcases other.body with ⟨method, body⟩ | page
    · rw [method, body]
      exact one.body
    · exact .inr page
  · rcases other.cookie with cookie | none
    · rw [cookie]
      exact one.cookie
    · exact .inr none

end Request

namespace Network

variable (network : Network)

/-- A request is answered by a redirect, and another one is made in its place. -/
def Leads (earlier later : Request) : Prop :=
  ∃ response redirect, network earlier = some ⟨response, some redirect⟩ ∧
    later = earlier.redirected redirect

/-- What was asked for one request, with redirects left, and what came of it. -/
structure Follows (left : Nat) (request : Request)
    (outcome : List Request × Except TransportFault Response) : Prop where
  first : outcome.1.head? = some request
  few : outcome.1.length ≤ left + 1
  chain : outcome.1.IsChain network.Leads
  relays : ∀ later ∈ outcome.1, request.Relays later
  answer : ∀ response, outcome.2 = .ok response →
    ∃ last redirect, outcome.1.getLast? = some last ∧ network last = some ⟨response, redirect⟩

theorem follows_alone (left : Nat) (request : Request)
    (result : Except TransportFault Response)
    (answer : ∀ response, result = .ok response →
      ∃ redirect, network request = some ⟨response, redirect⟩) :
    network.Follows left request ([request], result) := by
  refine ⟨rfl, by simp, List.isChain_singleton _, ?_, ?_⟩
  · intro later member
    rw [List.mem_singleton.mp member]
    exact request.relays_refl
  · intro response got
    obtain ⟨redirect, answered⟩ := answer response got
    exact ⟨request, redirect, rfl, answered⟩

theorem follows_failed (left : Nat) (request : Request) (fault : TransportFault) :
    network.Follows left request ([request], .error fault) := by
  apply network.follows_alone
  intro response got
  cases got

theorem follows_answered {network : Network} (left : Nat) {request : Request}
    {response : Response} {redirect : Option Redirect}
    (answered : network request = some ⟨response, redirect⟩) :
    network.Follows left request ([request], .ok response) := by
  apply network.follows_alone
  intro other got
  cases got
  exact ⟨redirect, answered⟩

/-- One more redirect comes before what was asked for the request that it leads to. -/
theorem Follows.cons {network : Network} {left : Nat} {earlier later : Request}
    {outcome : List Request × Except TransportFault Response}
    (follows : network.Follows left later outcome) (leads : network.Leads earlier later) :
    network.Follows (left + 1) earlier (earlier :: outcome.1, outcome.2) := by
  obtain ⟨more, sent⟩ : ∃ more, outcome.1 = later :: more := by
    have first := follows.first
    cases asked : outcome.1 with
    | nil => simp [asked] at first
    | cons request more =>
        rw [asked] at first
        cases first
        exact ⟨more, rfl⟩
  refine ⟨rfl, ?_, ?_, ?_, ?_⟩
  · have few := follows.few
    rw [List.length_cons]
    omega
  · have chain := follows.chain
    dsimp only
    rw [sent] at chain ⊢
    exact List.isChain_cons_cons.mpr ⟨leads, chain⟩
  · intro other member
    rcases List.mem_cons.mp member with rfl | member
    · exact other.relays_refl
    · obtain ⟨_, redirect, _, rfl⟩ := leads
      exact (earlier.relays_redirected redirect).trans (follows.relays other member)
  · intro response got
    obtain ⟨last, redirect, final, answered⟩ := follows.answer response got
    refine ⟨last, redirect, ?_, answered⟩
    dsimp only
    rw [sent] at final ⊢
    rw [List.getLast?_cons_cons]
    exact final

theorem follow_follows (left : Nat) (request : Request) :
    network.Follows left request (network.follow left request) := by
  induction left generalizing request with
  | zero =>
      unfold follow
      split
      · exact network.follows_failed 0 request _
      next answered => exact follows_answered 0 answered
      next answered =>
        split
        · exact follows_answered 0 answered
        · exact network.follows_failed 0 request _
  | succ left induction =>
      unfold follow
      split
      · exact network.follows_failed _ request _
      next answered => exact follows_answered _ answered
      next response redirect answered =>
        split
        · exact follows_answered _ answered
        · dsimp only
          split
          · exact (induction _).cons ⟨response, redirect, answered, rfl⟩
          · exact network.follows_failed _ request _

/-- Without redirects each request is made once. -/
theorem trail_direct (direct : ∀ request answer, network request = some answer →
    answer.redirect = none) (request : Request) : network.trail request = [request] := by
  have follows := network.follow_follows mostRedirects request
  rw [trail]
  cases sent : (network.follow mostRedirects request).1 with
  | nil =>
      have first := follows.first
      rw [sent] at first
      cases first
  | cons earlier more =>
      have first := follows.first
      rw [sent] at first
      cases first
      cases more with
      | nil => rfl
      | cons later rest =>
          have chain := follows.chain
          rw [sent] at chain
          obtain ⟨response, redirect, answered, _⟩ := (List.isChain_cons_cons.mp chain).1
          have none := direct request _ answered
          cases none

end Network

end FlagBoard.Http
