import FlagBoard.Proofs.Feed.Origin
import FlagBoard.Proofs.Http.Routes
import Mathlib

/-!
Pages without a host. A feed is only refused where there is no authority at all, so that somebody who
asks or the number of a service are enough for one; the calls to such a page go nowhere.
-/

namespace FlagBoard

/-- An authority without a host: somebody who asks, up to the last `@`, and the number of a service,
from a colon on. Either may be missing. -/
def Hostless (authority : List Char) : Prop :=
  ∃ user service, authority = user ++ service ∧ (user = [] ∨ user.getLast? = some '@') ∧
    (service = [] ∨ service.head? = some ':') ∧ '@' ∉ service

/-- The address of a feed with a host in it. -/
def NamesHost (endpoint : Endpoint) (url : String) : Prop :=
  ∃ secure authority, url = feedUrl secure authority endpoint ∧ ¬ Hostless authority

section Hosts

variable {authority : List Char}

theorem hostless_eq_nil_iff (hostless : Hostless authority) :
    authority = [] ↔ '@' ∉ authority ∧ ':' ∉ authority := by
  obtain ⟨user, service, rfl, asks, number, _⟩ := hostless
  constructor
  · intro nothing
    rw [nothing]
    simp
  · rintro ⟨noUser, noNumber⟩
    rw [List.mem_append, not_or] at noUser noNumber
    have unasked : user = [] := by
      rcases asks with nobody | last
      · exact nobody
      · exact absurd (List.mem_of_getLast? last) noUser.1
    have unnumbered : service = [] := by
      rcases number with none | first
      · exact none
      · exact absurd (List.mem_of_head? first) noNumber.2
    rw [unasked, unnumbered, List.append_nil]

/-- What is left behind the user of an authority without a host. -/
theorem behind_user {user service : List Char} (asks : user = [] ∨ user.getLast? = some '@')
    (apart : '@' ∉ service) : (user ++ service).rtakeWhile (· != '@') = service := by
  have whole : service.rtakeWhile (· != '@') = service :=
    List.rtakeWhile_eq_self_iff.mpr (passes_absent apart)
  rcases asks with rfl | last
  · exact whole
  · obtain ⟨before, rfl⟩ := List.getLast?_eq_some_iff.mp last
    rw [List.append_assoc, List.singleton_append, Http.rtake_while_behind, whole]

theorem read_host_nil : Http.readHost [] = none := by rfl

/-- Nothing is asked of an authority without a host. -/
theorem read_authority_hostless (hostless : Hostless authority) (usual : Nat) :
    Http.Address.readAuthority usual authority = none := by
  obtain ⟨user, service, rfl, asks, number, apart⟩ := hostless
  -- What is left behind the user starts with the colon, if there is anything at all.
  have nobody : (Http.Address.splitService false service).1 = [] := by
    cases service with
    | nil => rfl
    | cons c rest =>
        obtain rfl : c = ':' := by simpa using number
        rfl
  unfold Http.Address.readAuthority
  rw [Http.split_user_behind, behind_user asks apart]
  simp only [nobody, read_host_nil]
  rfl

theorem page_parts_of_origin {page : String} {secure : Bool}
    (origin : HasOrigin page secure authority) (named : authority ≠ []) :
    ∃ tail, PageParts page secure authority tail := by
  have accepted := stream_url_of_origin origin .scores
  rw [if_neg named] at accepted
  obtain ⟨other, found, tail, parts, same⟩ := (stream_url_iff _ _ _).mp accepted
  obtain ⟨rfl, rfl⟩ := feed_url_injective same
  exact ⟨tail, parts⟩

theorem names_host_iff (secure : Bool) (authority : List Char) (endpoint : Endpoint) :
    NamesHost endpoint (feedUrl secure authority endpoint) ↔ ¬ Hostless authority := by
  constructor
  · rintro ⟨other, found, same, host⟩
    obtain ⟨_, rfl⟩ := feed_url_injective same
    exact host
  · intro host
    exact ⟨secure, authority, rfl, host⟩

end Hosts

/-- A page without a host is refused only if there is nothing in its authority, neither somebody who
asks nor the number of a service. With either of them it has a feed, of which the address names no
host, as that of every other page does, whereas nothing is sent for any call to it. -/
theorem feed_asks_for_authority_only (page : String) (secure : Bool) (authority : List Char)
    (origin : HasOrigin page secure authority) (endpoint : Endpoint) :
    (Hostless authority → (streamUrl page endpoint = .error (.noHost page) ↔
      '@' ∉ authority ∧ ':' ∉ authority)) ∧
    (Hostless authority → '@' ∈ authority ∨ ':' ∈ authority →
      (∃ url, streamUrl page endpoint = .ok url ∧ ¬ NamesHost endpoint url) ∧
      (Http.Plain authority → ∀ session client, Http.Client.new page session = .ok client →
        ∀ server route body,
          client.post server route body = .refused (.transport .noAddress))) ∧
    (¬ Hostless authority →
      ∃ url, streamUrl page endpoint = .ok url ∧ NamesHost endpoint url) := by
  have feed := stream_url_of_origin origin endpoint
  refine ⟨?_, ?_, ?_⟩
  · intro hostless
    rw [feed, ← hostless_eq_nil_iff hostless]
    split <;> simp [*]
  · intro hostless marked
    have named : authority ≠ [] := by
      intro nothing
      rw [nothing] at marked
      simp at marked
    rw [if_neg named] at feed
    refine ⟨⟨_, feed, ?_⟩, ?_⟩
    · rw [names_host_iff, not_not]
      exact hostless
    · intro plain session client made server route body
      obtain ⟨tail, parts⟩ := page_parts_of_origin origin named
      have nowhere := Http.address_of_call made parts plain route
      rw [read_authority_hostless hostless, Option.elim_none] at nowhere
      rw [Http.Client.post, nowhere]
  · intro host
    have named : authority ≠ [] := by
      rintro rfl
      exact host ⟨[], [], rfl, .inl rfl, .inl rfl, by simp⟩
    rw [if_neg named] at feed
    exact ⟨_, feed, (names_host_iff secure authority endpoint).mpr host⟩

/-- A page with a user and the number of a service has a feed, and no calls. -/
theorem feed_asks_for_authority_only_between :
    Hostless "u@:80".toList ∧
      (∃ url, streamUrl "http://u@:80/x" .scores = .ok url ∧ ¬ NamesHost .scores url) ∧
      ∀ server route body, (Http.Client.mk "http://u@:80/x" none).post server route body =
        .refused (.transport .noAddress) := by
  have origin : HasOrigin "http://u@:80/x" false "u@:80".toList :=
    ⟨"u@:80/x".toList, by rfl, (is_authority_iff_takeWhile _ _).mpr (by rfl)⟩
  have hostless : Hostless "u@:80".toList :=
    ⟨"u@".toList, ":80".toList, by simp, .inr (by simp), .inr (by simp), by simp⟩
  obtain ⟨_, feeds, _⟩ := feed_asks_for_authority_only _ _ _ origin .scores
  obtain ⟨feed, calls⟩ := feeds hostless (.inl (by simp))
  have plain : Http.Plain "u@:80".toList := by simp [Http.Plain, Http.Address.isKept]
  exact ⟨hostless, feed, fun server => calls plain none _ (by rfl) server⟩

/-- The number of a service without a host is not refused. -/
theorem number_alone_has_feed :
    HasOrigin "http://:80/" false ":80".toList ∧ Hostless ":80".toList ∧
      streamUrl "http://:80/" .scores = .ok "ws://:80/scores" ∧
      streamUrl "http://:80/" .scores ≠ .error (.noHost "http://:80/") := by
  have accepted : streamUrl "http://:80/" .scores = .ok "ws://:80/scores" := by rfl
  refine ⟨⟨":80/".toList, by rfl, (is_authority_iff_takeWhile _ _).mpr (by rfl)⟩,
    ⟨[], ":80".toList, by simp, .inl rfl, .inr (by simp), by simp⟩, accepted, ?_⟩
  rw [accepted]
  decide

end FlagBoard
