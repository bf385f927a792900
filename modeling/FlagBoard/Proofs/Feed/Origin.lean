import FlagBoard.Proofs.Feed.Authority
import Mathlib

/-!
The origin of a page and the address of its feed. The origin is the scheme with the authority, which
is the longest text behind the scheme that is free of the signs that end one. Addresses of feeds
tell origins apart, and nothing else of a page goes into them.
-/

namespace FlagBoard

def pageStart (secure : Bool) : List Char :=
  if secure then "https://".toList else "http://".toList

/-- Text without a sign that ends an authority. -/
def Unended (text : List Char) : Prop := '/' ∉ text ∧ '?' ∉ text ∧ '#' ∉ text

/-- The longest beginning of a text that has no sign in it that ends an authority. -/
structure IsAuthority (authority text : List Char) : Prop where
  begins : authority <+: text
  unended : Unended authority
  longest : ∀ other, other <+: text → Unended other → other <+: authority

/-- The page has a web scheme, secure or not, and behind it the authority. -/
def HasOrigin (page : String) (secure : Bool) (authority : List Char) : Prop :=
  ∃ rest, page.toList = pageStart secure ++ rest ∧ IsAuthority authority rest

theorem unended_iff (text : List Char) :
    Unended text ↔ ∀ c ∈ text, endsAuthority c = false := by
  constructor
  · intro unended c member
    rw [← Bool.not_eq_true, ends_authority_iff]
    intro ender
    rcases ender with rfl | rfl | rfl
    · exact unended.1 member
    · exact unended.2.1 member
    · exact unended.2.2 member
  · intro none
    refine ⟨?_, ?_, ?_⟩ <;>
      exact fun member => Bool.false_ne_true (none _ member).symm

/-- The longest beginning goes up to the first sign that ends an authority. -/
theorem is_authority_iff_takeWhile (authority text : List Char) :
    IsAuthority authority text ↔ authority = text.takeWhile fun c => !endsAuthority c := by
  have taken : Unended (text.takeWhile fun c => !endsAuthority c) := by
    rw [unended_iff]
    intro c member
    simpa using List.mem_takeWhile_imp member
  have longest (other : List Char) (begins : other <+: text) (unended : Unended other) :
      other <+: text.takeWhile fun c => !endsAuthority c := by
    obtain ⟨behind, rfl⟩ := begins
    rw [unended_iff] at unended
    rw [List.takeWhile_append_of_pos (by simpa using unended)]
    exact List.prefix_append _ _
  constructor
  · intro isAuthority
    have shorter := longest authority isAuthority.begins isAuthority.unended
    have longer := isAuthority.longest _ (List.takeWhile_prefix _) taken
    exact shorter.eq_of_length_le longer.length_le
  · intro same
    rw [same]
    exact ⟨List.takeWhile_prefix _, taken, longest⟩

theorem has_origin_of_start {page : String} {secure : Bool} {rest : List Char}
    (whole : page.toList = pageStart secure ++ rest) :
    HasOrigin page secure (rest.takeWhile fun c => !endsAuthority c) :=
  ⟨rest, whole, (is_authority_iff_takeWhile _ _).mpr rfl⟩

/-- The feed of a page that has an origin. -/
theorem stream_url_of_origin {page : String} {secure : Bool} {authority : List Char}
    (origin : HasOrigin page secure authority) (endpoint : Endpoint) :
    streamUrl page endpoint =
      if authority = [] then .error (.noHost page) else .ok (feedUrl secure authority endpoint) := by
  obtain ⟨rest, whole, isAuthority⟩ := origin
  obtain rfl := (is_authority_iff_takeWhile _ _).mp isAuthority
  have found := (page_scheme_iff _ _ _).mpr ⟨secure, rfl, whole⟩
  simp only [streamUrl, found, List.isEmpty_iff]
  rfl

/-- The feed of a page without a web scheme. -/
theorem stream_url_of_no_start {page : String} (other : ∀ secure, ¬ pageStart secure <+: page.toList)
    (endpoint : Endpoint) : streamUrl page endpoint = .error (.noScheme page) := by
  cases found : pageScheme? page.toList with
  | none => rw [streamUrl, found]
  | some scheme =>
      obtain ⟨secure, _, whole⟩ := (page_scheme_iff _ _ _).mp found
      exact absurd ⟨_, whole.symm⟩ (other secure)

theorem feed_url_injective {secure other : Bool} {authority named : List Char}
    {endpoint : Endpoint}
    (same : feedUrl secure authority endpoint = feedUrl other named endpoint) :
    secure = other ∧ authority = named := by
  have cut := SocketAddress.cut_scheme_feed secure authority endpoint
  rw [same, SocketAddress.cut_scheme_feed, Option.some.injEq, Prod.mk.injEq,
    List.append_cancel_right_eq] at cut
  obtain ⟨schemes, authorities⟩ := cut
  have sameScheme : secure = other := by
    revert schemes
    cases secure <;> cases other <;> decide
  exact ⟨sameScheme, authorities.symm⟩

/-- A page has one origin at most. -/
theorem origin_unique {page : String} {secure other : Bool} {authority named : List Char}
    (origin : HasOrigin page secure authority) (again : HasOrigin page other named) :
    secure = other ∧ authority = named := by
  obtain ⟨rest, whole, first⟩ := origin
  obtain ⟨behind, split, second⟩ := again
  have sameScheme : secure = other := by
    cases secure <;> cases other
    · rfl
    · exact absurd (whole.symm.trans split) (http_ne_https rest behind)
    · exact absurd (split.symm.trans whole) (http_ne_https behind rest)
    · rfl
  rw [sameScheme] at whole
  have sameRest := List.append_cancel_left (whole.symm.trans split)
  rw [is_authority_iff_takeWhile] at first second
  exact ⟨sameScheme, by rw [first, second, sameRest]⟩

/-- The feed of a page keeps the origin of the page and nothing else. A page has a feed if it has
the start of a web address and an authority behind it that is not empty; the address of the feed is
then the scheme for sockets, as secure as that of the page, with the authority and the path of the
feed. Without an authority the host is missing, and without that start the scheme is not supported.
So two pages have the same feed exactly if scheme and authority are the same, whatever else they
hold. -/
theorem feed_keeps_origin (endpoint : Endpoint) :
    (∀ page secure authority, HasOrigin page secure authority →
      (∀ url, streamUrl page endpoint = .ok url ↔
        authority ≠ [] ∧ url = feedUrl secure authority endpoint) ∧
      (streamUrl page endpoint = .error (.noHost page) ↔ authority = [])) ∧
    (∀ page secure, pageStart secure <+: page.toList → ∃ authority,
      HasOrigin page secure authority ∧
      ∀ other named, HasOrigin page other named → other = secure ∧ named = authority) ∧
    (∀ page, streamUrl page endpoint = .error (.noScheme page) ↔
      ¬ "http://".toList <+: page.toList ∧ ¬ "https://".toList <+: page.toList) ∧
    (∀ page other secure otherSecure authority otherAuthority,
      HasOrigin page secure authority → HasOrigin other otherSecure otherAuthority →
      authority ≠ [] → otherAuthority ≠ [] →
      (streamUrl page endpoint = streamUrl other endpoint ↔
        secure = otherSecure ∧ authority = otherAuthority)) := by
  refine ⟨?_, ?_, ?_, ?_⟩
  · intro page secure authority origin
    rw [stream_url_of_origin origin]
    by_cases nothing : authority = []
    · simp [nothing]
    · simp [nothing, eq_comm]
  · intro page secure start
    obtain ⟨rest, whole⟩ := start
    have origin := has_origin_of_start whole.symm
    exact ⟨_, origin, fun other named again => origin_unique again origin⟩
  · intro page
    constructor
    · intro refused
      have none (secure : Bool) : ¬ pageStart secure <+: page.toList := by
        intro start
        obtain ⟨rest, whole⟩ := start
        rw [stream_url_of_origin (has_origin_of_start whole.symm)] at refused
        split at refused
        · cases refused
        · cases refused
      exact ⟨none false, none true⟩
    · intro none
      apply stream_url_of_no_start
      intro secure
      cases secure with
      | false => exact none.1
      | true => exact none.2
  · intro page other secure otherSecure authority otherAuthority origin otherOrigin named otherNamed
    rw [stream_url_of_origin origin, stream_url_of_origin otherOrigin, if_neg named,
      if_neg otherNamed, Except.ok.injEq]
    constructor
    · exact feed_url_injective
    · intro same
      rw [same.1, same.2]

/-- Two pages of a server, one of which has its path, query and fragment, and one page of the same
authority without encryption. -/
theorem feed_keeps_origin_pasted :
    streamUrl "https://ctf.local:8443/challenges?x=1#top" .scores =
        streamUrl "https://ctf.local:8443" .scores ∧
      streamUrl "https://ctf.local:8443" .scores ≠ streamUrl "http://ctf.local:8443" .scores ∧
      streamUrl "https://?x" .scores = .error (.noHost "https://?x") := by
  have pasted : HasOrigin "https://ctf.local:8443/challenges?x=1#top" true
      "ctf.local:8443".toList :=
    ⟨"ctf.local:8443/challenges?x=1#top".toList, by rfl,
      (is_authority_iff_takeWhile _ _).mpr (by rfl)⟩
  have bare : HasOrigin "https://ctf.local:8443" true "ctf.local:8443".toList :=
    ⟨"ctf.local:8443".toList, by rfl, (is_authority_iff_takeWhile _ _).mpr (by rfl)⟩
  have plain : HasOrigin "http://ctf.local:8443" false "ctf.local:8443".toList :=
    ⟨"ctf.local:8443".toList, by rfl, (is_authority_iff_takeWhile _ _).mpr (by rfl)⟩
  have nameless : HasOrigin "https://?x" true [] :=
    ⟨"?x".toList, by rfl, (is_authority_iff_takeWhile _ _).mpr (by rfl)⟩
  obtain ⟨cut, _, _, same⟩ := feed_keeps_origin .scores
  have named : "ctf.local:8443".toList ≠ [] := by decide
  refine ⟨(same _ _ _ _ _ _ pasted bare named named).mpr ⟨rfl, rfl⟩, ?_, ?_⟩
  · intro equal
    have schemes := ((same _ _ _ _ _ _ bare plain named named).mp equal).1
    cases schemes
  · exact (cut _ _ _ nameless).2.mpr rfl

end FlagBoard
