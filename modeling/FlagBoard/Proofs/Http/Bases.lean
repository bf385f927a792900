import FlagBoard.Proofs.Http.Routes
import Mathlib

/-!
What becomes of a route behind a base. The base is any text, not only the address of a page with a
feed: the route is asked for by itself if there is no query and no fragment for it to fall into, and
something to be read as a host before it.
-/

namespace FlagBoard

namespace Http

open Address (isKept)

def behindScheme (base : List Char) : List Char := (base.dropWhile (· != ':')).drop 1

/-- A base in which the route behind it stays a path: there is no mark that would take it in, and
something besides slashes comes before it. -/
structure Keeps (base : List Char) : Prop where
  query : '?' ∉ base
  fragment : '#' ∉ base
  host : ∃ c ∈ behindScheme base, c ≠ '/' ∧ c ≠ '\\' ∧ isKept c = true

section Cleaning

def isEdge (c : Char) : Bool := c.toNat ≤ 32

def cleanBase (base : List Char) : List Char := (base.dropWhile isEdge).filter isKept

/-- What is dropped from a base before a route is only what stands at its start, and line ends and
tabs. -/
theorem clean_base (base : List Char) (route : Route) :
    Address.clean (base ++ route.path.toList) = cleanBase base ++ route.path.toList := by
  have signs := route_signs route
  have rooted := (Address.route_parts route).1
  have kept : route.path.toList.filter isKept = route.path.toList :=
    List.filter_eq_self.mpr fun c member => (signs c member).2.1
  have front : (base ++ route.path.toList).dropWhile isEdge =
      base.dropWhile isEdge ++ route.path.toList := by
    rw [List.dropWhile_append]
    split
    next nothing => rw [List.isEmpty_iff.mp nothing, rooted]; rfl
    · rfl
  have again : Address.clean (base ++ route.path.toList) =
      Address.clean (base.dropWhile isEdge ++ route.path.toList) := by
    rw [← front]
    change Address.clean _ = Address.clean (List.dropWhile (fun c => decide (c.toNat ≤ 32)) _)
    simp only [Address.clean]
    rw [List.dropWhile_idempotent]
  rw [again, Address.clean_of_printed, List.filter_append, kept]
  · rfl
  · intro c first
    cases left : base.dropWhile isEdge with
    | nil =>
        rw [left, List.nil_append, rooted] at first
        cases first
        decide
    | cons d rest =>
        rw [left] at first
        cases first
        have marked := List.head?_dropWhile_not isEdge base
        rw [left] at marked
        exact Nat.not_le.mp (of_decide_eq_false marked)
  · intro c last
    rw [List.getLast?_append_of_ne_nil _ (by simp [rooted])] at last
    exact (signs c (List.mem_of_getLast? last)).1

theorem mem_clean_base {base : List Char} {c : Char} (printed : 32 < c.toNat) :
    c ∈ cleanBase base ↔ c ∈ base := by
  have kept : isKept c = true := by
    have other (d : Char) (blank : d.toNat ≤ 32) : c ≠ d := by
      rintro rfl
      omega
    simp [isKept, other '\t' (by decide), other '\n' (by decide), other '\r' (by decide)]
  have dropped : c ∉ base.takeWhile isEdge := by
    intro member
    have blank : isEdge c = true := List.mem_takeWhile_imp member
    have small := of_decide_eq_true blank
    omega
  have whole : base.takeWhile isEdge ++ base.dropWhile isEdge = base :=
    List.takeWhile_append_dropWhile
  rw [cleanBase, List.mem_filter, and_iff_left kept]
  conv_rhs => rw [← whole, List.mem_append, or_iff_right dropped]

/-- What is left of a base behind its scheme. -/
theorem clean_behind_scheme {base before inner : List Char}
    (split : cleanBase base = before ++ ':' :: inner) (absent : ':' ∉ before) :
    inner = (behindScheme base).filter isKept := by
  have colon : ':' ∈ base := by
    rw [← mem_clean_base (by decide), split]
    simp
  obtain ⟨front, behind, rfl, first⟩ := split_at_mark colon
  have cleaned : cleanBase (front ++ ':' :: behind) =
      cleanBase front ++ ':' :: behind.filter isKept := by
    rw [cleanBase, List.dropWhile_append]
    split
    next nothing => simp [cleanBase, List.isEmpty_iff.mp nothing, isKept, isEdge]
    · simp [cleanBase, isKept]
  have apart : ':' ∉ cleanBase front := by rwa [mem_clean_base (by decide)]
  have same := congrArg (fun text => text.dropWhile (· != ':')) (cleaned.symm.trans split)
  rw [drop_to_mark apart, drop_to_mark absent, List.cons_inj_right] at same
  rw [behindScheme, drop_to_mark first, ← same]
  rfl

def isSchemeChar (c : Char) : Bool := c.isAlphanum || c == '+' || c == '-' || c == '.'

theorem cut_scheme_colon {text scheme behind : List Char}
    (cut : Address.cutScheme text = some (scheme, behind)) :
    text.dropWhile isSchemeChar = ':' :: behind := by
  rw [Address.cutScheme.eq_def] at cut
  split at cut
  · split at cut
    · cases cut
    · dsimp only at cut
      split at cut
      next rest dropped =>
        cases cut
        exact dropped
      · cases cut
  · cases cut

/-- The scheme of an address whose text ends in a route belongs to the base. -/
theorem cut_scheme_base {front scheme behind : List Char} (route : Route)
    (cut : Address.cutScheme (front ++ route.path.toList) = some (scheme, behind)) :
    ∃ before inner, front = before ++ ':' :: inner ∧
      (':' ∉ before ∧ '?' ∉ before ∧ '#' ∉ before) ∧ behind = inner ++ route.path.toList := by
  have passed (c : Char) (member : c ∈ front.takeWhile isSchemeChar) : isSchemeChar c = true :=
    List.mem_takeWhile_imp member
  have dropped := cut_scheme_colon cut
  rw [List.dropWhile_append] at dropped
  split at dropped
  · rw [(Address.route_parts route).1] at dropped
    cases dropped
  · cases left : front.dropWhile isSchemeChar with
    | nil => simp_all
    | cons c inner =>
        rw [left] at dropped
        cases dropped
        refine ⟨front.takeWhile isSchemeChar, inner, ?_, ⟨?_, ?_, ?_⟩, rfl⟩
        · rw [← left, List.takeWhile_append_dropWhile]
        all_goals
          intro member
          have scheme := passed _ member
          revert scheme
          decide

/-- The marks of a base stand behind its scheme. -/
theorem mem_behind_scheme {base before inner : List Char} {mark : Char}
    (split : cleanBase base = before ++ ':' :: inner) (printed : 32 < mark.toNat)
    (other : mark ≠ ':') (absent : mark ∉ before) : mark ∈ inner ↔ mark ∈ base := by
  rw [← @mem_clean_base base mark printed, split]
  simp [absent, other]

end Cleaning

section Paths

theorem only_slashes_iff (text : List Char) :
    (Address.slashed text).dropWhile (· == '/') = [] ↔ ¬ ∃ c ∈ text, c ≠ '/' ∧ c ≠ '\\' := by
  rw [List.dropWhile_eq_nil_iff, Address.slashed, List.forall_mem_map]
  constructor
  · rintro slashes ⟨c, member, noSlash, noBackslash⟩
    have slash := slashes c member
    rw [if_neg noBackslash] at slash
    exact noSlash (by simpa using slash)
  · intro none c member
    split
    · rfl
    next noBackslash =>
      by_contra noSlash
      exact none ⟨c, member, by simpa using noSlash, noBackslash⟩

/-- A route behind a host ends the path. -/
theorem path_behind_host (host : List Char) (route : Route) : ∃ kept,
    Address.readPath ((host ++ route.path.toList).dropWhile (· != '/')) =
      kept ++ route.path.toList := by
  have rooted := (Address.route_parts route).1
  have behind : (host ++ route.path.toList).dropWhile (· != '/') =
      host.dropWhile (· != '/') ++ route.path.toList := by
    rw [List.dropWhile_append]
    split
    next nothing => rw [List.isEmpty_iff.mp nothing, rooted]; rfl
    · rfl
  rw [behind]
  apply Address.read_path_route
  intro c first
  have marked := List.head?_dropWhile_not (· != '/') host
  rw [Option.mem_def.mp first] at marked
  simpa using marked

/-- A route that is read as a host itself has lost its first part. -/
theorem path_of_route_alone (route : Route) : ¬ ∃ kept,
    Address.readPath ((route.path.toList.dropWhile (· == '/')).dropWhile (· != '/')) =
      kept ++ route.path.toList := by
  rintro ⟨kept, ends⟩
  have length := congrArg List.length ends
  rw [List.length_append] at length
  have short : (Address.readPath ((route.path.toList.dropWhile (· == '/')).dropWhile
      (· != '/'))).length < route.path.toList.length := by
    cases route <;> decide
  omega

/-- Behind something that can be a host a path is read that ends in the route, and else one that
has lost its first part to a host. -/
theorem read_served_route {scheme inner : List Char} {usual : Nat} {address : Address}
    (route : Route)
    (read : Address.readServed scheme usual (inner ++ route.path.toList) = some address) :
    (∃ before, address.path = before ++ route.path.toList) ↔
      ∃ c ∈ inner, c ≠ '/' ∧ c ≠ '\\' := by
  have unslashed : '\\' ∉ route.path.toList := fun member =>
    (route_signs route _ member).2.2.1 rfl
  rw [Address.readServed, Address.slashed_append, Address.slashed_plain unslashed,
    List.dropWhile_append] at read
  obtain ⟨host, _, read⟩ := Option.bind_eq_some_iff.mp read
  have path := congrArg Address.path (Option.some.inj read)
  dsimp only at path
  rw [← path]
  split
  next nothing =>
    rw [List.isEmpty_iff, only_slashes_iff] at nothing
    exact iff_of_false (path_of_route_alone route) nothing
  next something =>
    rw [List.isEmpty_iff, only_slashes_iff, not_not] at something
    exact iff_of_true (path_behind_host _ route) something

end Paths

theorem address_ok_iff (client : Client) (route : Route) (address : Address) :
    client.address route = .ok address ↔
      Address.read? (client.base ++ route.path).toList = some address ∧ address.isWeb = true ∧
        address.isStrict = true := by
  unfold Client.address
  cases Address.read? (client.base ++ route.path).toList with
  | none => simp
  | some other =>
      simp only [Option.some.injEq, Bool.and_eq_true]
      split
      next fits => simp only [Except.ok.injEq]; constructor <;> rintro ⟨rfl, _⟩ <;> simp [fits]
      next unfit =>
        simp only [reduceCtorEq, false_iff, not_and]
        rintro rfl
        simpa using unfit

theorem cut_mark_none_iff (mark : Char) (text : List Char) :
    (cutMark mark text).2 = none ↔ mark ∉ text := by
  constructor
  · intro none member
    obtain ⟨before, behind, rfl, absent⟩ := split_at_mark member
    rw [cut_mark_found absent] at none
    cases none
  · intro absent
    rw [cut_mark_absent absent]

section Schemes

variable {scheme text : List Char} {address : Address}

theorem read_file_scheme (read : Address.readFile scheme text = some address) :
    address.scheme = scheme := by
  rw [Address.readFile] at read
  split at read
  · dsimp only at read
    split at read
    · rw [← Option.some.inj read]
    · obtain ⟨_, _, same⟩ := Option.bind_eq_some_iff.mp read
      rw [← Option.some.inj same]
  · rw [← Option.some.inj read]

theorem read_other_scheme (read : Address.readOther scheme text = some address) :
    address.scheme = scheme := by
  unfold Address.readOther at read
  split at read
  · obtain ⟨_, _, same⟩ := Option.bind_eq_some_iff.mp read
    rw [← Option.some.inj same]
  · rw [← Option.some.inj read]
  · rw [← Option.some.inj read]

/-- How an address that requests can be sent to was read. -/
theorem read_web (read : Address.read? text = some address) (web : address.isWeb = true) :
    ∃ scheme rest usual plain, Address.cutScheme (Address.clean text) = some (scheme, rest) ∧
      Address.readServed scheme usual (cutMark '?' (cutMark '#' rest).1).1 = some plain ∧
      address.path = plain.path ∧
      address.query = (cutMark '?' (cutMark '#' rest).1).2.map (Address.escapeQuery true) ∧
      address.fragment = (cutMark '#' rest).2.map Address.escapeFragment := by
  rw [Address.read?] at read
  obtain ⟨⟨scheme, rest⟩, cut, read⟩ := Option.bind_eq_some_iff.mp read
  simp only [cut_fragment_eq, cut_query_eq] at read
  have known (plain : Address) (same : plain.scheme = scheme) (web : plain.isWeb = true) :
      ∃ usual, Address.Form.ofScheme scheme = .served usual := by
    simp only [Address.isWeb, same, Bool.or_eq_true, beq_iff_eq] at web
    rcases web with rfl | rfl <;> exact ⟨_, rfl⟩
  cases form : Address.Form.ofScheme scheme with
  | served usual =>
      rw [form] at read
      obtain ⟨plain, served, same⟩ := Option.bind_eq_some_iff.mp read
      obtain rfl := Option.some.inj same
      exact ⟨scheme, rest, usual, plain, cut, served, rfl, rfl, rfl⟩
  | file =>
      rw [form] at read
      obtain ⟨plain, filed, same⟩ := Option.bind_eq_some_iff.mp read
      obtain rfl := Option.some.inj same
      obtain ⟨usual, served⟩ := known plain (read_file_scheme filed) web
      rw [served] at form
      cases form
  | other =>
      rw [form] at read
      obtain ⟨plain, shown, same⟩ := Option.bind_eq_some_iff.mp read
      obtain rfl := Option.some.inj same
      obtain ⟨usual, served⟩ := known plain (read_other_scheme shown) web
      rw [served] at form
      cases form

end Schemes

/-- A call asks for its route just where the base keeps it. -/
theorem asks_route_iff {client : Client} {route : Route} {address : Address}
    (found : client.address route = .ok address) :
    AsksRoute route address ↔ Keeps client.base.toList := by
  obtain ⟨read, web, _⟩ := (address_ok_iff client route address).mp found
  obtain ⟨scheme, rest, usual, plain, cut, served, path, query, fragment⟩ := read_web read web
  rw [String.toList_append, clean_base] at cut
  obtain ⟨before, inner, whole, ⟨noColon, noQuery, noFragment⟩, rfl⟩ := cut_scheme_base route cut
  have signs := route_signs route
  have fragments : '#' ∉ inner ++ route.path.toList ↔ '#' ∉ client.base.toList := by
    rw [← mem_behind_scheme whole (by decide) (by decide) noFragment, List.mem_append,
      or_iff_left fun member => (signs _ member).2.2.2.2 rfl]
  have queries : '?' ∉ inner ++ route.path.toList ↔ '?' ∉ client.base.toList := by
    rw [← mem_behind_scheme whole (by decide) (by decide) noQuery, List.mem_append,
      or_iff_left fun member => (signs _ member).2.2.2.1 rfl]
  have hosts : (∃ c ∈ inner, c ≠ '/' ∧ c ≠ '\\') ↔
      ∃ c ∈ behindScheme client.base.toList, c ≠ '/' ∧ c ≠ '\\' ∧ isKept c = true := by
    rw [clean_behind_scheme whole noColon]
    simp only [List.mem_filter]
    grind
  constructor
  · intro asks
    have noFragment : '#' ∉ inner ++ route.path.toList := by
      rw [← cut_mark_none_iff, ← Option.map_eq_none_iff, ← fragment]
      exact asks.fragment
    rw [cut_mark_absent noFragment] at served query
    have noQuery : '?' ∉ inner ++ route.path.toList := by
      rw [← cut_mark_none_iff, ← Option.map_eq_none_iff, ← query]
      exact asks.query
    rw [cut_mark_absent noQuery] at served
    have host := (read_served_route route served).mp (path ▸ asks.path)
    exact ⟨queries.mp noQuery, fragments.mp noFragment, hosts.mp host⟩
  · intro keeps
    have noFragment := fragments.mpr keeps.fragment
    have noQuery := queries.mpr keeps.query
    rw [cut_mark_absent noFragment] at served query fragment
    rw [cut_mark_absent noQuery] at served query
    refine ⟨?_, query, fragment⟩
    rw [path]
    exact (read_served_route route served).mpr (hosts.mpr keeps.host)

end Http

end FlagBoard
