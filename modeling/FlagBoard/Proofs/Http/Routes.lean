import FlagBoard.Proofs.Feed.Authority
import FlagBoard.Proofs.Http.Session
import FlagBoard.Proofs.Http.Strict
import Mathlib

/-!
Where the calls of a client go. They go to the authority at which the feed is found, if its host fits
into a request, and behind a base with neither query nor fragment each route ends the path that is
asked for; a query or a fragment takes in the route, so that one path is asked for whatever the
call.
-/

namespace FlagBoard

namespace Http

section Paths

theorem cut_at_ne_nil (mark : Char) (text : List Char) : cutAt mark text ≠ [] := by
  cases text with
  | nil => simp [cutAt]
  | cons c rest =>
      rw [cutAt]
      split
      · simp
      · split <;> simp

/-- Text that is cut at a mark falls into the parts before it and those behind it. -/
theorem cut_at_append (mark : Char) (before behind : List Char) :
    cutAt mark (before ++ mark :: behind) = cutAt mark before ++ cutAt mark behind := by
  induction before with
  | nil => simp [cutAt]
  | cons c rest induction =>
      rw [List.cons_append, cutAt, cutAt, induction]
      by_cases same : c = mark
      · simp [same]
      · cases parts : cutAt mark rest with
        | nil => exact absurd parts (cut_at_ne_nil mark rest)
        | cons part others => simp [same]

namespace Address

/-- A part of a path that stands for itself. -/
def Stays (part : List Char) : Prop := plainDots part ≠ ['.', '.'] ∧ plainDots part ≠ ['.']
  deriving Decidable

theorem resolve_staying (done last : List (List Char)) (stay : ∀ part ∈ last, Stays part) :
    resolveDots done last = done.reverse ++ last := by
  induction last generalizing done with
  | nil => simp [resolveDots]
  | cons part rest induction =>
      rw [List.forall_mem_cons] at stay
      rw [resolveDots, if_neg stay.1.1, if_neg stay.1.2, induction _ stay.2]
      simp

/-- Whatever dots a path has, parts at its end that stand for themselves are left there. -/
theorem resolve_append (done parts last : List (List Char)) (more : last ≠ [])
    (stay : ∀ part ∈ last, Stays part) :
    ∃ kept, resolveDots done (parts ++ last) = kept ++ last := by
  induction parts generalizing done with
  | nil => exact ⟨done.reverse, resolve_staying done last stay⟩
  | cons part rest induction =>
      have goesOn : (rest ++ last).isEmpty = false := by simp [more]
      rw [List.cons_append, resolveDots, goesOn]
      simp only [Bool.false_eq_true, if_false]
      split
      · exact induction _
      · split <;> exact induction _

def unrooted (route : Route) : List Char := route.path.toList.drop 1

theorem route_parts (route : Route) :
    route.path.toList = '/' :: unrooted route ∧
      (∀ part ∈ cutAt '/' (unrooted route), Stays part) ∧
      joinPath (cutAt '/' (unrooted route)) = route.path.toList := by
  cases route <;> exact ⟨rfl, by decide, rfl⟩

/-- A route at the end of a path is left as it is. -/
theorem read_path_route (before : List Char) (rooted : ∀ c ∈ before.head?, c = '/')
    (route : Route) :
    ∃ kept, readPath (before ++ route.path.toList) = kept ++ route.path.toList := by
  obtain ⟨whole, stay, joined⟩ := route_parts route
  have more := cut_at_ne_nil '/' (unrooted route)
  have parts : ∃ others, pathParts (before ++ route.path.toList) =
      resolveDots [] (others ++ cutAt '/' (unrooted route)) := by
    cases before with
    | nil => exact ⟨[], by rw [whole]; rfl⟩
    | cons c rest =>
        obtain rfl : c = '/' := rooted c rfl
        refine ⟨cutAt '/' rest, ?_⟩
        rw [← cut_at_append, ← whole]
        rfl
  obtain ⟨others, parts⟩ := parts
  obtain ⟨kept, resolved⟩ := resolve_append [] others _ more stay
  refine ⟨joinPath kept, ?_⟩
  rw [readPath, parts, resolved, ← joined, joinPath, joinPath, List.flatMap_append]
  rfl

end Address

end Paths

section Marks

/-- The text before a mark, and the text behind it, if it is there. -/
def cutMark (mark : Char) (text : List Char) : List Char × Option (List Char) :=
  match text.dropWhile (· != mark) with
  | [] => (text, none)
  | _ :: behind => (text.takeWhile (· != mark), some behind)

theorem cut_fragment_eq (text : List Char) : Address.cutFragment text = cutMark '#' text := rfl

theorem cut_query_eq (text : List Char) : Address.cutQuery text = cutMark '?' text := rfl

variable {mark : Char} {before : List Char}

theorem cut_mark_append (absent : mark ∉ before) (text : List Char) :
    cutMark mark (before ++ text) = (before ++ (cutMark mark text).1, (cutMark mark text).2) := by
  have passed := passes_absent absent
  rw [cutMark, cutMark, List.dropWhile_append_of_pos passed, List.takeWhile_append_of_pos passed]
  split <;> rfl

theorem cut_mark_absent (absent : mark ∉ before) : cutMark mark before = (before, none) := by
  rw [cutMark, List.dropWhile_eq_nil_iff.mpr (passes_absent absent)]

theorem cut_mark_fst (mark : Char) (text : List Char) :
    (cutMark mark text).1 = text.takeWhile (· != mark) := by
  rw [cutMark]
  split
  next none => exact (List.takeWhile_eq_self_iff.mpr (List.dropWhile_eq_nil_iff.mp none)).symm
  · rfl

theorem cut_mark_found (absent : mark ∉ before) (behind : List Char) :
    cutMark mark (before ++ mark :: behind) = (before, some behind) := by
  rw [cut_mark_append absent, cutMark]
  simp

end Marks

namespace Address

section Reading

/-- Characters that are kept wherever they stand. -/
def isKept (c : Char) : Bool := c != '\t' && c != '\n' && c != '\r'

/-- Text that begins and ends in print loses only line ends and tabs. -/
theorem clean_of_printed (text : List Char) (first : ∀ c ∈ text.head?, 32 < c.toNat)
    (last : ∀ c ∈ text.getLast?, 32 < c.toNat) : clean text = text.filter isKept := by
  have front : text.dropWhile (fun c => decide (c.toNat ≤ 32)) = text :=
    drop_while_none fun c member => decide_eq_false (Nat.not_le.mpr (first c member))
  have back : text.reverse.dropWhile (fun c => decide (c.toNat ≤ 32)) = text.reverse := by
    apply drop_while_none
    intro c member
    rw [List.head?_reverse] at member
    exact decide_eq_false (Nat.not_le.mpr (last c member))
  simp only [clean, front, back, List.reverse_reverse]
  rfl

theorem slashed_append (first second : List Char) :
    slashed (first ++ second) = slashed first ++ slashed second := List.map_append

theorem slashed_plain {text : List Char} (unslashed : '\\' ∉ text) : slashed text = text := by
  have kept : ∀ c ∈ text, (if c = '\\' then '/' else c) = c := by
    intro c member
    rw [if_neg]
    rintro rfl
    exact unslashed member
  rw [slashed, List.map_congr_left kept, List.map_id']

theorem read_served {authority body : List Char} (scheme : List Char) (usual : Nat)
    (inside : ∀ c ∈ authority, endsAuthority c = false) (named : authority ≠ [])
    (unslashed : '\\' ∉ authority) (rooted : ∀ c ∈ body.head?, c = '/') :
    readServed scheme usual ('/' :: '/' :: (authority ++ body)) =
      (readAuthority usual authority).map fun host =>
        ⟨scheme, some host, readPath (slashed body), none, none⟩ := by
  have noSlash : ∀ c ∈ authority, (c != '/') = true := by
    intro c member
    have other := inside c member
    simp only [endsAuthority, Bool.or_eq_false_iff] at other
    simp [bne, other.1.1]
  have first : ∀ c ∈ (authority ++ slashed body).head?, (c == '/') = false := by
    intro c member
    rw [List.head?_append_of_ne_nil _ named] at member
    simpa using noSlash c (List.mem_of_mem_head? member)
  have begins : (slashed ('/' :: '/' :: (authority ++ body))).dropWhile (· == '/') =
      authority ++ slashed body := by
    calc (slashed ('/' :: '/' :: (authority ++ body))).dropWhile (· == '/')
        = ('/' :: '/' :: slashed (authority ++ body)).dropWhile (· == '/') := rfl
      _ = (slashed (authority ++ body)).dropWhile (· == '/') := rfl
      _ = authority ++ slashed body := by
        rw [slashed_append, slashed_plain unslashed, drop_while_none first]
  have ends : ∀ c ∈ (slashed body).head?, (c != '/') = false := by
    intro c member
    rw [slashed, List.head?_map, Option.mem_map] at member
    obtain ⟨d, member, rfl⟩ := member
    rw [rooted d member]
    rfl
  obtain ⟨taken, dropped⟩ := split_where_ends noSlash ends
  rw [readServed, begins, taken, dropped]
  cases readAuthority usual authority <;> rfl

def pageScheme (secure : Bool) : List Char := if secure then "https".toList else "http".toList

def pageService (secure : Bool) : Nat := if secure then 443 else 80

def pathText (body : List Char) : List Char := (cutMark '?' (cutMark '#' body).1).1

theorem path_text_rooted {body : List Char} (ends : ∀ c ∈ body.head?, endsAuthority c = true) :
    ∀ c ∈ (pathText body).head?, c = '/' := by
  intro c member
  rw [pathText, cut_mark_fst, cut_mark_fst] at member
  cases body with
  | nil => cases member
  | cons d rest =>
      have ender := ends d rfl
      by_cases fragment : d = '#'
      · simp [fragment] at member
      by_cases query : d = '?'
      · simp [query] at member
      · obtain rfl : d = c := by simpa [fragment, query] using member
        simpa [ends_authority_iff, fragment, query] using ender

theorem form_of_page (secure : Bool) :
    Form.ofScheme (pageScheme secure) = .served (pageService secure) := by
  cases secure <;> rfl

theorem cut_page_scheme (secure : Bool) (rest : List Char) :
    cutScheme (pageScheme secure ++ ':' :: rest) = some (pageScheme secure, rest) := by
  cases secure <;> rfl

/-- The address of a page at a host, from what stands behind its authority. -/
def ofPage (secure : Bool) (host body : List Char) : Address :=
  ⟨pageScheme secure, some host, readPath (slashed (pathText body)),
    (cutMark '?' (cutMark '#' body).1).2.map (escapeQuery true),
    (cutMark '#' body).2.map escapeFragment⟩

/-- An address that reads as that of a page: its authority is read by itself, and a path, a query
and a fragment are told apart in what stands behind. -/
theorem read_page {secure : Bool} {authority body text : List Char}
    (cleaned : clean text = pageScheme secure ++ ':' :: '/' :: '/' :: (authority ++ body))
    (named : authority ≠ []) (inside : ∀ c ∈ authority, endsAuthority c = false)
    (unslashed : '\\' ∉ authority) (ends : ∀ c ∈ body.head?, endsAuthority c = true) :
    read? text = (readAuthority (pageService secure) authority).map fun host =>
      ofPage secure host body := by
  have unmarked (mark : Char) (ender : endsAuthority mark = true) (other : mark ≠ '/') :
      mark ∉ '/' :: '/' :: authority := by
    intro member
    have within : mark ∈ authority := by simpa [other] using member
    rw [inside mark within] at ender
    cases ender
  have fragment := cut_mark_append (unmarked '#' rfl (by decide)) body
  have query := cut_mark_append (unmarked '?' rfl (by decide)) (cutMark '#' body).1
  have served := read_served (pageScheme secure) (pageService secure) inside named unslashed
    (path_text_rooted ends)
  rw [read?, cleaned, cut_page_scheme]
  simp only [← List.cons_append, cut_fragment_eq, cut_query_eq, Option.bind_eq_bind,
    Option.bind_some, fragment, query, form_of_page]
  rw [List.cons_append, List.cons_append, ← pathText, served]
  cases readAuthority (pageService secure) authority <;> rfl

end Reading

end Address

open Address (pageScheme pageService isKept)

section Calls

/-- What is left of a base behind its authority: nothing of the slashes at its end, and no line ends
or tabs. -/
def behindBase (tail : List Char) : List Char := (tail.rdropWhile (· == '/')).filter isKept

/-- An authority in which nothing is dropped or taken for a slash. -/
def Plain (authority : List Char) : Prop := ∀ c ∈ authority, c ≠ '\\' ∧ isKept c = true

variable {base : String} {secure : Bool} {authority tail : List Char}

theorem rdrop_while_append {front : List Char} (ends : ∀ c ∈ front.getLast?, c ≠ '/')
    (text : List Char) :
    (front ++ text).rdropWhile (· == '/') = front ++ text.rdropWhile (· == '/') := by
  have stays : front.reverse.dropWhile (· == '/') = front.reverse := by
    apply drop_while_none
    intro c member
    rw [List.head?_reverse] at member
    simpa using ends c member
  rw [List.rdropWhile, List.rdropWhile, List.reverse_append, List.dropWhile_append]
  split
  next nothing => simp [stays, List.isEmpty_iff.mp nothing]
  · simp

theorem behind_base_mark {mark : Char} (other : mark ≠ '/') (kept : isKept mark = true) :
    mark ∈ behindBase tail ↔ mark ∈ tail := by
  have dropped : mark ∉ tail.rtakeWhile (· == '/') := fun member =>
    other (by simpa using List.mem_rtakeWhile_imp member)
  have whole : tail.rdropWhile (· == '/') ++ tail.rtakeWhile (· == '/') = tail :=
    List.rdropWhile_append_rtakeWhile
  rw [behindBase, List.mem_filter, and_iff_left kept]
  conv_rhs => rw [← whole, List.mem_append, or_iff_left dropped]

theorem behind_base_head (parts : PageParts base secure authority tail) :
    ∀ c ∈ (behindBase tail).head?, endsAuthority c = true := by
  intro c member
  rw [behindBase] at member
  cases left : tail.rdropWhile (· == '/') with
  | nil => simp [left] at member
  | cons d rest =>
      obtain ⟨slashes, whole⟩ := List.rdropWhile_prefix (· == '/') tail
      rw [left] at member whole
      have ender : endsAuthority d = true := parts.behind d (by rw [← whole]; rfl)
      have kept : isKept d = true := by
        rcases (ends_authority_iff d).mp ender with rfl | rfl | rfl <;> rfl
      rw [List.filter_cons_of_pos kept] at member
      cases member
      exact ender

/-- Routes are in print, and nothing in them has a meaning of its own but slashes. -/
theorem route_signs (route : Route) : ∀ c ∈ route.path.toList,
    32 < c.toNat ∧ isKept c = true ∧ c ≠ '\\' ∧ c ≠ '?' ∧ c ≠ '#' := by
  have all : route.path.toList.all (fun c => decide (32 < c.toNat) && isKept c &&
      c != '\\' && c != '?' && c != '#') = true := by
    cases route <;> rfl
  simpa [and_assoc] using all

theorem trim_base_text (parts : PageParts base secure authority tail) :
    (Client.trimBase base).toList =
      pageScheme secure ++ ':' :: '/' :: '/' :: (authority ++ tail.rdropWhile (· == '/')) := by
  have front : base.toList = (pageScheme secure ++ "://".toList ++ authority) ++ tail := by
    rw [parts.whole]
    cases secure <;> simp [pageScheme]
  have ends : ∀ c ∈ (pageScheme secure ++ "://".toList ++ authority).getLast?, c ≠ '/' := by
    rintro c last rfl
    rw [List.getLast?_append_of_ne_nil _ parts.named] at last
    have ender := parts.inside '/' (List.mem_of_getLast? last)
    revert ender
    decide
  rw [Client.trimBase, String.toList_ofList, ← List.rdropWhile, front, rdrop_while_append ends]
  simp

theorem clean_call (parts : PageParts base secure authority tail) (plain : Plain authority)
    (route : Route) :
    Address.clean (Client.trimBase base ++ route.path).toList =
      pageScheme secure ++ ':' :: '/' :: '/' ::
        (authority ++ (behindBase tail ++ route.path.toList)) := by
  have signs := route_signs route
  have keepScheme : (pageScheme secure).filter isKept = pageScheme secure := by
    cases secure <;> rfl
  have keepSlashes : "://".toList.filter isKept = "://".toList := rfl
  have keepAuthority : authority.filter isKept = authority :=
    List.filter_eq_self.mpr fun c member => (plain c member).2
  have keepRoute : route.path.toList.filter isKept = route.path.toList :=
    List.filter_eq_self.mpr fun c member => (signs c member).2.1
  have text : (Client.trimBase base ++ route.path).toList =
      (pageScheme secure ++ "://".toList) ++
        (authority ++ (tail.rdropWhile (· == '/') ++ route.path.toList)) := by
    rw [String.toList_append, trim_base_text parts]
    simp
  rw [text, Address.clean_of_printed]
  · simp only [List.filter_append, keepScheme, keepSlashes, keepAuthority, keepRoute]
    rw [← behindBase]
    simp
  · intro c member
    cases secure <;> cases member <;> decide
  · have more : route.path.toList ≠ [] := by
      cases route <;> decide
    have behind : tail.rdropWhile (· == '/') ++ route.path.toList ≠ [] := by simp [more]
    intro c last
    rw [List.getLast?_append_of_ne_nil _ (by simp [parts.named]),
      List.getLast?_append_of_ne_nil _ behind, List.getLast?_append_of_ne_nil _ more] at last
    exact (signs c (List.mem_of_getLast? last)).1

/-- Where a call goes, or why it goes nowhere. -/
theorem address_of_call {session : Option String} {client : Client}
    (made : Client.new base session = .ok client)
    (parts : PageParts base secure authority tail) (plain : Plain authority) (route : Route) :
    client.address route =
      (Address.readAuthority (pageService secure) authority).elim (.error .noAddress) fun host =>
        let address := Address.ofPage secure host (behindBase tail ++ route.path.toList)
        if address.isStrict then .ok address
        else .error (.unaskable (String.ofList address.text)) := by
  have trimmed : client.base = Client.trimBase base := by
    rw [Client.new] at made
    split at made
    · rw [← Except.ok.inj made]
    · cases made
  have unslashed : '\\' ∉ authority := fun member => (plain _ member).1 rfl
  have ends : ∀ c ∈ (behindBase tail ++ route.path.toList).head?, endsAuthority c = true := by
    intro c member
    cases left : behindBase tail with
    | nil =>
        rw [left, List.nil_append, (Address.route_parts route).1] at member
        cases member
        rfl
    | cons d rest =>
        rw [left] at member
        exact behind_base_head parts c (by rw [left]; exact member)
  have read := Address.read_page (clean_call parts plain route) parts.named parts.inside unslashed
    ends
  rw [Client.address, trimmed, read]
  cases Address.readAuthority (pageService secure) authority with
  | none => rfl
  | some host => cases secure <;> rfl

theorem of_page_strict_iff {usual : Nat} {host : List Char}
    (read : Address.readAuthority usual authority = some host) (secure : Bool) (body : List Char) :
    (Address.ofPage secure host body).isStrict = true ↔
      Askable host (.ofPage secure host body) := by
  obtain ⟨named, inside⟩ := read_authority_inside read
  have web : pageScheme secure = "http".toList ∨ pageScheme secure = "https".toList := by
    cases secure
    · exact .inl rfl
    · exact .inr rfl
  exact is_strict_iff web named inside _ _ _

/-- An address with a path that ends in that of a route, and nothing behind it. -/
structure AsksRoute (route : Route) (address : Address) : Prop where
  path : ∃ before, address.path = before ++ route.path.toList
  query : address.query = none
  fragment : address.fragment = none

/-- An address at which a host is asked for a route and for nothing else. -/
structure AsksFor (host : List Char) (route : Route) (address : Address) : Prop
    extends AsksRoute route address where
  authority : address.authority = some host

/-- An address of which the route ends the fragment, so that a host is asked for the same whatever
the route. -/
structure LostInFragment (host target : List Char) (route : Route) (address : Address) : Prop where
  authority : address.authority = some host
  target : address.target = target
  fragment : ∃ before, address.fragment = some (before ++ route.path.toList)

/-- An address of which the route ends the query, behind the same path whatever the route. -/
structure LostInQuery (host path : List Char) (route : Route) (address : Address) : Prop where
  authority : address.authority = some host
  path : address.path = path
  query : ∃ before, address.query = some (before ++ route.path.toList)
  fragment : address.fragment = none

theorem route_escaped (route : Route) :
    Address.escapeFragment route.path.toList = route.path.toList ∧
      Address.escapeQuery true route.path.toList = route.path.toList := by
  cases route <;> exact ⟨rfl, rfl⟩

/-- A mark that is not in a base is nowhere in what a route is asked for by. -/
theorem body_unmarked {mark : Char} (other : mark ≠ '/') (kept : isKept mark = true)
    (absent : mark ∉ tail) (route : Route) (unsigned : mark ∉ route.path.toList) :
    mark ∉ behindBase tail ++ route.path.toList := by
  rw [List.mem_append, behind_base_mark other kept]
  exact not_or_intro absent unsigned

theorem asks_for (parts : PageParts base secure authority tail) (host : List Char)
    (noQuery : '?' ∉ tail) (noFragment : '#' ∉ tail) (route : Route) :
    AsksFor host route (.ofPage secure host (behindBase tail ++ route.path.toList)) := by
  have signs := route_signs route
  have fragment := cut_mark_absent (body_unmarked (by decide) rfl noFragment route
    fun member => (signs _ member).2.2.2.2 rfl)
  have query := cut_mark_absent (body_unmarked (by decide) rfl noQuery route
    fun member => (signs _ member).2.2.2.1 rfl)
  have rooted : ∀ c ∈ (Address.slashed (behindBase tail)).head?, c = '/' := by
    intro c member
    rw [Address.slashed, List.head?_map, Option.mem_map] at member
    obtain ⟨d, first, rfl⟩ := member
    have within := List.mem_of_mem_head? first
    rcases (ends_authority_iff d).mp (behind_base_head parts d first) with rfl | rfl | rfl
    · rfl
    · exact absurd ((behind_base_mark (by decide) rfl).mp within) noQuery
    · exact absurd ((behind_base_mark (by decide) rfl).mp within) noFragment
  obtain ⟨kept, path⟩ := Address.read_path_route _ rooted route
  have same : Address.slashed route.path.toList = route.path.toList :=
    Address.slashed_plain fun member => (signs _ member).2.2.1 rfl
  have read : Address.readPath (Address.slashed (behindBase tail ++ route.path.toList)) =
      kept ++ route.path.toList := by
    rw [Address.slashed_append, same, path]
  simp only [Address.ofPage, Address.pathText, fragment, query, read, Option.map_none]
  exact ⟨⟨⟨kept, rfl⟩, rfl, rfl⟩, rfl⟩

theorem lost_in_fragment (secure : Bool) (host : List Char) (marked : '#' ∈ tail) :
    ∃ target, ∀ route, LostInFragment host target route
      (.ofPage secure host (behindBase tail ++ route.path.toList)) := by
  obtain ⟨before, behind, split, absent⟩ :=
    split_at_mark ((behind_base_mark (by decide) rfl).mpr marked)
  refine ⟨Address.readPath (Address.slashed (cutMark '?' before).1) ++
    Address.marked '?' ((cutMark '?' before).2.map (Address.escapeQuery true)), fun route => ?_⟩
  have cut : cutMark '#' (behindBase tail ++ route.path.toList) =
      (before, some (behind ++ route.path.toList)) := by
    rw [split, List.append_assoc, List.cons_append, cut_mark_found absent]
  simp only [Address.ofPage, Address.pathText, cut, Option.map_some]
  refine ⟨rfl, rfl, Address.escapeFragment behind, ?_⟩
  conv_rhs => rw [← (route_escaped route).1]
  simp [Address.escapeFragment]

theorem lost_in_query (secure : Bool) (host : List Char) (marked : '?' ∈ tail)
    (noFragment : '#' ∉ tail) :
    ∃ path, ∀ route, LostInQuery host path route
      (.ofPage secure host (behindBase tail ++ route.path.toList)) := by
  obtain ⟨before, behind, split, absent⟩ :=
    split_at_mark ((behind_base_mark (by decide) rfl).mpr marked)
  refine ⟨Address.readPath (Address.slashed before), fun route => ?_⟩
  have fragment := cut_mark_absent (body_unmarked (by decide) rfl noFragment route
    fun member => (route_signs route _ member).2.2.2.2 rfl)
  have query : cutMark '?' (behindBase tail ++ route.path.toList) =
      (before, some (behind ++ route.path.toList)) := by
    rw [split, List.append_assoc, List.cons_append, cut_mark_found absent]
  simp only [Address.ofPage, Address.pathText, fragment, query, Option.map_some, Option.map_none]
  refine ⟨rfl, rfl, ⟨Address.escapeQuery true behind, ?_⟩, rfl⟩
  conv_rhs => rw [← (route_escaped route).2]
  simp [Address.escapeQuery]

end Calls

section Sending

/-- Every request of a client goes to an address that is of a kind for its route. Each call that is
made sends its request there if one can be made at all, and is refused else. -/
structure Sends (client : Client) (host : List Char) (kind : Route → Address → Prop) : Prop where
  posts : ∀ (server : Server) (route : Route) (body : Json), ∃ address, kind route address ∧
    (Askable host address → (client.post server route body).requests =
      [⟨.post, address, client.cookie, some body⟩]) ∧
    (¬ Askable host address → client.post server route body =
      .refused (.transport (.unaskable (String.ofList address.text))))
  asks : ∀ (world : Command.World) (call : Call),
    ∀ request ∈ (Command.ask world client call).requests,
      ∃ route, kind route request.address ∧ Askable host request.address

theorem sends_of_addresses {client : Client} {host : List Char} {kind : Route → Address → Prop}
    (found : ∀ route, ∃ address, kind route address ∧
      (Askable host address → client.address route = .ok address) ∧
      (¬ Askable host address →
        client.address route = .error (.unaskable (String.ofList address.text)))) :
    Sends client host kind := by
  constructor
  · intro server route body
    obtain ⟨address, fits, sent, refused⟩ := found route
    refine ⟨address, fits, ?_, ?_⟩
    · intro askable
      exact post_requests client server route body address (sent askable)
    · intro unfit
      rw [Client.post, refused unfit]
  · intro world call request sent
    obtain ⟨route, body, sent⟩ := ask_posted client world call request sent
    obtain ⟨address, fits, made, refused⟩ := found route
    by_cases askable : Askable host address
    · rw [post_requests client _ route body address (made askable), List.mem_singleton] at sent
      rw [sent]
      exact ⟨route, fits, askable⟩
    · rw [Client.post, refused askable] at sent
      cases sent

/-- An authority that a feed can be asked for at has nothing in it that calls would drop or take for
a slash. -/
theorem plain_of_requestable {authority : List Char}
    (requestable : SocketAddress.Requestable authority) : Plain authority := by
  intro c member
  obtain ⟨before, after, split⟩ := List.append_of_mem member
  have fits := (requestable.continues before c after split).fits
  have other (d : Char) (unfit : SocketAddress.isAuthorityChar d = false) (plain : d ≠ '%') :
      c ≠ d := by
    rintro rfl
    simp [unfit, plain] at fits
  exact ⟨other '\\' rfl (by decide), by
    simp [isKept, other '\t' rfl, other '\n' rfl, other '\r' rfl]⟩

theorem split_user_behind (text : List Char) :
    (Address.splitUser text).2 = text.rtakeWhile (· != '@') := by
  have ends : text.rtakeWhile (· != '@') <:+ text := List.rtakeWhile_suffix _ text
  rw [Address.splitUser, ← List.rtakeWhile]
  split
  next same => exact (ends.eq_of_length same).symm
  · rfl

theorem rtake_while_behind (mark : Char) (before behind : List Char) :
    (before ++ mark :: behind).rtakeWhile (· != mark) = behind.rtakeWhile (· != mark) := by
  induction behind using List.reverseRecOn with
  | nil => simp
  | append_singleton behind last induction =>
      rw [← List.cons_append, ← List.append_assoc, List.rtakeWhile_concat, List.rtakeWhile_concat,
        induction]

/-- The host that a request for a feed names is read as its authority is. -/
theorem read_authority_host (usual : Nat) (socket : SocketAddress) :
    Address.readAuthority usual socket.host = Address.readAuthority usual socket.authority := by
  have behind : (Address.splitUser socket.host).2 = (Address.splitUser socket.authority).2 := by
    rw [split_user_behind, split_user_behind, SocketAddress.host]
    by_cases user : '@' ∈ socket.authority
    · obtain ⟨before, host, split, absent⟩ := split_at_mark user
      rw [split, List.dropWhile_append_of_pos (passes_absent absent), rtake_while_behind]
      rfl
    · rw [List.dropWhile_eq_nil_iff.mpr (passes_absent user)]
  rw [Address.readAuthority, Address.readAuthority, behind]

/-- The calls of a client and the feed of its base have one authority, and both read it alike.
Behind a base with neither query nor fragment each call asks for its route and for nothing else. A
fragment takes the route in, so that all calls ask for the same, and so does a query, behind one
path for all calls. A call is only sent if its host fits into a request and its address is short
enough, and it is refused else. Where the authority is no host, nothing is sent; where something in
it would be dropped or taken for a slash, there is no feed that could be asked for. -/
theorem calls_go_where_feed_is (base url : String) (endpoint : Endpoint)
    (accepted : streamUrl base endpoint = .ok url) (session : Option String) (client : Client)
    (made : Client.new base session = .ok client) :
    ∃ secure authority tail, PageParts base secure authority tail ∧
      url = feedUrl secure authority endpoint ∧
      (¬ Plain authority → SocketAddress.read? url.toList = none) ∧
      (∀ socket, SocketAddress.read? url.toList = some socket →
        Address.readAuthority (Address.pageService secure) socket.host =
          Address.readAuthority (Address.pageService secure) authority) ∧
      (Plain authority →
        (Address.readAuthority (Address.pageService secure) authority = none →
          ∀ (server : Server) (route : Route) (body : Json),
            client.post server route body = .refused (.transport .noAddress)) ∧
        ∀ host, Address.readAuthority (Address.pageService secure) authority = some host →
          ('?' ∉ tail → '#' ∉ tail → Sends client host (AsksFor host)) ∧
          ('#' ∈ tail → ∃ target, Sends client host (LostInFragment host target)) ∧
          ('?' ∈ tail → '#' ∉ tail → ∃ path, Sends client host (LostInQuery host path))) := by
  obtain ⟨secure, authority, tail, parts, rfl⟩ := (stream_url_iff base url endpoint).mp accepted
  have read (socket : SocketAddress)
      (found : SocketAddress.read? (feedUrl secure authority endpoint).toList = some socket) :=
    (SocketAddress.read_feed_iff endpoint parts.named parts.inside socket).mp found
  refine ⟨secure, authority, tail, parts, rfl, ?_, ?_, ?_⟩
  · intro unplain
    rw [Option.eq_none_iff_forall_ne_some]
    intro socket found
    exact unplain (plain_of_requestable (read socket found).1.1)
  · intro socket found
    obtain ⟨_, rfl⟩ := read socket found
    exact read_authority_host _ _
  · intro plain
    have calls := address_of_call made parts plain
    constructor
    · intro nowhere server route body
      have refused := calls route
      rw [nowhere, Option.elim_none] at refused
      rw [Client.post, refused]
    · intro host found
      have sends {kind : Route → Address → Prop}
          (fits : ∀ route, kind route
            (.ofPage secure host (behindBase tail ++ route.path.toList))) :
          Sends client host kind := by
        apply sends_of_addresses
        intro route
        have call := calls route
        rw [found, Option.elim_some] at call
        refine ⟨_, fits route, ?_, ?_⟩
        · intro askable
          rw [call, if_pos ((of_page_strict_iff found secure _).mpr askable)]
        · intro unfit
          rw [call, if_neg (mt (of_page_strict_iff found secure _).mp unfit)]
      refine ⟨?_, ?_, ?_⟩
      · intro noQuery noFragment
        exact sends (asks_for parts host noQuery noFragment)
      · intro marked
        obtain ⟨target, lost⟩ := lost_in_fragment secure host marked
        exact ⟨target, sends lost⟩
      · intro marked noFragment
        obtain ⟨path, lost⟩ := lost_in_query secure host marked noFragment
        exact ⟨path, sends lost⟩

/-- A base in a folder, with the usual number of its service. -/
theorem calls_go_where_feed_is_folder :
    streamUrl "http://[::1]:80/ctf/" .scores = .ok "ws://[::1]:80/scores" ∧
      ∃ client, Client.new "http://[::1]:80/ctf/" (some "abc") = .ok client ∧
        ∀ (server : Server) (route : Route) (body : Json), ∃ address,
          AsksFor "[::1]".toList route address ∧ (client.post server route body).requests =
            [⟨.post, address, client.cookie, some body⟩] := by
  have accepted : streamUrl "http://[::1]:80/ctf/" .scores = .ok "ws://[::1]:80/scores" := by rfl
  have made : Client.new "http://[::1]:80/ctf/" (some "abc") =
      .ok ⟨"http://[::1]:80/ctf", some "session=abc"⟩ := by rfl
  obtain ⟨secure, authority, tail, parts, _, _, _, calls⟩ :=
    calls_go_where_feed_is _ _ _ accepted _ _ made
  have known : PageParts "http://[::1]:80/ctf/" false "[::1]:80".toList "/ctf/".toList :=
    ⟨by rfl, by decide, by simp [endsAuthority], by simp [endsAuthority]⟩
  obtain ⟨rfl, rfl, rfl⟩ := parts.unique known
  have plain : Plain "[::1]:80".toList := by simp [Plain, isKept]
  have host : Address.readAuthority (pageService false) "[::1]:80".toList =
      some "[::1]".toList := by cbv
  obtain ⟨kept, _⟩ := (calls plain).2 "[::1]".toList host
  refine ⟨accepted, _, made, fun server route body => ?_⟩
  obtain ⟨address, asks, sent, refused⟩ :=
    (kept (by decide) (by decide)).posts server route body
  have found : ∃ address, (Client.mk "http://[::1]:80/ctf" (some "session=abc")).address route =
      .ok address := by
    cases route <;> exact ⟨_, by cbv⟩
  have askable : Askable "[::1]".toList address := by
    by_contra unfit
    obtain ⟨other, found⟩ := found
    have nothing := congrArg Sent.requests (refused unfit)
    rw [post_requests _ server route body other found] at nothing
    cases nothing
  exact ⟨address, asks, sent askable⟩

/-- A base with a query has a feed, and every call to it asks for the same path. -/
theorem routes_lost_in_query :
    streamUrl "http://[::1]:8080/?q=" .scores = .ok "ws://[::1]:8080/scores" ∧
      ∃ client, Client.new "http://[::1]:8080/?q=" none = .ok client ∧
        ∀ (server : Server) (body : Json), (client.post server .resetFrontend body).requests =
          [⟨.post, ⟨"http".toList, some "[::1]:8080".toList, ['/'],
            some "q=/reset/frontend".toList, none⟩, none, some body⟩] := by
  have found : (Client.mk "http://[::1]:8080/?q=" none).address .resetFrontend =
      .ok ⟨"http".toList, some "[::1]:8080".toList, ['/'],
        some "q=/reset/frontend".toList, none⟩ := by cbv
  have made : Client.new "http://[::1]:8080/?q=" none =
      .ok ⟨"http://[::1]:8080/?q=", none⟩ := by rfl
  refine ⟨by rfl, _, made, fun server body => ?_⟩
  rw [post_requests _ server _ body _ found]

end Sending

end Http

end FlagBoard
