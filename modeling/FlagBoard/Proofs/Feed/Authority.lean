import FlagBoard.Feed.Endpoint
import FlagBoard.Feed.Handshake
import FlagBoard.Proofs.Text.Ends
import Mathlib

/-!
The authority of a page and of its feed. A page may have any authority that is not empty, and its
feed takes it over as it is; a request for the feed is more particular about colons, brackets and
escapes. A scan of the authority is tied to the text behind it, and the texts that it takes are told
by what may follow what.
-/

namespace FlagBoard

section Pages

/-- The parts of the address of a page: its scheme, its authority, and all that stands behind. -/
structure PageParts (page : String) (secure : Bool) (authority tail : List Char) : Prop where
  whole : page.toList =
    (if secure then "https://".toList else "http://".toList) ++ (authority ++ tail)
  named : authority ≠ []
  inside : ∀ c ∈ authority, endsAuthority c = false
  behind : ∀ c ∈ tail.head?, endsAuthority c = true

def feedUrl (secure : Bool) (authority : List Char) (endpoint : Endpoint) : String :=
  (if secure then "wss" else "ws") ++ "://" ++ String.ofList authority ++ endpoint.path

theorem ends_authority_iff (c : Char) : endsAuthority c = true ↔ c = '/' ∨ c = '?' ∨ c = '#' := by
  simp [endsAuthority, or_assoc]

theorem strip_start_iff (expected text rest : List Char) :
    stripStart expected text = some rest ↔ text = expected ++ rest := by
  induction expected generalizing text with
  | nil => simp [stripStart]
  | cons c more induction =>
      cases text with
      | nil => simp [stripStart]
      | cons d text =>
          rw [stripStart]
          split
          next same => rw [induction, same, List.cons_append, List.cons_inj_right]
          next other => simp [other]

theorem http_ne_https (rest behind : List Char) :
    "http://".toList ++ rest ≠ "https://".toList ++ behind := by
  intro same
  have fifth : some ':' = some 's' := congrArg (fun text => text[4]?) same
  revert fifth
  decide

theorem page_scheme_iff (page : List Char) (scheme : String) (rest : List Char) :
    pageScheme? page = some (scheme, rest) ↔ ∃ secure : Bool,
      scheme = (if secure then "wss" else "ws") ∧
      page = (if secure then "https://".toList else "http://".toList) ++ rest := by
  rw [pageScheme?]
  cases stripped : stripStart "https://".toList page with
  | some behind =>
      rw [strip_start_iff] at stripped
      constructor
      · intro same
        cases same
        exact ⟨true, rfl, stripped⟩
      · rintro ⟨secure, rfl, whole⟩
        cases secure with
        | false => exact absurd (whole.symm.trans stripped) (http_ne_https rest behind)
        | true => rw [List.append_cancel_left (stripped.symm.trans whole)]; rfl
  | none =>
      constructor
      · intro same
        obtain ⟨behind, found, same⟩ := Option.map_eq_some_iff.mp same
        cases same
        exact ⟨false, rfl, (strip_start_iff _ _ _).mp found⟩
      · rintro ⟨secure, rfl, whole⟩
        cases secure with
        | false =>
            have found := (strip_start_iff _ _ _).mpr whole
            rw [if_neg Bool.false_ne_true] at found
            rw [found]
            rfl
        | true =>
            rw [if_pos rfl, ← strip_start_iff, stripped] at whole
            cases whole

theorem take_authority {authority tail : List Char}
    (inside : ∀ c ∈ authority, endsAuthority c = false)
    (behind : ∀ c ∈ tail.head?, endsAuthority c = true) :
    (authority ++ tail).takeWhile (fun c => !endsAuthority c) = authority := by
  refine (split_where_ends ?_ ?_).1
  · intro c member
    simp [inside c member]
  · intro c member
    simp [behind c member]

/-- The pages that have a feed are those with a web scheme and an authority of any kind. -/
theorem stream_url_iff (page url : String) (endpoint : Endpoint) :
    streamUrl page endpoint = .ok url ↔ ∃ secure authority tail,
      PageParts page secure authority tail ∧ url = feedUrl secure authority endpoint := by
  constructor
  · intro accepted
    rw [streamUrl] at accepted
    split at accepted
    · cases accepted
    next scheme rest found =>
      obtain ⟨secure, rfl, whole⟩ := (page_scheme_iff _ _ _).mp found
      dsimp only at accepted
      split at accepted
      · cases accepted
      next named =>
        refine ⟨secure, rest.takeWhile fun c => !endsAuthority c,
          rest.dropWhile fun c => !endsAuthority c, ⟨?_, ?_, ?_, ?_⟩, ?_⟩
        · rw [whole, List.takeWhile_append_dropWhile]
        · simpa using named
        · intro c member
          simpa using List.mem_takeWhile_imp member
        · intro c first
          have ends := List.head?_dropWhile_not (fun c => !endsAuthority c) rest
          rw [Option.mem_def.mp first] at ends
          simpa using ends
        · exact (Except.ok.inj accepted).symm
  · rintro ⟨secure, authority, tail, parts, rfl⟩
    have found := (page_scheme_iff _ _ _).mpr ⟨secure, rfl, parts.whole⟩
    have named : authority.isEmpty = false := by simp [parts.named]
    simp only [streamUrl, found, take_authority parts.inside parts.behind, named, feedUrl]
    rfl

theorem PageParts.unique {page : String} {secure other : Bool}
    {authority tail authority' tail' : List Char} (parts : PageParts page secure authority tail)
    (again : PageParts page other authority' tail') :
    secure = other ∧ authority = authority' ∧ tail = tail' := by
  have first := (page_scheme_iff _ _ _).mpr ⟨secure, rfl, parts.whole⟩
  have second := (page_scheme_iff _ _ _).mpr ⟨other, rfl, again.whole⟩
  have same := Prod.mk.inj (Option.some.inj (first.symm.trans second))
  have sameScheme : secure = other := by
    have schemes := same.1
    revert schemes
    cases secure <;> cases other <;> decide
  have sameAuthority : authority = authority' := by
    rw [← take_authority parts.inside parts.behind, same.2,
      take_authority again.inside again.behind]
  have rest := same.2
  rw [sameAuthority, List.append_cancel_left_eq] at rest
  exact ⟨sameScheme, sameAuthority, rest⟩

end Pages

namespace SocketAddress

/-- Whether colons and escapes are counted anew behind a character. -/
def beginsPart (c : Char) : Bool := c == '@' || c == ']'

def lastPart (text : List Char) : List Char := text.rtakeWhile fun c => !beginsPart c

/-- What may stand behind the beginning of an authority: eight colons at most in a part of it, one
bracket of each kind, the opening one first, and no escape before it in its part. -/
@[mk_iff]
structure Continues (before : List Char) (c : Char) : Prop where
  fits : isAuthorityChar c = true ∨ c = '%'
  colon : c = ':' → (lastPart before).count ':' < 8
  opening : c = '[' → '[' ∉ before ∧ '%' ∉ lastPart before
  closing : c = ']' → '[' ∈ before ∧ ']' ∉ before

/-- An authority that a request can be made for: brackets match, the host is followed by one number
at most and has no escapes, and it is not missing behind an `@`. -/
structure Requestable (text : List Char) : Prop where
  continues : ∀ before c after, text = before ++ c :: after → Continues before c
  matching : '[' ∈ text ↔ ']' ∈ text
  colons : (lastPart text).count ':' ≤ 1
  unescaped : '%' ∉ lastPart text
  ended : text.getLast? ≠ some '@'

theorem last_part_concat (before : List Char) (c : Char) :
    lastPart (before ++ [c]) = if beginsPart c then [] else lastPart before ++ [c] := by
  cases begins : beginsPart c <;> simp [lastPart, begins]

def Scan.of (before : List Char) : Scan :=
  ⟨(lastPart before).count ':', decide ('[' ∈ before), decide (']' ∈ before),
    decide ('%' ∈ lastPart before)⟩

/-- A scan takes just the characters that continue what is before them, and stays in step. -/
theorem take_iff (before : List Char) (c : Char) (next : Scan) :
    (Scan.of before).take c = some next ↔ Continues before c ∧ Scan.of (before ++ [c]) = next := by
  simp only [Scan.take, Scan.of, last_part_concat, continues_iff]
  by_cases colon : c = ':'
  · subst colon
    by_cases full : 8 ≤ (lastPart before).count ':'
    · simp [isAuthorityChar, full, Nat.not_lt.mpr full]
    · simp [isAuthorityChar, beginsPart, full, Nat.not_le.mp full]
  by_cases opening : c = '['
  · subst opening
    simp [isAuthorityChar, beginsPart, and_comm]
  by_cases closing : c = ']'
  · subst closing
    simp [isAuthorityChar, beginsPart]
  by_cases user : c = '@'
  · subst user
    simp [isAuthorityChar, beginsPart]
  by_cases escape : c = '%'
  · subst escape
    simp [isAuthorityChar, beginsPart]
  simp [colon, opening, closing, user, escape, beginsPart, Ne.symm opening, Ne.symm closing,
    Ne.symm escape]

/-- Every character of a longer text continues what is before it if those of the text do, and the
last one continues the text. -/
theorem continues_concat (text : List Char) (last : Char) :
    (∀ before c after, text ++ [last] = before ++ c :: after → Continues before c) ↔
      (∀ before c after, text = before ++ c :: after → Continues before c) ∧
        Continues text last := by
  constructor
  · intro continues
    refine ⟨fun before c after split => ?_, continues text last [] rfl⟩
    exact continues before c (after ++ [last]) (by simp [split])
  · rintro ⟨continues, ends⟩ before c after split
    cases after using List.reverseRecOn with
    | nil =>
        obtain ⟨rfl, same⟩ := List.append_inj' split rfl
        cases same
        exact ends
    | append_singleton after final =>
        rw [← List.cons_append, ← List.append_assoc] at split
        exact continues before c after (List.append_inj' split rfl).1

/-- A whole scan has seen what its text holds, and every character of that has continued it. -/
theorem scan_iff (text : List Char) (scan : Scan) :
    text.foldlM Scan.take (Scan.of []) = some scan ↔
      (∀ before c after, text = before ++ c :: after → Continues before c) ∧
        Scan.of text = scan := by
  induction text using List.reverseRecOn generalizing scan with
  | nil => simp
  | append_singleton text last induction =>
      rw [continues_concat, List.foldlM_append, Option.bind_eq_bind, Option.bind_eq_some_iff]
      simp only [List.foldlM_cons, List.foldlM_nil, bind_pure, induction]
      constructor
      · rintro ⟨_, ⟨continues, rfl⟩, taken⟩
        obtain ⟨ends, same⟩ := (take_iff text last scan).mp taken
        exact ⟨⟨continues, ends⟩, same⟩
      · rintro ⟨⟨continues, ends⟩, same⟩
        exact ⟨Scan.of text, ⟨continues, rfl⟩, (take_iff text last scan).mpr ⟨ends, same⟩⟩

/-- The texts that a request takes for authorities, told by what stands before each character. -/
theorem is_authority_iff (text : List Char) : isAuthority text = true ↔ Requestable text := by
  have start : (⟨0, false, false, false⟩ : Scan) = Scan.of [] := rfl
  rw [isAuthority, start]
  cases scanned : text.foldlM Scan.take (Scan.of []) with
  | none =>
      have refused : ¬ Requestable text := by
        intro requestable
        rw [(scan_iff text (Scan.of text)).mpr ⟨requestable.continues, rfl⟩] at scanned
        cases scanned
      simp [refused]
  | some scan =>
      obtain ⟨continues, rfl⟩ := (scan_iff text scan).mp scanned
      simp only [Scan.of, Bool.and_eq_true, beq_iff_eq, decide_eq_decide, Bool.not_eq_true',
        decide_eq_false_iff_not, bne_iff_ne]
      constructor
      · rintro ⟨⟨⟨matching, colons⟩, unescaped⟩, ended⟩
        exact ⟨continues, matching, of_decide_eq_true colons, unescaped, ended⟩
      · intro requestable
        exact ⟨⟨⟨requestable.matching, decide_eq_true requestable.colons⟩,
          requestable.unescaped⟩, requestable.ended⟩

/-- The address of a feed for which a request can be made. -/
def Addressed (secure : Bool) (authority : List Char) (endpoint : Endpoint) : Prop :=
  Requestable authority ∧ Text.Utf8.size (feedUrl secure authority endpoint).toList ≤ mostBytes

theorem cut_scheme_feed (secure : Bool) (authority : List Char) (endpoint : Endpoint) :
    cutScheme (feedUrl secure authority endpoint).toList =
      some (if secure then "wss".toList else "ws".toList,
        authority ++ endpoint.path.toList) := by
  have whole : (feedUrl secure authority endpoint).toList =
      (if secure then "wss".toList else "ws".toList) ++ "://".toList ++
        (authority ++ endpoint.path.toList) := by
    cases secure <;> simp [feedUrl]
  rw [whole]
  cases secure <;> rfl

theorem read_target_endpoint (endpoint : Endpoint) :
    readTarget endpoint.path.toList = some (endpoint.path.toList, none) := by
  cases endpoint <;> rfl

/-- The address of a feed is read if its authority fits and it is not too long. -/
theorem read_feed_iff {secure : Bool} {authority : List Char} (endpoint : Endpoint)
    (named : authority ≠ []) (inside : ∀ c ∈ authority, endsAuthority c = false)
    (address : SocketAddress) :
    read? (feedUrl secure authority endpoint).toList = some address ↔
      Addressed secure authority endpoint ∧ ⟨authority, endpoint.path.toList, none⟩ = address := by
  have taken : (authority ++ endpoint.path.toList).takeWhile
      (fun c => c != '/' && c != '?' && c != '#') = authority := by
    have same : (fun c : Char => c != '/' && c != '?' && c != '#') =
        fun c => !endsAuthority c := by
      funext c
      simp [endsAuthority, bne]
    have slash : ∀ c ∈ endpoint.path.toList.head?, endsAuthority c = true := by
      intro c first
      cases endpoint <;> cases first <;> rfl
    rw [same, take_authority inside slash]
  have short : ¬ mostSchemeChars < (if secure then "wss".toList else "ws".toList).length := by
    cases secure <;> decide
  have rooted : endpoint.path ≠ "" := by
    cases endpoint <;> decide
  have nonempty : authority.isEmpty = false := by simp [named]
  rw [Addressed, ← is_authority_iff]
  by_cases long : mostBytes < Text.Utf8.size (feedUrl secure authority endpoint).toList
  · simp [read?, long, Nat.not_le.mpr long]
  · simp only [read?, if_neg long, cut_scheme_feed, taken, List.drop_left, read_target_endpoint,
      short, nonempty]
    cases accepted : isAuthority authority <;> simp [Nat.not_lt.mp long, rooted]

end SocketAddress

end FlagBoard
