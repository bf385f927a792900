import FlagBoard.Http.Client
import FlagBoard.Proofs.Feed.Authority
import FlagBoard.Proofs.Json.Digits
import Mathlib

/-!
Addresses that are taken as they are printed. What may not stand for itself in a path or a query is
escaped when an address is read, but nothing in a host is: a request can be made just where the host
fits as it is and the address is not too long.
-/

namespace FlagBoard

namespace Text.Percent

theorem digit_alphanum (value : Nat) (small : value < 16) : (digit value).isAlphanum = true := by
  interval_cases value <;> rfl

/-- What a character is written with: itself where it may stand, or signs that always may. -/
theorem encode_but_chars (marks : List Char) (c : Char) : ∀ d ∈ encodeBut marks c,
    d = c ∧ 32 ≤ c.toNat ∧ c.toNat < 127 ∧ c ∉ marks ∨ d = '%' ∨ d.isAlphanum = true := by
  intro d member
  rw [encodeBut] at member
  split at member
  next plain => exact .inl ⟨List.mem_singleton.mp member, plain⟩
  · refine .inr ?_
    rw [encodeChar, List.mem_flatMap] at member
    obtain ⟨byte, _, member⟩ := member
    have fits : byte.toNat < 256 := byte.toNat_lt
    simp only [encodeByte, List.mem_cons, List.not_mem_nil, or_false] at member
    rcases member with rfl | rfl | rfl
    · exact .inl rfl
    · exact .inr (digit_alphanum _ (by omega))
    · exact .inr (digit_alphanum _ (by omega))

end Text.Percent

namespace Http

section Hosts

/-- A text in which no authority ends. -/
def Inside (text : List Char) : Prop := ∀ c ∈ text, endsAuthority c = false

theorem inside_append {first second : List Char} (inFirst : Inside first)
    (inSecond : Inside second) : Inside (first ++ second) :=
  List.forall_mem_append.mpr ⟨inFirst, inSecond⟩

theorem inside_intersperse (mark : Char) (marks : endsAuthority mark = false)
    (parts : List (List Char)) (inside : ∀ part ∈ parts, Inside part) :
    Inside (parts.intersperse [mark]).flatten := by
  induction parts with
  | nil => simp [Inside]
  | cons part rest induction =>
      rw [List.forall_mem_cons] at inside
      cases rest with
      | nil => simpa using inside.1
      | cons next others =>
          have behind := induction inside.2
          rw [List.intersperse_cons_cons, List.flatten_cons, List.flatten_cons]
          refine inside_append inside.1 (inside_append ?_ behind)
          simp [Inside, marks]

theorem inside_digits (number : Nat) : Inside (Nat.toDigits 16 number) := by
  induction number using Nat.strongRecOn with
  | ind number induction =>
      have last (value : Nat) (small : value < 16) : Inside [value.digitChar] := by
        rw [Inside, List.forall_mem_singleton]
        interval_cases value <;> rfl
      by_cases small : number < 16
      · rw [Nat.toDigits_of_lt_base small]
        exact last number small
      · rw [Nat.toDigits_of_base_le (by decide) (by omega)]
        exact inside_append (induction _ (by omega)) (last _ (by omega))

theorem inside_decimal (number : Nat) : Inside (toString number).toList := by
  intro c member
  rw [Nat.toString_eq_ofList_toDigits, String.toList_ofList] at member
  have bounds := Json.digit_bounds c (Json.digit_of_mem_toDigits number c member)
  rw [Bool.eq_false_iff, ne_eq, ends_authority_iff]
  rintro (rfl | rfl | rfl) <;> revert bounds <;> decide

theorem inside_groups (groups : List Nat) : Inside (printGroups groups) := by
  apply inside_intersperse ':' rfl
  intro part member
  obtain ⟨group, _, rfl⟩ := List.mem_map.mp member
  exact inside_digits group

theorem inside_long_address (groups : List Nat) : Inside (printLongAddress groups) := by
  have plain : Inside [':', ':'] ∧ Inside [']'] ∧ endsAuthority '[' = false := by
    simp [Inside, endsAuthority]
  rw [printLongAddress, Inside, List.cons_append, List.forall_mem_cons]
  refine ⟨plain.2.2, inside_append ?_ plain.2.1⟩
  split
  · exact inside_append (inside_append (inside_groups _) plain.1) (inside_groups _)
  · exact inside_groups _

/-- Four decimal numbers between full stops, or however many there are. -/
theorem inside_decimals (numbers : List Nat) (more : numbers ≠ []) :
    let host := ((numbers.map fun number => (toString number).toList).intersperse ['.']).flatten
    host ≠ [] ∧ Inside host := by
  intro host
  constructor
  · obtain ⟨number, rest, rfl⟩ := List.exists_cons_of_ne_nil more
    cases rest <;> simp [host]
  · apply inside_intersperse '.' rfl
    intro part member
    obtain ⟨number, _, rfl⟩ := List.mem_map.mp member
    exact inside_decimal number

theorem inside_address {name host : List Char} (read : readAddress name = some host) :
    host ≠ [] ∧ Inside host := by
  rw [readAddress] at read
  obtain ⟨numbers, _, read⟩ := Option.bind_eq_some_iff.mp read
  obtain ⟨last, _, read⟩ := Option.bind_eq_some_iff.mp read
  dsimp only at read
  split at read
  · cases read
  next few =>
    split at read
    · cases read
    · split at read
      · cases read
      · rw [← Option.some.inj read]
        apply inside_decimals
        apply List.append_ne_nil_of_right_ne_nil
        rw [ne_eq, List.map_eq_nil_iff, List.range_eq_nil]
        omega

/-- A host is never empty, and no authority ends in it. -/
theorem read_host_inside {text host : List Char} (read : readHost text = some host) :
    host ≠ [] ∧ Inside host := by
  rw [readHost.eq_def] at read
  split at read
  · rw [readBracketed] at read
    split at read
    · obtain ⟨groups, _, rfl⟩ := Option.map_eq_some_iff.mp read
      exact ⟨by simp [printLongAddress], inside_long_address groups⟩
    · cases read
  · obtain ⟨bytes, _, read⟩ := Option.bind_eq_some_iff.mp read
    obtain ⟨name, _, read⟩ := Option.bind_eq_some_iff.mp read
    split at read
    · cases read
    next named =>
      split at read
      · exact inside_address read
      · obtain rfl := Option.some.inj read
        simp only [Bool.or_eq_true, not_or, List.isEmpty_iff, List.any_eq_true, not_exists,
          not_and, Bool.not_eq_true] at named
        refine ⟨named.1, fun c member => ?_⟩
        have other := named.2 c member
        rw [Bool.eq_false_iff, ne_eq, ends_authority_iff]
        rintro (rfl | rfl | rfl) <;> revert other <;> decide

theorem read_authority_inside {usual : Nat} {text host : List Char}
    (read : Address.readAuthority usual text = some host) : host ≠ [] ∧ Inside host := by
  rw [Address.readAuthority] at read
  obtain ⟨name, found, read⟩ := Option.bind_eq_some_iff.mp read
  obtain ⟨service, _, read⟩ := Option.bind_eq_some_iff.mp read
  obtain ⟨named, inside⟩ := read_host_inside found
  rw [← Option.some.inj read, Address.printAuthority]
  refine ⟨by simp [named], inside_append inside ?_⟩
  cases service with
  | none => simp [Inside]
  | some number =>
      rw [Option.elim_some, Inside, List.forall_mem_cons]
      exact ⟨rfl, inside_decimal number⟩

end Hosts

section Targets

theorem sign_of_alphanum {c : Char} (plain : c.isAlphanum = true) :
    SocketAddress.isPathChar c = true ∧ SocketAddress.isQueryChar c = true := by
  have other (d : Char) (sign : d.isAlphanum = false) : c ≠ d := by
    rintro rfl
    rw [sign] at plain
    cases plain
  have printed : 33 ≤ c.toNat := by
    simp only [Char.isAlphanum, Char.isAlpha, Char.isUpper, Char.isLower, Char.isDigit,
      Bool.or_eq_true, Bool.and_eq_true, decide_eq_true_eq, ge_iff_le,
      UInt32.le_iff_toNat_le] at plain
    change 33 ≤ c.val.toNat
    rcases plain with (bounds | bounds) | bounds <;> exact Nat.le_trans (by decide) bounds.1
  constructor
  · simp [SocketAddress.isPathChar, printed, other '\x7f' rfl, other '#' rfl, other '<' rfl,
      other '>' rfl, other '?' rfl, other '\x60' rfl]
  · simp [SocketAddress.isQueryChar, printed, other '\x7f' rfl, other '#' rfl, other '<' rfl,
      other '>' rfl, other '"' rfl]

/-- What is printed for a character that is escaped wherever a blank is. -/
theorem printed_of_escape {marks : List Char} (blank : ' ' ∈ marks) {c d : Char}
    (member : d ∈ Text.Percent.encodeBut marks c) :
    33 ≤ d.toNat ∧ d ≠ '\x7f' ∧ d ∉ marks ∨ d = '%' ∨ d.isAlphanum = true := by
  rcases Text.Percent.encode_but_chars marks c d member with ⟨rfl, printed, below, unmarked⟩ | signs
  · refine .inl ⟨?_, ?_, unmarked⟩
    · have other : d.toNat ≠ ' '.toNat := by
        intro same
        rw [Char.toNat_inj.mp same] at unmarked
        exact unmarked blank
      have space : ' '.toNat = 32 := rfl
      omega
    · rintro rfl
      revert below
      decide
  · exact .inr signs

theorem path_chars (parts : List (List Char)) :
    ∀ c ∈ Address.joinPath parts, SocketAddress.isPathChar c = true := by
  intro c member
  rw [Address.joinPath, List.mem_flatMap] at member
  obtain ⟨part, _, member⟩ := member
  rcases List.mem_cons.mp member with rfl | member
  · rfl
  · rw [Address.escapePath, List.mem_flatMap] at member
    obtain ⟨d, _, member⟩ := member
    rcases printed_of_escape (by simp) member with ⟨printed, last, unmarked⟩ | rfl | plain
    · simp only [List.mem_cons, List.not_mem_nil, or_false, not_or] at unmarked
      simp [SocketAddress.isPathChar, printed, last, unmarked]
    · rfl
    · exact (sign_of_alphanum plain).1

theorem query_chars (text : List Char) :
    ∀ c ∈ Address.escapeQuery true text, SocketAddress.isQueryChar c = true := by
  intro c member
  rw [Address.escapeQuery, List.mem_flatMap] at member
  obtain ⟨d, _, member⟩ := member
  rcases printed_of_escape (by simp) member with ⟨printed, last, unmarked⟩ | rfl | plain
  · simp only [if_true, List.cons_append, List.nil_append, List.mem_cons, List.not_mem_nil,
      or_false, not_or] at unmarked
    simp [SocketAddress.isQueryChar, printed, last, unmarked]
  · rfl
  · exact (sign_of_alphanum plain).2

/-- A path and a query in which nothing has to be escaped are read as they are printed. -/
theorem read_target_printed {path : List Char} {query : Option (List Char)}
    (inPath : ∀ c ∈ path, SocketAddress.isPathChar c = true)
    (inQuery : ∀ text ∈ query, ∀ c ∈ text, SocketAddress.isQueryChar c = true)
    (fragment : Option (List Char)) :
    SocketAddress.readTarget (path ++ (Address.marked '?' query ++ Address.marked '#' fragment)) =
      some (path, query) := by
  have passes : ∀ c ∈ path, (c != '?' && c != '#') = true := by
    intro c member
    have fits := inPath c member
    have other (d : Char) (unfit : SocketAddress.isPathChar d = false) : c ≠ d := by
      rintro rfl
      rw [unfit] at fits
      cases fits
    simp [other '?' rfl, other '#' rfl]
  have ends : ∀ c ∈ (Address.marked '?' query ++ Address.marked '#' fragment).head?,
      (c != '?' && c != '#') = false := by
    cases query <;> cases fragment <;> simp [Address.marked]
  have taken := (split_where_ends passes ends).1
  have whole : path.all SocketAddress.isPathChar = true := List.all_eq_true.mpr inPath
  simp only [SocketAddress.readTarget, taken, whole, List.drop_left]
  cases query with
  | none => cases fragment <;> rfl
  | some text =>
      have within := inQuery text rfl
      have unmarked : ∀ c ∈ text, (c != '#') = true := by
        apply passes_absent
        intro member
        have fits := within '#' member
        revert fits
        decide
      have stops : ∀ c ∈ (Address.marked '#' fragment).head?, (c != '#') = false := by
        cases fragment <;> simp [Address.marked]
      have query := (split_where_ends unmarked stops).1
      have asked : text.all SocketAddress.isQueryChar = true := List.all_eq_true.mpr within
      simp only [Address.marked, List.cons_append] at query ⊢
      simp [query, asked]

end Targets

/-- A host that a request can be made for, in an address that is short enough for one. -/
def Askable (host : List Char) (address : Address) : Prop :=
  SocketAddress.Requestable host ∧
    Text.Utf8.size address.text ≤ SocketAddress.mostBytes

/-- The addresses of pages that are taken as they are printed. -/
theorem is_strict_iff {scheme host : List Char} (web : scheme = "http".toList ∨ scheme = "https".toList)
    (named : host ≠ []) (inside : Inside host) (parts : List (List Char))
    (query fragment : Option (List Char)) :
    let address : Address :=
      ⟨scheme, some host, Address.joinPath parts, query.map (Address.escapeQuery true), fragment⟩
    address.isStrict = true ↔ Askable host address := by
  intro address
  let target := Address.joinPath parts ++
    (Address.marked '?' address.query ++ Address.marked '#' fragment)
  have read : SocketAddress.readTarget target = some (address.path, address.query) := by
    apply read_target_printed (path_chars parts)
    intro text member
    obtain ⟨text, _, rfl⟩ := Option.mem_map.mp member
    exact query_chars text
  have text : address.text = scheme ++ ':' :: '/' :: '/' :: (host ++ target) := by
    simp [address, target, Address.text]
  have cut : SocketAddress.cutScheme address.text = some (scheme, host ++ target) := by
    rw [text]
    rcases web with rfl | rfl <;> rfl
  have short : ¬ SocketAddress.mostSchemeChars < scheme.length := by
    rcases web with rfl | rfl <;> decide
  have taken : (host ++ target).takeWhile (fun c => c != '/' && c != '?' && c != '#') = host := by
    have same : (fun c : Char => c != '/' && c != '?' && c != '#') =
        fun c => !endsAuthority c := by
      funext c
      simp [endsAuthority, bne]
    rw [same]
    apply take_authority inside
    cases parts <;> cases query <;> cases fragment <;>
      simp [target, address, Address.joinPath, Address.marked, endsAuthority]
  have nonempty : host.isEmpty = false := by simp [named]
  rw [Askable, ← SocketAddress.is_authority_iff, Address.isStrict, Option.isSome_iff_exists]
  by_cases long : SocketAddress.mostBytes < Text.Utf8.size address.text
  · simp [SocketAddress.read?, long, Nat.not_le.mpr long]
  · simp only [SocketAddress.read?, if_neg long, cut, taken, List.drop_left, read, short, nonempty]
    cases accepted : SocketAddress.isAuthority host <;> simp [Nat.not_lt.mp long]

end Http

end FlagBoard
