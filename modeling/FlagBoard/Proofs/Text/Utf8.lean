import FlagBoard.Text.Utf8
import Mathlib

/-!
Text and bytes. The bytes of a text are read back as that text, and whatever stands before it, a
byte below 0x80 is read as a character of its own: no ill formed sequence takes it in.
-/

namespace FlagBoard.Text.Utf8

section Boundary

/-- A begun character waits for a byte that may only stand inside of one. -/
def Partial.Inner (started : Partial) : Prop := 0x80 ≤ started.least

theorem lead_inner (byte : UInt8) (started : Partial) (opens : lead byte = .opens started) :
    started.Inner := by
  simp only [lead] at opens
  split_ifs at opens <;> rw [← Lead.opens.inj opens] <;> simp [Partial.Inner]

theorem take_inner (started grown : Partial) (byte : UInt8)
    (taken : started.take byte = some grown) : grown.Inner := by
  rw [Partial.take] at taken
  split_ifs at taken
  rw [← Option.some.inj taken]
  exact UInt8.le_refl _

theorem lead_plain (byte : UInt8) (plain : byte < 0x80) :
    lead byte = .whole (Char.ofNat byte.toNat) := by
  rw [lead]
  exact if_pos plain

theorem take_plain (started : Partial) (inner : started.Inner) (byte : UInt8)
    (plain : byte < 0x80) : started.take byte = none := by
  refine if_neg fun fits => ?_
  exact absurd plain (UInt8.not_lt.mpr (UInt8.le_trans inner fits.1))

/-- A byte below 0x80 ends whatever was begun before it, and reading goes on behind it as at the
start. -/
theorem decode_from_append_plain (begun : Option Partial) (inner : ∀ started ∈ begun, started.Inner)
    (first : List UInt8) (byte : UInt8) (plain : byte < 0x80) (rest : List UInt8) :
    decodeFrom begun (first ++ byte :: rest) =
      decodeFrom begun first ++ Char.ofNat byte.toNat :: decodeFrom none rest := by
  induction first generalizing begun with
  | nil =>
      cases begun with
      | none => simp [decodeFrom, lead_plain byte plain]
      | some started =>
          have refused := take_plain started (inner started rfl) byte plain
          simp [decodeFrom, refused, lead_plain byte plain]
  | cons next first induction =>
      have fresh := induction none (by simp)
      have opened (started : Partial) (opens : lead next = .opens started) :=
        induction (some started) (by simpa using lead_inner next started opens)
      cases begun with
      | none =>
          cases leads : lead next <;> simp [decodeFrom, leads, fresh, opened]
      | some started =>
          have continued (grown : Partial) (taken : started.take next = some grown) :=
            induction (some grown) (by simpa using take_inner started grown next taken)
          cases taken : started.take next with
          | some grown =>
              by_cases whole : grown.owed = 0 <;>
                simp [decodeFrom, taken, whole, fresh, continued]
          | none =>
              cases leads : lead next <;> simp [decodeFrom, taken, leads, fresh, opened]

end Boundary

theorem decode_append_newline (first rest : List UInt8) :
    decode (first ++ 0x0a :: rest) = decode first ++ '\n' :: decode rest :=
  decode_from_append_plain none (by simp) first 0x0a (by decide) rest

section Encoded

theorem to_nat_byte (value : Nat) (small : value < 256) : (UInt8.ofNat value).toNat = value :=
  UInt8.toNat_ofNat_of_lt' small

/-- A byte inside of a character adds six bits to it. -/
theorem take_tail (bits owed tail : Nat) (least most : UInt8) (small : tail < 64)
    (lower : least.toNat ≤ tail + 0x80) (upper : tail + 0x80 ≤ most.toNat) :
    Partial.take ⟨bits, owed, least, most⟩ (UInt8.ofNat (tail + 0x80)) =
      some ⟨bits * 64 + tail, owed - 1, 0x80, 0xbf⟩ := by
  have value := to_nat_byte (tail + 0x80) (by omega)
  have fits : least ≤ UInt8.ofNat (tail + 0x80) ∧ UInt8.ofNat (tail + 0x80) ≤ most := by
    simp only [UInt8.le_iff_toNat_le, value]
    exact ⟨lower, upper⟩
  rw [Partial.take, if_pos fits, value, Nat.add_sub_cancel]

theorem decode_take (started grown : Partial) (byte : UInt8)
    (taken : started.take byte = some grown) (rest : List UInt8) :
    decodeFrom (some started) (byte :: rest) =
      if grown.owed = 0 then Char.ofNat grown.bits :: decodeFrom none rest
      else decodeFrom (some grown) rest := by
  simp [decodeFrom, taken]

/-- The last byte of a character completes it. -/
theorem decode_last (bits tail : Nat) (least most : UInt8) (small : tail < 64)
    (lower : least.toNat ≤ tail + 0x80) (upper : tail + 0x80 ≤ most.toNat) (rest : List UInt8) :
    decodeFrom (some ⟨bits, 1, least, most⟩) (UInt8.ofNat (tail + 0x80) :: rest) =
      Char.ofNat (bits * 64 + tail) :: decodeFrom none rest :=
  decode_take _ _ _ (take_tail bits 1 tail least most small lower upper) rest

/-- A byte before the last of a character leaves one byte less to read. -/
theorem decode_inner (bits owed tail : Nat) (least most : UInt8) (small : tail < 64)
    (lower : least.toNat ≤ tail + 0x80) (upper : tail + 0x80 ≤ most.toNat) (rest : List UInt8) :
    decodeFrom (some ⟨bits, owed + 2, least, most⟩) (UInt8.ofNat (tail + 0x80) :: rest) =
      decodeFrom (some ⟨bits * 64 + tail, owed + 1, 0x80, 0xbf⟩) rest :=
  decode_take _ _ _ (take_tail bits (owed + 2) tail least most small lower upper) rest

theorem decode_opens (byte : UInt8) (started : Partial) (opens : lead byte = .opens started)
    (rest : List UInt8) : decodeFrom none (byte :: rest) = decodeFrom (some started) rest := by
  simp [decodeFrom, opens]

theorem lead_two (bits : Nat) (least : 2 ≤ bits) (most : bits < 32) :
    lead (UInt8.ofNat (bits + 0xc0)) = .opens ⟨bits, 1, 0x80, 0xbf⟩ := by
  simp only [lead, to_nat_byte (bits + 0xc0) (by omega)]
  split_ifs <;> first | omega | simp

theorem lead_three (bits : Nat) (most : bits < 16) :
    lead (UInt8.ofNat (bits + 0xe0)) =
      .opens ⟨bits, 2, if bits = 0 then 0xa0 else 0x80, if bits = 13 then 0x9f else 0xbf⟩ := by
  simp only [lead, to_nat_byte (bits + 0xe0) (by omega)]
  split_ifs <;> first | omega | simp

theorem lead_four (bits : Nat) (most : bits < 5) :
    lead (UInt8.ofNat (bits + 0xf0)) =
      .opens ⟨bits, 3, if bits = 0 then 0x90 else 0x80, if bits = 4 then 0x8f else 0xbf⟩ := by
  simp only [lead, to_nat_byte (bits + 0xf0) (by omega)]
  split_ifs <;> first | omega | simp

/-- The bytes of a character are read as that character. -/
theorem decode_from_char (c : Char) (rest : List UInt8) :
    decodeFrom none (String.utf8EncodeChar c ++ rest) = c :: decodeFrom none rest := by
  have valid : c.val.toNat < 0xd800 ∨ 0xdfff < c.val.toNat ∧ c.val.toNat < 0x110000 := c.valid
  have whole : Char.ofNat c.val.toNat = c := Char.ofNat_toNat c
  simp only [String.utf8EncodeChar]
  generalize c.val.toNat = point at valid whole ⊢
  split_ifs with one two three <;> simp only [List.cons_append, List.nil_append]
  · have plain : lead (UInt8.ofNat point) = .whole c := by
      rw [lead, to_nat_byte point (by omega), if_pos (by omega), whole]
    simp only [decodeFrom, plain]
  · have joined : point / 64 % 32 * 64 + point % 64 = point := by omega
    rw [decode_opens _ _ (lead_two _ (by omega) (by omega)),
      decode_last _ _ _ _ (by omega) (by simp) (by simp; omega), joined, whole]
  · have joined : (point / 4096 % 16 * 64 + point / 64 % 64) * 64 + point % 64 = point := by omega
    -- The bounds of the second byte leave out points that need two bytes only, and surrogates.
    have lower : (if point / 4096 % 16 = 0 then (0xa0 : UInt8) else 0x80).toNat ≤
        point / 64 % 64 + 0x80 := by
      split_ifs <;> simp
      omega
    have upper : point / 64 % 64 + 0x80 ≤
        (if point / 4096 % 16 = 13 then (0x9f : UInt8) else 0xbf).toNat := by
      split_ifs <;> simp <;> omega
    rw [decode_opens _ _ (lead_three _ (by omega)), decode_inner _ 0 _ _ _ (by omega) lower upper,
      decode_last _ _ _ _ (by omega) (by simp) (by simp; omega), joined, whole]
  · have joined : ((point / 262144 % 8 * 64 + point / 4096 % 64) * 64 + point / 64 % 64) * 64 +
        point % 64 = point := by omega
    -- Here they leave out points that need three bytes only, and those above U+10FFFF.
    have lower : (if point / 262144 % 8 = 0 then (0x90 : UInt8) else 0x80).toNat ≤
        point / 4096 % 64 + 0x80 := by
      split_ifs <;> simp
      omega
    have upper : point / 4096 % 64 + 0x80 ≤
        (if point / 262144 % 8 = 4 then (0x8f : UInt8) else 0xbf).toNat := by
      split_ifs <;> simp <;> omega
    rw [decode_opens _ _ (lead_four _ (by omega)), decode_inner _ 1 _ _ _ (by omega) lower upper,
      decode_inner _ 0 _ _ _ (by omega) (by simp) (by simp; omega),
      decode_last _ _ _ _ (by omega) (by simp) (by simp; omega), joined, whole]

theorem bytes_of_text (text : String) :
    text.toUTF8.data.toList = text.toList.flatMap String.utf8EncodeChar := by
  rw [String.toUTF8, ← String.utf8Encode_toList, List.utf8Encode, List.data_toByteArray,
    List.toList_toArray]

/-- The bytes of a text are read as that text. -/
theorem decode_to_utf8 (text : String) : decode text.toUTF8.data.toList = text.toList := by
  rw [bytes_of_text, decode]
  induction text.toList with
  | nil => rfl
  | cons c rest induction => rw [List.flatMap_cons, decode_from_char, induction]

theorem encode_char_eq (c : Char) : encodeChar c = String.utf8EncodeChar c := by
  have valid : c.val.toNat < 0xd800 ∨ 0xdfff < c.val.toNat ∧ c.val.toNat < 0x110000 := c.valid
  simp only [encodeChar, String.utf8EncodeChar, Char.toNat]
  generalize c.val.toNat = point at valid ⊢
  have same {first second : Nat} (equal : first = second) :
      first.toUInt8 = UInt8.ofNat second := congrArg UInt8.ofNat equal
  split_ifs <;> try omega
  · rfl
  · simp only [List.cons.injEq, and_true]
    exact ⟨same (by omega), same (by simp; omega)⟩
  · simp only [List.cons.injEq, and_true]
    exact ⟨same (by omega), same (by simp; omega), same (by simp; omega)⟩
  · simp only [List.cons.injEq, and_true]
    exact ⟨same (by omega), same (by simp; omega), same (by simp; omega), same (by simp; omega)⟩

/-- Encoding gives the bytes of a text. -/
theorem encode_to_list (text : String) : encode text.toList = text.toUTF8.data.toList := by
  rw [bytes_of_text, encode]
  exact List.flatMap_congr fun c _ => encode_char_eq c

end Encoded

section Sizes

theorem one_le_char_size (c : Char) : 1 ≤ charSize c := by
  simp only [charSize]
  split_ifs <;> decide

theorem length_encode_char (c : Char) : (encodeChar c).length = charSize c := by
  simp only [encodeChar, charSize]
  split_ifs <;> rfl

theorem size_append (first second : List Char) :
    size (first ++ second) = size first + size second := by
  induction first with
  | nil => exact (Nat.zero_add _).symm
  | cons c first induction =>
      change charSize c + size (first ++ second) = charSize c + size first + size second
      rw [induction, Nat.add_assoc]

theorem length_encode (text : List Char) : (encode text).length = size text := by
  induction text with
  | nil => rfl
  | cons c rest induction =>
      rw [encode, List.flatMap_cons, List.length_append, length_encode_char]
      exact congrArg (charSize c + ·) induction

theorem single_of_size {text : List Char} (one : size text = 1) :
    ∃ c, text = [c] ∧ charSize c = 1 := by
  match text with
  | [c] => exact ⟨c, rfl, one⟩
  | first :: second :: rest =>
      have firstWidth := one_le_char_size first
      have secondWidth := one_le_char_size second
      change charSize first + (charSize second + size rest) = 1 at one
      omega

end Sizes

section Plain

theorem not_plain (value : Nat) (least : 0x80 ≤ value) (small : value < 256) :
    ¬ value.toUInt8 < 0x80 := by
  have same : value.toUInt8.toNat = value := to_nat_byte value small
  rw [UInt8.lt_iff_toNat_lt, same]
  exact Nat.not_lt.mpr least

/-- A byte below 0x80 is a character of its own. -/
theorem char_size_of_plain (c : Char) (byte : UInt8) (plain : byte < 0x80)
    (member : byte ∈ encodeChar c) : charSize c = 1 := by
  have valid : c.toNat < 0xd800 ∨ 0xdfff < c.toNat ∧ c.toNat < 0x110000 := c.valid
  by_cases one : c.toNat < 0x80
  · simp [charSize, one]
  · -- All bytes of a longer character have their highest bit.
    have high : ∀ byte ∈ encodeChar c, ¬ byte < 0x80 := by
      have tail (bits : Nat) : ¬ (0x80 + bits % 64).toUInt8 < 0x80 :=
        not_plain _ (by omega) (by omega)
      simp only [encodeChar, if_neg one]
      split_ifs <;> simp only [List.forall_mem_cons]
      · exact ⟨not_plain _ (by omega) (by omega), tail _, List.forall_mem_nil _⟩
      · exact ⟨not_plain _ (by omega) (by omega), tail _, tail _, List.forall_mem_nil _⟩
      · exact ⟨not_plain _ (by omega) (by omega), tail _, tail _, tail _, List.forall_mem_nil _⟩
    exact absurd plain (high byte member)

/-- Where a byte below 0x80 stands, a character begins, and it is that one byte. -/
theorem char_at_plain (text : List Char) (offset : Nat) (byte : UInt8) (plain : byte < 0x80)
    (found : (encode text)[offset]? = some byte) :
    ∃ before c behind, text = before ++ c :: behind ∧ size before = offset ∧ charSize c = 1 := by
  induction text generalizing offset with
  | nil => cases found
  | cons c text induction =>
      have width := length_encode_char c
      rw [encode, List.flatMap_cons] at found
      by_cases inside : offset < charSize c
      · rw [List.getElem?_append_left (by omega)] at found
        have single := char_size_of_plain c byte plain (List.mem_of_getElem? found)
        exact ⟨[], c, text, rfl, by change 0 = offset; omega, single⟩
      · rw [List.getElem?_append_right (by omega), width] at found
        obtain ⟨before, mark, behind, whole, place, single⟩ := induction _ found
        refine ⟨c :: before, mark, behind, by rw [whole]; rfl, ?_, single⟩
        change charSize c + size before = offset
        omega

end Plain

end FlagBoard.Text.Utf8
