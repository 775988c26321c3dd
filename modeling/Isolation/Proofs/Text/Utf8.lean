import Isolation.Text.Utf8

/-!
# Reading back what was encoded

Decoding takes the characters of an encoded text off again, one at a time, and finds nothing
ill-formed on the way (`Isolation.Utf8.decodeEach_encode`). A character of ASCII is one byte, and no
other character has that byte in it, so a pattern that begins in ASCII occurs in the bytes of a text
only between characters (`Isolation.Utf8.exists_of_encode_eq`).
-/

namespace Isolation.Utf8

/-- Texts one after the other are written one after the other. -/
theorem encode_append (text more : List Char) :
    encode (text ++ more) = encode text ++ encode more :=
  List.flatMap_append

/-- A text is written character by character. -/
theorem encode_cons (c : Char) (text : List Char) :
    encode (c :: text) = String.utf8EncodeChar c ++ encode text :=
  List.flatMap_cons

/-- A character of ASCII is written as its own number. -/
theorem utf8EncodeChar_of_lt {c : Char} (ascii : c.toNat < 0x80) :
    String.utf8EncodeChar c = [UInt8.ofNat c.toNat] := by
  have small : c.val.toNat ≤ 0x7F := Nat.le_of_lt_succ ascii
  exact if_pos small

/-- How the first byte tells the length of a character, by its number. -/
theorem sequenceLength_eq (lead : UInt8) :
    sequenceLength lead =
      if lead.toNat < 0x80 then 1
      else if 0xC2 ≤ lead.toNat ∧ lead.toNat ≤ 0xDF then 2
      else if 0xE0 ≤ lead.toNat ∧ lead.toNat ≤ 0xEF then 3
      else if 0xF0 ≤ lead.toNat ∧ lead.toNat ≤ 0xF4 then 4
      else 0 := by
  simp only [sequenceLength, UInt8.lt_iff_toNat_lt, UInt8.le_iff_toNat_le]
  rfl

private theorem continues_of_toNat {byte : UInt8} (lower : 0x80 ≤ byte.toNat)
    (upper : byte.toNat ≤ 0xBF) : continues byte = true := by
  simp only [continues, Bool.and_eq_true, decide_eq_true_eq, UInt8.le_iff_toNat_le]
  exact ⟨lower, upper⟩

/-- A byte may come second when it continues a character and the form is neither overlong, nor a
surrogate, nor beyond the last code point. -/
theorem followsLead_of_toNat {lead byte : UInt8} (lower : 0x80 ≤ byte.toNat)
    (upper : byte.toNat ≤ 0xBF) (notOverlong : lead.toNat = 0xE0 → 0xA0 ≤ byte.toNat)
    (noSurrogate : lead.toNat = 0xED → byte.toNat ≤ 0x9F)
    (notOverlongFour : lead.toNat = 0xF0 → 0x90 ≤ byte.toNat)
    (notBeyond : lead.toNat = 0xF4 → byte.toNat ≤ 0x8F) : followsLead lead byte = true := by
  simp only [followsLead, beq_iff_eq]
  split
  · rename_i same
    subst same
    simp only [Bool.and_eq_true, decide_eq_true_eq, UInt8.le_iff_toNat_le]
    exact ⟨notOverlong rfl, upper⟩
  · split
    · rename_i same
      subst same
      simp only [Bool.and_eq_true, decide_eq_true_eq, UInt8.le_iff_toNat_le]
      exact ⟨lower, noSurrogate rfl⟩
    · split
      · rename_i same
        subst same
        simp only [Bool.and_eq_true, decide_eq_true_eq, UInt8.le_iff_toNat_le]
        exact ⟨notOverlongFour rfl, upper⟩
      · split
        · rename_i same
          subst same
          simp only [Bool.and_eq_true, decide_eq_true_eq, UInt8.le_iff_toNat_le]
          exact ⟨lower, notBeyond rfl⟩
        · exact continues_of_toNat lower upper

section Step

variable {lead second third fourth : UInt8} {rest : Bytes}

private theorem step_one (length : sequenceLength lead = 1) :
    step lead rest = (some (Char.ofNat lead.toNat), rest) := by
  unfold step
  rw [length]
  cases rest with
  | nil => rfl
  | cons head tail => rfl

private theorem step_two (length : sequenceLength lead = 2) (next : continues second = true) :
    step lead (second :: rest) =
      (some (Char.ofNat (lead.toNat % 32 * 64 + payload second)), rest) := by
  unfold step
  rw [length]
  exact if_pos next

private theorem step_three (length : sequenceLength lead = 3)
    (next : followsLead lead second = true) (last : continues third = true) :
    step lead (second :: third :: rest) =
      (some (Char.ofNat ((lead.toNat % 16 * 64 + payload second) * 64 + payload third)), rest) := by
  unfold step
  rw [length]
  exact (if_pos next).trans (if_pos last)

private theorem step_four (length : sequenceLength lead = 4) (next : followsLead lead second = true)
    (middle : continues third = true) (last : continues fourth = true) :
    step lead (second :: third :: fourth :: rest) =
      (some (Char.ofNat (((lead.toNat % 8 * 64 + payload second) * 64 + payload third) * 64 +
        payload fourth)), rest) := by
  unfold step
  rw [length]
  exact (if_pos next).trans ((if_pos middle).trans (if_pos last))

end Step

/-- A number below 256 is that of its byte. -/
theorem toNat_ofNat_of_lt {n : Nat} (small : n < 256) : (UInt8.ofNat n).toNat = n :=
  Nat.mod_eq_of_lt small

/-- The byte that carries the six low bits of a number. -/
def continuation (n : Nat) : UInt8 :=
  UInt8.ofNat (n % 64 + 0x80)

/-- A continuation byte has the last six bits of a number. -/
theorem toNat_continuation (n : Nat) : (continuation n).toNat = n % 64 + 0x80 :=
  toNat_ofNat_of_lt (by omega)

private theorem continues_continuation (n : Nat) : continues (continuation n) = true := by
  have value := toNat_continuation n
  exact continues_of_toNat (by omega) (by omega)

private theorem payload_continuation (n : Nat) : payload (continuation n) = n % 64 := by
  rw [payload, toNat_continuation]
  omega

/-- The bytes of a character, by its number. -/
theorem utf8EncodeChar_eq (c : Char) :
    String.utf8EncodeChar c =
      if c.toNat ≤ 0x7F then [UInt8.ofNat c.toNat]
      else if c.toNat ≤ 0x7FF then
        [UInt8.ofNat (c.toNat / 64 % 32 + 0xC0), continuation c.toNat]
      else if c.toNat ≤ 0xFFFF then
        [UInt8.ofNat (c.toNat / 4096 % 16 + 0xE0), continuation (c.toNat / 64),
          continuation c.toNat]
      else
        [UInt8.ofNat (c.toNat / 262144 % 8 + 0xF0), continuation (c.toNat / 4096),
          continuation (c.toNat / 64), continuation c.toNat] :=
  rfl

/-- A character is no surrogate and not beyond the last code point. -/
theorem toNat_bounds (c : Char) : c.toNat < 0xD800 ∨ 0xDFFF < c.toNat ∧ c.toNat < 0x110000 :=
  c.valid

/-- Decoding takes one encoded character off. -/
theorem step_utf8EncodeChar (c : Char) (rest : Bytes) :
    ∃ lead tail, String.utf8EncodeChar c = lead :: tail ∧
      step lead (tail ++ rest) = (some c, rest) := by
  have bounds := toNat_bounds c
  rw [utf8EncodeChar_eq]
  by_cases one : c.toNat ≤ 0x7F
  · have lead : (UInt8.ofNat c.toNat).toNat = c.toNat := toNat_ofNat_of_lt (by omega)
    refine ⟨_, _, if_pos one, ?_⟩
    rw [List.nil_append, step_one (by rw [sequenceLength_eq, lead, if_pos (by omega)]), lead,
      Char.ofNat_toNat]
  · rw [if_neg one]
    by_cases two : c.toNat ≤ 0x7FF
    · have lead : (UInt8.ofNat (c.toNat / 64 % 32 + 0xC0)).toNat = c.toNat / 64 % 32 + 0xC0 :=
        toNat_ofNat_of_lt (by omega)
      have value : (c.toNat / 64 % 32 + 0xC0) % 32 * 64 + c.toNat % 64 = c.toNat := by omega
      refine ⟨_, _, if_pos two, ?_⟩
      rw [List.singleton_append, step_two _ (continues_continuation _), lead,
        payload_continuation, value, Char.ofNat_toNat]
      rw [sequenceLength_eq, lead, if_neg (by omega), if_pos (by omega)]
    · rw [if_neg two]
      by_cases three : c.toNat ≤ 0xFFFF
      · have lead :
            (UInt8.ofNat (c.toNat / 4096 % 16 + 0xE0)).toNat = c.toNat / 4096 % 16 + 0xE0 :=
          toNat_ofNat_of_lt (by omega)
        have second := toNat_continuation (c.toNat / 64)
        have value : ((c.toNat / 4096 % 16 + 0xE0) % 16 * 64 + c.toNat / 64 % 64) * 64 +
            c.toNat % 64 = c.toNat := by omega
        have length : sequenceLength (UInt8.ofNat (c.toNat / 4096 % 16 + 0xE0)) = 3 := by
          rw [sequenceLength_eq, lead, if_neg (by omega), if_neg (by omega), if_pos (by omega)]
        have next : followsLead (UInt8.ofNat (c.toNat / 4096 % 16 + 0xE0))
            (continuation (c.toNat / 64)) = true := by
          apply followsLead_of_toNat <;> omega
        refine ⟨_, _, if_pos three, ?_⟩
        rw [List.cons_append, List.singleton_append,
          step_three length next (continues_continuation _), lead, payload_continuation,
          payload_continuation, value, Char.ofNat_toNat]
      · have lead :
            (UInt8.ofNat (c.toNat / 262144 % 8 + 0xF0)).toNat = c.toNat / 262144 % 8 + 0xF0 :=
          toNat_ofNat_of_lt (by omega)
        have second := toNat_continuation (c.toNat / 4096)
        have value : (((c.toNat / 262144 % 8 + 0xF0) % 8 * 64 + c.toNat / 4096 % 64) * 64 +
            c.toNat / 64 % 64) * 64 + c.toNat % 64 = c.toNat := by omega
        have length : sequenceLength (UInt8.ofNat (c.toNat / 262144 % 8 + 0xF0)) = 4 := by
          rw [sequenceLength_eq, lead, if_neg (by omega), if_neg (by omega), if_neg (by omega),
            if_pos (by omega)]
        have next : followsLead (UInt8.ofNat (c.toNat / 262144 % 8 + 0xF0))
            (continuation (c.toNat / 4096)) = true := by
          apply followsLead_of_toNat <;> omega
        refine ⟨_, _, if_neg three, ?_⟩
        rw [List.cons_append, List.cons_append, List.singleton_append,
          step_four length next (continues_continuation _) (continues_continuation _), lead,
          payload_continuation, payload_continuation, payload_continuation, value,
          Char.ofNat_toNat]

/-- A byte of ASCII in an encoded character is all of it. -/
theorem toNat_eq_of_mem_utf8EncodeChar {c : Char} {byte : UInt8}
    (member : byte ∈ String.utf8EncodeChar c) (ascii : byte.toNat < 0x80) :
    c.toNat = byte.toNat := by
  have continued : ∀ n, byte ≠ continuation n := by
    rintro n rfl
    rw [toNat_continuation] at ascii
    omega
  have led : ∀ n, 0x80 ≤ n → n < 256 → byte ≠ UInt8.ofNat n := by
    rintro n large small rfl
    rw [toNat_ofNat_of_lt small] at ascii
    omega
  rw [utf8EncodeChar_eq] at member
  by_cases one : c.toNat ≤ 0x7F
  · rw [if_pos one] at member
    rw [List.mem_singleton.mp member, toNat_ofNat_of_lt (by omega)]
  · rw [if_neg one] at member
    exfalso
    by_cases two : c.toNat ≤ 0x7FF
    · rw [if_pos two] at member
      simp only [List.mem_cons, List.not_mem_nil, or_false] at member
      rcases member with here | here
      · exact led _ (by omega) (by omega) here
      · exact continued _ here
    · rw [if_neg two] at member
      by_cases three : c.toNat ≤ 0xFFFF
      · rw [if_pos three] at member
        simp only [List.mem_cons, List.not_mem_nil, or_false] at member
        rcases member with here | here | here
        · exact led _ (by omega) (by omega) here
        · exact continued _ here
        · exact continued _ here
      · rw [if_neg three] at member
        simp only [List.mem_cons, List.not_mem_nil, or_false] at member
        rcases member with here | here | here | here
        · exact led _ (by omega) (by omega) here
        · exact continued _ here
        · exact continued _ here
        · exact continued _ here

/-- **Decoding finds the characters that were encoded.** -/
theorem decodeEach_encode (text : List Char) : decodeEach (encode text) = text.map some := by
  induction text with
  | nil => rw [encode, List.flatMap_nil, decodeEach, List.map_nil]
  | cons c text ih =>
    obtain ⟨lead, tail, written, taken⟩ := step_utf8EncodeChar c (encode text)
    rw [encode_cons, written, List.cons_append, decodeEach, taken, ih, List.map_cons]

/-- A text is read back from its bytes. -/
@[simp] theorem decodeLossy_encode (text : List Char) : decodeLossy (encode text) = text := by
  rw [decodeLossy, decodeEach_encode, List.map_map]
  exact List.map_id text

/-- A text whose bytes start with those of another one starts with it. -/
theorem exists_of_encode_eq_append {text start : List Char} {after : Bytes}
    (shape : encode text = encode start ++ after) :
    ∃ rest, text = start ++ rest ∧ encode rest = after := by
  induction start generalizing text with
  | nil => exact ⟨text, rfl, shape⟩
  | cons c start ih =>
    obtain ⟨lead, tail, written, taken⟩ := step_utf8EncodeChar c (encode start ++ after)
    rw [encode_cons, List.append_assoc, written, List.cons_append] at shape
    cases text with
    | nil => cases shape
    | cons d text =>
      obtain ⟨first, others, spelled, takenToo⟩ := step_utf8EncodeChar d (encode text)
      rw [encode_cons, spelled, List.cons_append] at shape
      obtain ⟨rfl, same⟩ := List.cons.inj shape
      rw [same, taken] at takenToo
      obtain ⟨character, onward⟩ := Prod.mk.inj takenToo
      obtain rfl := Option.some.inj character
      obtain ⟨rest, rfl, remains⟩ := ih onward.symm
      exact ⟨rest, rfl, remains⟩

/-- **A pattern that begins in ASCII occurs in the bytes of a text only between characters.** -/
theorem exists_of_encode_eq {c : Char} (ascii : c.toNat < 0x80) {text pattern : List Char}
    {before after : Bytes} (shape : encode text = before ++ encode (c :: pattern) ++ after) :
    ∃ earlier later, text = earlier ++ c :: pattern ++ later ∧ encode earlier = before ∧
      encode later = after := by
  have first : encode (c :: pattern) = UInt8.ofNat c.toNat :: encode pattern := by
    rw [encode_cons, utf8EncodeChar_of_lt ascii, List.singleton_append]
  induction text generalizing before with
  | nil =>
    rw [first] at shape
    simp [encode] at shape
  | cons d text ih =>
    by_cases starts : before = []
    · rw [starts, List.nil_append] at shape
      obtain ⟨rest, onward, remains⟩ := exists_of_encode_eq_append shape
      exact ⟨[], rest, onward, starts.symm, remains⟩
    · -- The bytes of the first character are all in front of the pattern: a byte of ASCII in
      -- them would be the whole character.
      obtain ⟨more, rfl, onward⟩ : ∃ more, before = String.utf8EncodeChar d ++ more ∧
          encode text = more ++ encode (c :: pattern) ++ after := by
        rw [encode_cons, List.append_assoc] at shape
        rcases List.append_eq_append_iff.mp shape with
          ⟨more, within, onward⟩ | ⟨more, within, onward⟩
        · exact ⟨more, within, onward.trans (List.append_assoc more _ after).symm⟩
        · cases more with
          | nil =>
            rw [List.append_nil] at within
            exact ⟨[], by rw [List.append_nil, within], onward.symm⟩
          | cons byte more =>
            rw [first] at onward
            obtain ⟨rfl, -⟩ := List.cons.inj onward
            have value : (UInt8.ofNat c.toNat).toNat = c.toNat := toNat_ofNat_of_lt (by omega)
            have inside : UInt8.ofNat c.toNat ∈ String.utf8EncodeChar d :=
              within ▸ List.mem_append_right before List.mem_cons_self
            have same := toNat_eq_of_mem_utf8EncodeChar inside (by omega)
            rw [utf8EncodeChar_of_lt (by omega)] at within
            rcases List.singleton_eq_append_iff.mp within with ⟨empty, -⟩ | ⟨-, empty⟩
            · exact absurd empty starts
            · cases empty
      obtain ⟨earlier, later, rfl, rfl, remains⟩ := ih onward
      exact ⟨d :: earlier, later, rfl, encode_cons d earlier, remains⟩

end Isolation.Utf8
