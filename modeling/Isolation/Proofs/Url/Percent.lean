import Isolation.Proofs.Text.Utf8
import Isolation.Url.Percent

/-!
# What percent-encoding keeps

Bytes that were encoded with the percent sign among the escaped characters are found again by
decoding (`Isolation.Url.decodeBytes_encodeBytes`). Encoding a text never makes it shorter, and
leaves it alone exactly when none of its characters is escaped
(`Isolation.Url.length_encodeText_eq_iff`).
-/

namespace Isolation.Url

/-- A digit below sixteen is read back from its upper-case character. -/
theorem hexValue?_upperHexDigit : ∀ digit < 16,
    Text.hexValue? (Text.upperHexDigit digit) = some digit := by
  decide

/-- The characters that escapes are written with. -/
def escapeChars : List Char :=
  "%0123456789ABCDEF".toList

private theorem upperHexDigit_mem_escapeChars : ∀ digit < 16,
    Text.upperHexDigit digit ∈ escapeChars := by
  decide

/-- A byte is escaped with a percent sign and two digits. -/
theorem mem_escapeChars {byte : UInt8} {c : Char} (member : c ∈ escapeByte byte) :
    c ∈ escapeChars := by
  have small := byte.toNat_lt
  simp only [escapeByte, List.mem_cons, List.not_mem_nil, or_false] at member
  rcases member with rfl | rfl | rfl
  · decide
  · exact upperHexDigit_mem_escapeChars _ (by omega)
  · exact upperHexDigit_mem_escapeChars _ (by omega)

/-- The characters of escapes are visible ASCII characters. -/
theorem visible_of_mem_escapeChars {c : Char} (member : c ∈ escapeChars) :
    0x20 < c.toNat ∧ c.toNat < 0x7F := by
  have visible : escapeChars.all (fun c => 0x20 < c.toNat && c.toNat < 0x7F) = true := by decide
  simpa using List.all_eq_true.mp visible c member

private theorem decodeBytes_escapeByte_append (byte : UInt8) (rest : List Char) :
    decodeBytes (escapeByte byte ++ rest) = byte :: decodeBytes rest := by
  have small := byte.toNat_lt
  have number : byte.toNat / 16 * 16 + byte.toNat % 16 = byte.toNat := by omega
  change decodeBytes ('%' :: Text.upperHexDigit (byte.toNat / 16) ::
    Text.upperHexDigit (byte.toNat % 16) :: rest) = _
  rw [decodeBytes, hexValue?_upperHexDigit _ (by omega), hexValue?_upperHexDigit _ (by omega)]
  simp only [number, UInt8.ofNat_toNat]

/-- A character other than the percent sign stands for itself. -/
theorem decodeBytes_cons_of_ne {c : Char} (plain : c ≠ '%') (rest : List Char) :
    decodeBytes (c :: rest) = String.utf8EncodeChar c ++ decodeBytes rest := by
  rw [decodeBytes]
  rintro high low tail rfl
  exact absurd rfl plain

/-- A byte that has to be escaped is, and so is every byte beyond ASCII. -/
theorem encodeByte_of_escaped {escaped : Char → Bool} {byte : UInt8}
    (is : 0x80 ≤ byte ∨ escaped (Char.ofNat byte.toNat) = true) :
    encodeByte escaped byte = escapeByte byte :=
  if_pos is

/-- A byte of ASCII that need not be escaped stands as its character. -/
theorem encodeByte_of_plain {escaped : Char → Bool} {byte : UInt8} (ascii : byte < 0x80)
    (plain : escaped (Char.ofNat byte.toNat) = false) :
    encodeByte escaped byte = [Char.ofNat byte.toNat] := by
  refine if_neg ?_
  rintro (large | isEscaped)
  · exact absurd ascii (UInt8.not_lt.mpr large)
  · rw [plain] at isEscaped
    cases isEscaped

/-- Every byte is written with some character. -/
theorem encodeByte_ne_nil (escaped : Char → Bool) (byte : UInt8) :
    encodeByte escaped byte ≠ [] := by
  change (if 0x80 ≤ byte ∨ escaped (Char.ofNat byte.toNat) = true then escapeByte byte
    else [Char.ofNat byte.toNat]) ≠ []
  split
  · exact List.cons_ne_nil _ _
  · exact List.cons_ne_nil _ _

/-- Bytes are written one by one. -/
theorem encodeBytes_cons (escaped : Char → Bool) (byte : UInt8) (bytes : Bytes) :
    encodeBytes escaped (byte :: bytes) = encodeByte escaped byte ++ encodeBytes escaped bytes :=
  List.flatMap_cons

/-- A character of ASCII is found again in its byte. -/
theorem ofNat_toNat_ofNat {c : Char} (ascii : c.toNat < 0x80) :
    Char.ofNat (UInt8.ofNat c.toNat).toNat = c := by
  rw [Utf8.toNat_ofNat_of_lt (by omega), Char.ofNat_toNat]

/-- A byte of ASCII is written as its character. -/
theorem utf8EncodeChar_ofNat {byte : UInt8} (ascii : byte < 0x80) :
    String.utf8EncodeChar (Char.ofNat byte.toNat) = [byte] ∧
      (Char.ofNat byte.toNat).toNat = byte.toNat := by
  have small : byte.toNat < 0x80 := UInt8.lt_iff_toNat_lt.mp ascii
  have number : (Char.ofNat byte.toNat).toNat = byte.toNat := by
    have numbers : ∀ n < 0x80, (Char.ofNat n).toNat = n := by decide
    exact numbers byte.toNat small
  refine ⟨?_, number⟩
  rw [Utf8.utf8EncodeChar_of_lt (by omega), number, UInt8.ofNat_toNat]

/-- **Encoded bytes are found again**, as long as the percent sign is escaped. -/
theorem decodeBytes_encodeBytes {escaped : Char → Bool} (percent : escaped '%' = true)
    (bytes : Bytes) : decodeBytes (encodeBytes escaped bytes) = bytes := by
  induction bytes with
  | nil => rfl
  | cons byte bytes ih =>
    rw [encodeBytes_cons]
    by_cases is : 0x80 ≤ byte ∨ escaped (Char.ofNat byte.toNat) = true
    · rw [encodeByte_of_escaped is, decodeBytes_escapeByte_append, ih]
    · obtain ⟨small, plain⟩ := not_or.mp is
      have ascii : byte < 0x80 := UInt8.not_le.mp small
      have noPercent : Char.ofNat byte.toNat ≠ '%' := by
        intro same
        rw [same] at plain
        exact plain percent
      rw [encodeByte_of_plain ascii (Bool.not_eq_true _ ▸ plain), List.singleton_append,
        decodeBytes_cons_of_ne noPercent, (utf8EncodeChar_ofNat ascii).1, ih]
      rfl

/-- What encoded bytes are written with. -/
theorem of_mem_encodeBytes {escaped : Char → Bool} {bytes : Bytes} {c : Char}
    (member : c ∈ encodeBytes escaped bytes) :
    c.toNat < 0x80 ∧ (escaped c = false ∨ c ∈ escapeChars) := by
  obtain ⟨byte, -, here⟩ := List.mem_flatMap.mp member
  by_cases is : 0x80 ≤ byte ∨ escaped (Char.ofNat byte.toNat) = true
  · rw [encodeByte_of_escaped is] at here
    have escape := mem_escapeChars here
    have visible := visible_of_mem_escapeChars escape
    exact ⟨by omega, .inr escape⟩
  · obtain ⟨small, plain⟩ := not_or.mp is
    have ascii : byte < 0x80 := UInt8.not_le.mp small
    rw [encodeByte_of_plain ascii (Bool.not_eq_true _ ▸ plain)] at here
    rw [List.mem_singleton.mp here]
    refine ⟨?_, .inl (Bool.not_eq_true _ ▸ plain)⟩
    rw [(utf8EncodeChar_ofNat ascii).2]
    exact UInt8.lt_iff_toNat_lt.mp ascii

section Text

variable {escaped : Char → Bool}

/-- A text is escaped character by character. -/
theorem encodeText_cons (c : Char) (text : List Char) :
    encodeText escaped (c :: text) =
      encodeBytes escaped (String.utf8EncodeChar c) ++ encodeText escaped text := by
  rw [encodeText, Utf8.encode_cons, encodeBytes, List.flatMap_append]
  rfl

/-- Texts one after the other are escaped one after the other. -/
theorem encodeText_append (text more : List Char) :
    encodeText escaped (text ++ more) = encodeText escaped text ++ encodeText escaped more := by
  rw [encodeText, Utf8.encode_append, encodeBytes, List.flatMap_append]
  rfl

/-- A character that is not escaped is written as itself. -/
theorem encodeBytes_utf8EncodeChar {c : Char} (ascii : c.toNat < 0x80)
    (plain : escaped c = false) : encodeBytes escaped (String.utf8EncodeChar c) = [c] := by
  have small : UInt8.ofNat c.toNat < 0x80 := by
    rw [UInt8.lt_iff_toNat_lt, Utf8.toNat_ofNat_of_lt (by omega)]
    exact ascii
  rw [Utf8.utf8EncodeChar_of_lt ascii, encodeBytes, List.flatMap_singleton,
    encodeByte_of_plain small (by rw [ofNat_toNat_ofNat ascii, plain]), ofNat_toNat_ofNat ascii]

/-- A character that is escaped, or outside ASCII, is written with more than one character. -/
theorem one_lt_length_encodeBytes {c : Char} (changes : ¬(c.toNat < 0x80 ∧ escaped c = false)) :
    1 < (encodeBytes escaped (String.utf8EncodeChar c)).length := by
  obtain ⟨lead, tail, written, -⟩ := Utf8.step_utf8EncodeChar c []
  have escapes : 0x80 ≤ lead ∨ escaped (Char.ofNat lead.toNat) = true := by
    by_cases large : 0x80 ≤ lead
    · exact .inl large
    · have small : lead.toNat < 0x80 := UInt8.lt_iff_toNat_lt.mp (UInt8.not_le.mp large)
      have member : lead ∈ String.utf8EncodeChar c := written ▸ List.mem_cons_self
      have same := Utf8.toNat_eq_of_mem_utf8EncodeChar member small
      rw [← same, Char.ofNat_toNat]
      exact .inr (Bool.of_not_eq_false fun plain => changes ⟨by omega, plain⟩)
  rw [written, encodeBytes_cons, encodeByte_of_escaped escapes, List.length_append]
  have three : (escapeByte lead).length = 3 := rfl
  omega

/-- Encoding never makes a text shorter. -/
theorem length_le_length_encodeText (text : List Char) :
    text.length ≤ (encodeText escaped text).length := by
  induction text with
  | nil => exact Nat.zero_le _
  | cons c text ih =>
    rw [encodeText_cons, List.length_append, List.length_cons]
    by_cases plain : c.toNat < 0x80 ∧ escaped c = false
    · rw [encodeBytes_utf8EncodeChar plain.1 plain.2, List.length_singleton]
      omega
    · have longer := one_lt_length_encodeBytes plain
      omega

/-- A text of ASCII characters that need no escape stays as it is. -/
theorem encodeText_eq_self {text : List Char}
    (plain : ∀ c ∈ text, c.toNat < 0x80 ∧ escaped c = false) : encodeText escaped text = text := by
  induction text with
  | nil => rfl
  | cons c text ih =>
    obtain ⟨ascii, notEscaped⟩ := plain c List.mem_cons_self
    rw [encodeText_cons, encodeBytes_utf8EncodeChar ascii notEscaped,
      ih fun d member => plain d (List.mem_cons_of_mem c member)]
    rfl

/-- **Encoding keeps the length of a text exactly when nothing in it is escaped.** -/
theorem length_encodeText_eq_iff (text : List Char) :
    (encodeText escaped text).length = text.length ↔
      ∀ c ∈ text, c.toNat < 0x80 ∧ escaped c = false := by
  constructor
  · intro same
    induction text with
    | nil => exact fun c member => absurd member List.not_mem_nil
    | cons c text ih =>
      rw [encodeText_cons, List.length_append, List.length_cons] at same
      have rest := @length_le_length_encodeText escaped text
      have plain : c.toNat < 0x80 ∧ escaped c = false := by
        apply Decidable.byContradiction
        intro changes
        have longer := one_lt_length_encodeBytes changes
        omega
      rw [encodeBytes_utf8EncodeChar plain.1 plain.2, List.length_singleton] at same
      intro d member
      rcases List.mem_cons.mp member with rfl | later
      · exact plain
      · exact ih (by omega) d later
  · intro plain
    rw [encodeText_eq_self plain]

end Text

end Isolation.Url
