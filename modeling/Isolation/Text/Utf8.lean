/-!
# UTF-8

Texts as bytes, and bytes as texts. Decoding reads one character at a time; bytes that start no
well-formed character are kept apart as one ill-formed sequence, the longest start of a character
that they hold, so that a lenient reader can put one replacement character in its place.
-/

namespace Isolation

/-- A sequence of bytes. -/
abbrev Bytes := List UInt8

namespace Utf8

/-- The bytes of a text. -/
def encode (text : List Char) : Bytes :=
  text.flatMap String.utf8EncodeChar

/-- The bytes of a string. -/
def ofString (text : String) : Bytes :=
  encode text.toList

/-- How many bytes a character has that starts with this byte; none for a byte that starts none. -/
def sequenceLength (lead : UInt8) : Nat :=
  if lead < 0x80 then 1
  else if 0xC2 ≤ lead ∧ lead ≤ 0xDF then 2
  else if 0xE0 ≤ lead ∧ lead ≤ 0xEF then 3
  else if 0xF0 ≤ lead ∧ lead ≤ 0xF4 then 4
  else 0

/-- Whether a byte continues a character. -/
def continues (byte : UInt8) : Bool :=
  0x80 ≤ byte && byte ≤ 0xBF

/-- Whether a byte may come second after `lead`: overlong forms, surrogates and code points beyond
the last one are left out. -/
def followsLead (lead byte : UInt8) : Bool :=
  if lead == 0xE0 then 0xA0 ≤ byte && byte ≤ 0xBF
  else if lead == 0xED then 0x80 ≤ byte && byte ≤ 0x9F
  else if lead == 0xF0 then 0x90 ≤ byte && byte ≤ 0xBF
  else if lead == 0xF4 then 0x80 ≤ byte && byte ≤ 0x8F
  else continues byte

/-- The six low bits that a continuing byte carries. -/
def payload (byte : UInt8) : Nat :=
  byte.toNat % 64

/-- The character that `lead` and the bytes after it start with, or `none` for an ill-formed
sequence, and the bytes that follow. -/
def step (lead : UInt8) (rest : Bytes) : Option Char × Bytes :=
  match sequenceLength lead, rest with
  | 1, rest => (some (Char.ofNat lead.toNat), rest)
  | 2, second :: rest =>
    if continues second then (some (Char.ofNat (lead.toNat % 32 * 64 + payload second)), rest)
    else (none, second :: rest)
  | 3, second :: rest =>
    if followsLead lead second then
      match rest with
      | third :: rest =>
        if continues third then
          (some (Char.ofNat ((lead.toNat % 16 * 64 + payload second) * 64 + payload third)), rest)
        else (none, third :: rest)
      | [] => (none, [])
    else (none, second :: rest)
  | 4, second :: rest =>
    if followsLead lead second then
      match rest with
      | third :: rest =>
        if continues third then
          match rest with
          | fourth :: rest =>
            if continues fourth then
              (some (Char.ofNat (((lead.toNat % 8 * 64 + payload second) * 64 + payload third) * 64
                + payload fourth)), rest)
            else (none, fourth :: rest)
          | [] => (none, [])
        else (none, third :: rest)
      | [] => (none, [])
    else (none, second :: rest)
  | _, rest => (none, rest)

private theorem length_step_le (lead : UInt8) (rest : Bytes) :
    (step lead rest).2.length ≤ rest.length := by
  unfold step
  split <;> (repeat' split) <;> simp <;> omega

/-- The characters of a byte sequence, with `none` for each ill-formed sequence in it. -/
def decodeEach : Bytes → List (Option Char)
  | [] => []
  | lead :: rest => (step lead rest).1 :: decodeEach (step lead rest).2
termination_by bytes => bytes.length
decreasing_by exact Nat.lt_succ_of_le (length_step_le lead rest)

/-- The text that the bytes encode, if they are well formed. -/
def decode? (bytes : Bytes) : Option (List Char) :=
  (decodeEach bytes).mapM id

/-- The string that the bytes encode, if they are well formed. -/
def toString? (bytes : Bytes) : Option String :=
  (decode? bytes).map .ofList

/-- The text of the bytes, with a replacement character for each ill-formed sequence. -/
def decodeLossy (bytes : Bytes) : List Char :=
  (decodeEach bytes).map fun c => c.getD '\uFFFD'

/-- The string of the bytes, with a replacement character for each ill-formed sequence. -/
def toStringLossy (bytes : Bytes) : String :=
  .ofList (decodeLossy bytes)

end Utf8

end Isolation
