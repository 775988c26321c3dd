import Isolation.Proofs.Text.Utf8

/-!
# The order of encoded texts

Texts stand in the order of their bytes (`Isolation.Utf8.encode_lt_encode`). The numbers of
characters that take equally many bytes are written with the high digits first, and a character that
takes more bytes has a larger first byte.
-/

namespace Isolation.Utf8

/-- Whether the bytes that numbers below a bound are written with stand in the order of the numbers,
whatever comes after them. -/
def WritesInOrder (bound : Nat) (write : Nat → Bytes) : Prop :=
  ∀ ⦃m n : Nat⦄, m < n → n < bound → ∀ rest more : Bytes, write m ++ rest < write n ++ more

private theorem cons_lt_cons_of_toNat {first other : UInt8} (less : first.toNat < other.toNat)
    (rest more : Bytes) : first :: rest < other :: more :=
  List.cons_lt_cons_iff.mpr (.inl (UInt8.lt_iff_toNat_lt.mpr less))

private theorem writesInOrder_singleton {bound mark : Nat} (fits : bound + mark ≤ 256) :
    WritesInOrder bound fun n => [UInt8.ofNat (n % bound + mark)] := by
  intro m n less small rest more
  apply cons_lt_cons_of_toNat
  rw [Nat.mod_eq_of_lt (Nat.lt_trans less small), Nat.mod_eq_of_lt small,
    toNat_ofNat_of_lt (by omega), toNat_ofNat_of_lt (by omega)]
  omega

/-- Six more bits in a byte of their own keep the order. -/
theorem WritesInOrder.continued {bound : Nat} {write : Nat → Bytes}
    (inOrder : WritesInOrder bound write) :
    WritesInOrder (bound * 64) fun n => write (n / 64) ++ [continuation n] := by
  intro m n less small rest more
  simp only [List.append_assoc, List.singleton_append]
  have digits : m / 64 ≤ n / 64 := Nat.div_le_div_right (Nat.le_of_lt less)
  rcases Nat.lt_or_eq_of_le digits with higher | same
  · exact inOrder higher (by omega) _ _
  · rw [same]
    apply List.append_left_lt
    apply cons_lt_cons_of_toNat
    rw [toNat_continuation, toNat_continuation]
    omega

private theorem writesInOrder_two :
    WritesInOrder 0x800 fun n => [UInt8.ofNat (n / 64 % 32 + 0xC0), continuation n] :=
  (writesInOrder_singleton (by decide : 32 + 0xC0 ≤ 256)).continued

private theorem writesInOrder_three :
    WritesInOrder 0x10000 fun n =>
      [UInt8.ofNat (n / 4096 % 16 + 0xE0), continuation (n / 64), continuation n] := by
  have inOrder := (writesInOrder_singleton (by decide : 16 + 0xE0 ≤ 256)).continued.continued
  simp only [Nat.div_div_eq_div_mul] at inOrder
  exact inOrder

private theorem writesInOrder_four :
    WritesInOrder 0x200000 fun n =>
      [UInt8.ofNat (n / 262144 % 8 + 0xF0), continuation (n / 4096), continuation (n / 64),
        continuation n] := by
  have inOrder :=
    (writesInOrder_singleton (by decide : 8 + 0xF0 ≤ 256)).continued.continued.continued
  simp only [Nat.div_div_eq_div_mul] at inOrder
  exact inOrder

/-- The first byte of a character says how many bytes it takes. -/
theorem exists_lead (c : Char) :
    ∃ lead tail, String.utf8EncodeChar c = lead :: tail ∧
      ((c.toNat ≤ 0x7F ∧ lead.toNat < 0x80) ∨
        (0x7F < c.toNat ∧ c.toNat ≤ 0x7FF ∧ 0xC0 ≤ lead.toNat ∧ lead.toNat < 0xE0) ∨
        (0x7FF < c.toNat ∧ c.toNat ≤ 0xFFFF ∧ 0xE0 ≤ lead.toNat ∧ lead.toNat < 0xF0) ∨
        (0xFFFF < c.toNat ∧ 0xF0 ≤ lead.toNat)) := by
  rw [utf8EncodeChar_eq]
  by_cases one : c.toNat ≤ 0x7F
  · refine ⟨_, _, if_pos one, .inl ⟨one, ?_⟩⟩
    rw [toNat_ofNat_of_lt (by omega)]
    omega
  · rw [if_neg one]
    by_cases two : c.toNat ≤ 0x7FF
    · refine ⟨_, _, if_pos two, .inr (.inl ?_)⟩
      rw [toNat_ofNat_of_lt (by omega)]
      omega
    · rw [if_neg two]
      by_cases three : c.toNat ≤ 0xFFFF
      · refine ⟨_, _, if_pos three, .inr (.inr (.inl ?_))⟩
        rw [toNat_ofNat_of_lt (by omega)]
        omega
      · refine ⟨_, _, if_neg three, .inr (.inr (.inr ?_))⟩
        rw [toNat_ofNat_of_lt (by omega)]
        omega

/-- **The bytes of characters stand in the order of the characters**, whatever comes after them. -/
theorem utf8EncodeChar_append_lt {c d : Char} (less : c < d) (rest more : Bytes) :
    String.utf8EncodeChar c ++ rest < String.utf8EncodeChar d ++ more := by
  have numbers : c.toNat < d.toNat := less
  have bounds := toNat_bounds d
  -- Characters that take different numbers of bytes differ in the first one.
  have apart : ∀ bound ∈ [0x7F, 0x7FF, 0xFFFF], c.toNat ≤ bound → bound < d.toNat →
      String.utf8EncodeChar c ++ rest < String.utf8EncodeChar d ++ more := by
    intro bound length below above
    simp only [List.mem_cons, List.not_mem_nil, or_false] at length
    obtain ⟨lead, tail, written, range⟩ := exists_lead c
    obtain ⟨other, otherTail, otherWritten, otherRange⟩ := exists_lead d
    rw [written, otherWritten]
    exact cons_lt_cons_of_toNat (by omega) _ _
  by_cases one : d.toNat ≤ 0x7F
  · have cOne : c.toNat ≤ 0x7F := by omega
    rw [utf8EncodeChar_eq c, if_pos cOne, utf8EncodeChar_eq d, if_pos one]
    apply cons_lt_cons_of_toNat
    rwa [toNat_ofNat_of_lt (by omega), toNat_ofNat_of_lt (by omega)]
  by_cases cOne : c.toNat ≤ 0x7F
  · exact apart 0x7F (by decide) cOne (by omega)
  by_cases two : d.toNat ≤ 0x7FF
  · have cTwo : c.toNat ≤ 0x7FF := by omega
    rw [utf8EncodeChar_eq c, if_neg cOne, if_pos cTwo, utf8EncodeChar_eq d, if_neg one, if_pos two]
    exact writesInOrder_two numbers (by omega) rest more
  by_cases cTwo : c.toNat ≤ 0x7FF
  · exact apart 0x7FF (by decide) cTwo (by omega)
  by_cases three : d.toNat ≤ 0xFFFF
  · have cThree : c.toNat ≤ 0xFFFF := by omega
    rw [utf8EncodeChar_eq c, if_neg cOne, if_neg cTwo, if_pos cThree, utf8EncodeChar_eq d,
      if_neg one, if_neg two, if_pos three]
    exact writesInOrder_three numbers (by omega) rest more
  by_cases cThree : c.toNat ≤ 0xFFFF
  · exact apart 0xFFFF (by decide) cThree (by omega)
  rw [utf8EncodeChar_eq c, if_neg cOne, if_neg cTwo, if_neg cThree, utf8EncodeChar_eq d,
    if_neg one, if_neg two, if_neg three]
  exact writesInOrder_four numbers (by omega) rest more

/-- **Texts stand in the order of their bytes.** -/
theorem encode_lt_encode {text other : List Char} (less : text < other) :
    encode text < encode other := by
  induction text generalizing other with
  | nil =>
    cases other with
    | nil => exact absurd less (List.not_lt_nil [])
    | cons d other =>
      obtain ⟨lead, tail, written, -⟩ := exists_lead d
      rw [encode_cons, written]
      exact List.nil_lt_cons lead _
  | cons c text ih =>
    cases other with
    | nil => exact absurd less (List.not_lt_nil _)
    | cons d other =>
      rw [encode_cons, encode_cons]
      rcases List.cons_lt_cons_iff.mp less with lower | ⟨rfl, later⟩
      · exact utf8EncodeChar_append_lt lower _ _
      · exact List.append_left_lt (ih later)

end Isolation.Utf8
