import Isolation.Text.Utf8

/-!
# Canonical prefix codes

A canonical prefix code is given by the length of the code of each symbol: codes of one length are
consecutive numbers in the order of their symbols, and shorter codes come first. A code word is read
bit by bit, most significant bit first.
-/

namespace Isolation.Zip

/-- Why compressed data cannot be read to its end. -/
inductive Halt where
  | truncated
  | corrupt
  deriving DecidableEq

/-- A stream of bits. -/
abbrev Bits := List Bool

/-- The bits of bytes, least significant bit of each byte first. -/
def bitsOf (bytes : Bytes) : Bits :=
  bytes.flatMap fun byte => (List.range 8).map byte.toNat.testBit

/-- Takes a number of `width` bits off a stream, least significant bit first. -/
def takeNumber : Nat → Bits → Except Halt (Nat × Bits)
  | 0, bits => .ok (0, bits)
  | _ + 1, [] => .error .truncated
  | width + 1, bit :: bits => do
    let (rest, bits) ← takeNumber width bits
    return (bit.toNat + 2 * rest, bits)

/-- A prefix code: how many symbols have a code of each length from one up, and the symbols in the
order of their codes. -/
structure PrefixCode where
  counts : List Nat
  symbols : Array Nat

namespace PrefixCode

/-- The longest length that a code may have. -/
def maxLength : Nat := 15

/-- What is left of the code space, in units of the longest length, after codes of these lengths. -/
def remaining (lengths : List Nat) : Int :=
  lengths.foldl
    (fun (left : Int) length => if length = 0 then left else left - Nat.pow 2 (maxLength - length))
    (Nat.pow 2 maxLength)

/-- The code with these lengths, of which zero means that a symbol is not used. The lengths must
fill the code space, unless at most one symbol is used. -/
def ofLengths? (lengths : List Nat) : Option PrefixCode :=
  let used := (lengths.filter (· ≠ 0)).length
  let left := remaining lengths
  if left < 0 ∨ (0 < left ∧ 1 < used) then none
  else
    let ofLength := fun (length : Nat) =>
      (lengths.zipIdx.filter (·.1 = length)).map (·.2)
    let groups := (List.range maxLength).map fun index => ofLength (index + 1)
    some ⟨groups.map List.length, groups.flatten.toArray⟩

/-- Takes a code word off a stream: the bits so far are the number `code`, the first code of their
length is `first`, and `index` symbols have shorter codes. -/
def takeWord (symbols : Array Nat) : List Nat → Nat → Nat → Nat → Bits → Except Halt (Nat × Bits)
  | [], _, _, _, _ => .error .corrupt
  | _ :: _, _, _, _, [] => .error .truncated
  | count :: counts, code, first, index, bit :: bits =>
    let word := code + bit.toNat
    if word < first + count then
      match symbols[index + (word - first)]? with
      | some symbol => .ok (symbol, bits)
      | none => .error .corrupt
    else takeWord symbols counts (2 * word) (2 * (first + count)) (index + count) bits

/-- Takes the symbol of a code word off a stream. -/
def takeSymbol (code : PrefixCode) (bits : Bits) : Except Halt (Nat × Bits) :=
  takeWord code.symbols code.counts 0 0 0 bits

end PrefixCode

end Isolation.Zip
