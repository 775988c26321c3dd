import Isolation.Zip.Huffman

/-!
# Inflating

Compressed data is a sequence of blocks, each stored as it is or coded with two prefix codes: one
for literal bytes and the lengths of repetitions, and one for their distances. Reading stops at the
block marked as the last one; data that ends before it yields what was read up to there.
-/

namespace Isolation.Zip

/-- The bytes read so far. -/
abbrev Output := Array UInt8

/-- How reading ended early, and the bytes read up to there. -/
abbrev Partial := Halt × Output

/-- The least length of each length symbol, and how many further bits it has. -/
def lengthTable : Array (Nat × Nat) := #[
  (3, 0), (4, 0), (5, 0), (6, 0), (7, 0), (8, 0), (9, 0), (10, 0), (11, 1), (13, 1),
  (15, 1), (17, 1), (19, 2), (23, 2), (27, 2), (31, 2), (35, 3), (43, 3), (51, 3), (59, 3),
  (67, 4), (83, 4), (99, 4), (115, 4), (131, 5), (163, 5), (195, 5), (227, 5), (258, 0)]

/-- The least distance of each distance symbol, and how many further bits it has. -/
def distanceTable : Array (Nat × Nat) := #[
  (1, 0), (2, 0), (3, 0), (4, 0), (5, 1), (7, 1), (9, 2), (13, 2), (17, 3), (25, 3),
  (33, 4), (49, 4), (65, 5), (97, 5), (129, 6), (193, 6), (257, 7), (385, 7), (513, 8), (769, 8),
  (1025, 9), (1537, 9), (2049, 10), (3073, 10), (4097, 11), (6145, 11), (8193, 12), (12289, 12),
  (16385, 13), (24577, 13)]

/-- The order in which the lengths of the code for code lengths are given. -/
def lengthOrder : List Nat :=
  [16, 17, 18, 0, 8, 7, 9, 6, 10, 5, 11, 4, 12, 3, 13, 2, 14, 1, 15]

/-- Takes a number off a stream that a table entry starts and further bits complete. -/
def takeScaled (table : Array (Nat × Nat)) (symbol : Nat) (bits : Bits) :
    Except Halt (Nat × Bits) :=
  match table[symbol]? with
  | none => .error .corrupt
  | some (base, width) => (takeNumber width bits).map fun (more, bits) => (base + more, bits)

/-- Repeats `length` bytes that start `distance` bytes before the end. -/
def repeatBytes (output : Output) (distance : Nat) : Nat → Output
  | 0 => output
  | length + 1 => repeatBytes (output.push (output[output.size - distance]?.getD 0)) distance length

/-- Keeps the bytes read so far in an early end. -/
def keeping {α : Type} (output : Output) (result : Except Halt α) : Except Partial α :=
  result.mapError (·, output)

/-- Reads the symbols of a coded block up to its end mark, as many as the first argument at most. -/
def readSymbols (literals distances : PrefixCode) :
    Nat → Bits → Output → Except Partial (Bits × Output)
  | 0, _, output => .error (.truncated, output)
  | fuel + 1, bits, output => do
    let (symbol, bits) ← keeping output (literals.takeSymbol bits)
    if symbol < 256 then readSymbols literals distances fuel bits (output.push (UInt8.ofNat symbol))
    else if symbol = 256 then return (bits, output)
    else
      let (length, bits) ← keeping output (takeScaled lengthTable (symbol - 257) bits)
      let (mark, bits) ← keeping output (distances.takeSymbol bits)
      let (distance, bits) ← keeping output (takeScaled distanceTable mark bits)
      if output.size < distance then .error (.corrupt, output)
      else readSymbols literals distances fuel bits (repeatBytes output distance length)

/-- Reads bytes that are stored as they are. -/
def readStoredBytes : Nat → Bits → Output → Except Partial (Bits × Output)
  | 0, bits, output => .ok (bits, output)
  | count + 1, bits, output => do
    let (byte, bits) ← keeping output (takeNumber 8 bits)
    readStoredBytes count bits (output.push (UInt8.ofNat byte))

/-- Reads a stored block: from the next whole byte on, its length, the complement of the length, and
its bytes. -/
def readStored (bits : Bits) (output : Output) : Except Partial (Bits × Output) := do
  let bits := bits.drop (bits.length % 8)
  let (length, bits) ← keeping output (takeNumber 16 bits)
  let (complement, bits) ← keeping output (takeNumber 16 bits)
  if length + complement ≠ 0xFFFF then .error (.corrupt, output)
  else readStoredBytes length bits output

/-- The code lengths of literals in a block with fixed codes. -/
def fixedLiteralLengths : List Nat :=
  List.replicate 144 8 ++ List.replicate 112 9 ++ List.replicate 24 7 ++ List.replicate 8 8

/-- The code lengths of distances in a block with fixed codes. -/
def fixedDistanceLengths : List Nat :=
  List.replicate 32 5

/-- Takes code lengths off a stream, in which a length may be repeated. The first argument bounds
the number of symbols. -/
def takeLengths (code : PrefixCode) (count : Nat) :
    Nat → List Nat → Bits → Except Halt (List Nat × Bits)
  | 0, _, _ => .error .truncated
  | fuel + 1, lengths, bits =>
    if count < lengths.length then .error .corrupt
    else if lengths.length = count then .ok (lengths, bits)
    else do
      let (symbol, bits) ← code.takeSymbol bits
      if symbol < 16 then takeLengths code count fuel (lengths ++ [symbol]) bits
      else if symbol = 16 then
        match lengths.getLast? with
        | none => .error .corrupt
        | some last =>
          let (more, bits) ← takeNumber 2 bits
          takeLengths code count fuel (lengths ++ List.replicate (3 + more) last) bits
      else
        let (base, width) := if symbol = 17 then (3, 3) else (11, 7)
        let (more, bits) ← takeNumber width bits
        takeLengths code count fuel (lengths ++ List.replicate (base + more) 0) bits

/-- Takes `count` numbers of three bits off a stream. -/
def takeTriples : Nat → Bits → Except Halt (List Nat × Bits)
  | 0, bits => .ok ([], bits)
  | count + 1, bits => do
    let (first, bits) ← takeNumber 3 bits
    let (rest, bits) ← takeTriples count bits
    return (first :: rest, bits)

/-- The code with these lengths, or the mark of corrupt data. -/
def codeOf (lengths : List Nat) : Except Halt PrefixCode :=
  match PrefixCode.ofLengths? lengths with
  | some code => .ok code
  | none => .error .corrupt

/-- Takes the two codes of a block off a stream. -/
def takeCodes (bits : Bits) : Except Halt (PrefixCode × PrefixCode × Bits) := do
  let (literalCount, bits) ← takeNumber 5 bits
  let (distanceCount, bits) ← takeNumber 5 bits
  let (lengthCount, bits) ← takeNumber 4 bits
  let (given, bits) ← takeTriples (lengthCount + 4) bits
  let lengths := (List.range 19).map fun symbol => ((lengthOrder.zip given).lookup symbol).getD 0
  let code ← codeOf lengths
  let literals := literalCount + 257
  let total := literals + distanceCount + 1
  let (lengths, bits) ← takeLengths code total (total + 1) [] bits
  return (← codeOf (lengths.take literals), ← codeOf (lengths.drop literals), bits)

/-- Reads one block after its mark of being the last one. -/
def readBlock (bits : Bits) (output : Output) : Except Partial (Bits × Output) := do
  let (kind, bits) ← keeping output (takeNumber 2 bits)
  if kind = 0 then readStored bits output
  else if kind = 1 then
    let literals ← keeping output (codeOf fixedLiteralLengths)
    let distances ← keeping output (codeOf fixedDistanceLengths)
    readSymbols literals distances (bits.length + 1) bits output
  else if kind = 2 then
    let (literals, distances, bits) ← keeping output (takeCodes bits)
    readSymbols literals distances (bits.length + 1) bits output
  else .error (.corrupt, output)

/-- Reads blocks up to the last one. The first argument bounds their number. -/
def readBlocks : Nat → Bits → Output → Except Partial Output
  | 0, _, output => .error (.truncated, output)
  | fuel + 1, bits, output => do
    let (last, bits) ← keeping output (takeNumber 1 bits)
    let (bits, output) ← readBlock bits output
    if last = 1 then return output else readBlocks fuel bits output

/-- The bytes that compressed data stands for; data that ends early yields what was read up to
there, and corrupt data yields nothing. -/
def inflate? (data : Bytes) : Option Bytes :=
  let bits := bitsOf data
  match readBlocks (bits.length + 1) bits #[] with
  | .ok output => some output.toList
  | .error (.truncated, output) => some output.toList
  | .error (.corrupt, _) => none

end Isolation.Zip
