import Isolation.Text.Utf8

/-!
# Little-endian fields

The headers of an archive are made of numbers of fixed width, least significant byte first.
-/

namespace Isolation.Zip

/-- The number that bytes stand for, least significant byte first. -/
def numberOf : Bytes → Nat
  | [] => 0
  | byte :: rest => byte.toNat + 256 * numberOf rest

/-- A number in a field of `width` bytes. -/
def fieldBytes (width value : Nat) : Bytes :=
  (List.range width).map fun index => UInt8.ofNat (value / Nat.pow 256 index)

/-- Takes fields of these widths off the bytes. -/
def takeFields : List Nat → Bytes → Option (List Nat × Bytes)
  | [], bytes => some ([], bytes)
  | width :: widths, bytes =>
    if bytes.length < width then none
    else (takeFields widths (bytes.drop width)).map fun (values, rest) =>
      (numberOf (bytes.take width) :: values, rest)

/-- Takes a run of `count` bytes off the bytes. -/
def takeRun (count : Nat) (bytes : Bytes) : Option (Bytes × Bytes) :=
  if bytes.length < count then none else some (bytes.take count, bytes.drop count)

end Isolation.Zip
