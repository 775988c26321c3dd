import Isolation.Text.Utf8

/-!
# Checksums

The 32-bit cyclic redundancy check that archives keep of the bytes of each entry.
-/

namespace Isolation.Zip

/-- One step of the division: the register shifts, and the divisor is added if a bit falls out. -/
def checksumBit (register : UInt32) : UInt32 :=
  if register &&& 1 = 1 then (register >>> 1) ^^^ 0xEDB88320 else register >>> 1

/-- Takes one byte into the register. -/
def checksumByte (register : UInt32) (byte : UInt8) : UInt32 :=
  (List.range 8).foldl (fun register _ => checksumBit register) (register ^^^ byte.toUInt32)

/-- The checksum of bytes. -/
def checksum (bytes : Bytes) : UInt32 :=
  (bytes.foldl checksumByte 0xFFFFFFFF) ^^^ 0xFFFFFFFF

end Isolation.Zip
