import Isolation.Text.Digits
import Isolation.Text.Utf8

/-!
# Percent-encoding

A byte is written as a percent sign and two hexadecimal digits. Encoding escapes the characters of a
set and everything outside ASCII; decoding leaves alone a percent sign without two digits after it.
-/

namespace Isolation.Url

/-- Control characters, which are escaped everywhere. -/
def isControl (c : Char) : Bool :=
  c.toNat < 0x20 || c.toNat == 0x7F

/-- Characters that are escaped in fragments. -/
def escapedInFragment (c : Char) : Bool :=
  isControl c || [' ', '"', '<', '>', '`'].contains c

/-- Characters that are escaped in queries. -/
def escapedInQuery (c : Char) : Bool :=
  isControl c || [' ', '"', '#', '<', '>'].contains c

/-- Characters that are escaped in paths. -/
def escapedInPath (c : Char) : Bool :=
  escapedInFragment c || ['#', '?', '\x7b', '\x7d'].contains c

/-- Characters that are escaped in user names and passwords. -/
def escapedInUserInfo (c : Char) : Bool :=
  escapedInPath c || ['/', ':', ';', '=', '@', '[', '\\', ']', '^', '|'].contains c

/-- Characters that are escaped in the names of files. -/
def escapedInFileName (c : Char) : Bool :=
  escapedInPath c || ['/', '%', '\\'].contains c

/-- A byte as a percent sign and two hexadecimal digits. -/
def escapeByte (byte : UInt8) : List Char :=
  ['%', Text.upperHexDigit (byte.toNat / 16), Text.upperHexDigit (byte.toNat % 16)]

/-- A byte, escaped when it is no ASCII character or one of the set. -/
def encodeByte (escaped : Char → Bool) (byte : UInt8) : List Char :=
  let c := Char.ofNat byte.toNat
  if 0x80 ≤ byte ∨ escaped c then escapeByte byte else [c]

/-- Bytes as text, with those of the set and those outside ASCII escaped. -/
def encodeBytes (escaped : Char → Bool) (bytes : Bytes) : List Char :=
  bytes.flatMap (encodeByte escaped)

/-- A text with the characters of the set and those outside ASCII escaped. -/
def encodeText (escaped : Char → Bool) (text : List Char) : List Char :=
  encodeBytes escaped (Utf8.encode text)

/-- The bytes that a text stands for. -/
def decodeBytes : List Char → Bytes
  | [] => []
  | '%' :: high :: low :: rest =>
    match Text.hexValue? high, Text.hexValue? low with
    | some h, some l => UInt8.ofNat (h * 16 + l) :: decodeBytes rest
    | _, _ => String.utf8EncodeChar '%' ++ decodeBytes (high :: low :: rest)
  | c :: rest => String.utf8EncodeChar c ++ decodeBytes rest

end Isolation.Url
