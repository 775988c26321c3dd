import Isolation.Text.Utf8

/-!
# Constants of a class file

The constants of a class file are numbered from one, and a constant of eight bytes takes two
numbers. Of their contents only the texts matter here; a text is in UTF-8, or in the variant of it
that writes the null character in two bytes and a character outside the basic plane as two
surrogates.
-/

namespace Isolation.ClassFile

/-- Takes a big-endian number of `width` bytes off the bytes. -/
def takeNumber (width : Nat) (bytes : Bytes) : Option (Nat × Bytes) :=
  if bytes.length < width then none
  else some ((bytes.take width).foldl (fun total byte => total * 256 + byte.toNat) 0,
    bytes.drop width)

/-- Drops `count` bytes, if there are so many. -/
def skipBytes (count : Nat) (bytes : Bytes) : Option Bytes :=
  if bytes.length < count then none else some (bytes.drop count)

/-- Whether bytes are a text in the variant of UTF-8 that class files use. The first argument bounds
the number of characters. -/
def isVariantUtf8 : Nat → Bytes → Bool
  | 0, bytes => bytes.isEmpty
  | _ + 1, [] => true
  | fuel + 1, 0xC0 :: 0x80 :: rest => isVariantUtf8 fuel rest
  | fuel + 1, 0xED :: high :: last :: rest =>
    if 0xA0 ≤ high then
      match rest with
      | 0xED :: low :: final :: rest =>
        0xA0 ≤ high && high ≤ 0xAF && Utf8.continues last && 0xB0 ≤ low && low ≤ 0xBF &&
          Utf8.continues final && isVariantUtf8 fuel rest
      | _ => false
    else Utf8.continues high && Utf8.continues last && isVariantUtf8 fuel rest
  | fuel + 1, lead :: rest =>
    lead ≠ 0 && Utf8.sequenceLength lead ≠ 4 && (Utf8.step lead rest).1.isSome &&
      isVariantUtf8 fuel (Utf8.step lead rest).2

/-- Whether bytes are a text of a class file. -/
def isText (bytes : Bytes) : Bool :=
  (Utf8.decode? bytes).isSome || isVariantUtf8 (bytes.length + 1) bytes

/-- How many bytes follow the tag of a constant that is no text. -/
def constantSize? (tag : Nat) : Option Nat :=
  match tag with
  | 3 | 4 => some 4
  | 5 | 6 => some 8
  | 7 | 8 | 16 | 19 | 20 => some 2
  | 9 | 10 | 11 | 12 | 17 | 18 => some 4
  | 15 => some 3
  | _ => none

/-- The constants of a class file in order: a text, or anything else. -/
abbrev Pool := List (Option Bytes)

/-- The text with a number. -/
def Pool.text? (pool : Pool) (number : Nat) : Option Bytes :=
  match number with
  | 0 => none
  | index + 1 => (pool[index]?).join

/-- Takes constants off the bytes until `count` numbers are taken. The first argument bounds the
number of constants. -/
def takePool : Nat → Nat → Bytes → Option (Pool × Bytes)
  | 0, _, _ => none
  | _ + 1, 0, bytes => some ([], bytes)
  | fuel + 1, count + 1, bytes => do
    let (tag, bytes) ← takeNumber 1 bytes
    if tag = 1 then
      let (length, bytes) ← takeNumber 2 bytes
      let rest ← skipBytes length bytes
      let text := bytes.take length
      guard (isText text)
      let (pool, rest) ← takePool fuel count rest
      return (some text :: pool, rest)
    else
      let rest ← skipBytes (← constantSize? tag) bytes
      if tag = 5 ∨ tag = 6 then
        let (pool, rest) ← takePool fuel (count - 1) rest
        return (none :: none :: pool, rest)
      else
        let (pool, rest) ← takePool fuel count rest
        return (none :: pool, rest)

end Isolation.ClassFile
