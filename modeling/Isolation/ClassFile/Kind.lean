import Isolation.ClassFile.Pool
import Isolation.LoadError

/-!
# Class files

A class file starts with four fixed bytes. Read to its end it tells by its access flags what kind of
type it declares.
-/

namespace Isolation.ClassFile

/-- The four bytes that a class file starts with. -/
def magic : Bytes := [0xCA, 0xFE, 0xBA, 0xBE]

/-- Refuses bytes that do not start as a class file does. -/
def checkMagic (className : String) (bytes : Bytes) : Except LoadError Unit :=
  if magic.isPrefixOf bytes then .ok ()
  else .error (.invalidClass className .missingMagic)

/-- What kind of type a class file declares. -/
inductive Kind where
  | ordinary
  | interfaceType
  | enumeration
  | annotation
  deriving DecidableEq, Inhabited

/-- The name of a kind. -/
def Kind.name : Kind → String
  | ordinary => "class"
  | interfaceType => "interface"
  | enumeration => "enum"
  | annotation => "annotation"

/-- The kind that access flags tell. An annotation is an interface too, so its flag counts first. -/
def Kind.ofFlags (flags : Nat) : Kind :=
  if flags.testBit 13 then annotation
  else if flags.testBit 9 then interfaceType
  else if flags.testBit 14 then enumeration
  else ordinary

/-- Whether bytes describe the type of a field: a letter for a primitive type, the name of a class
between `L` and a semicolon, or a bracket before the type of the elements. -/
def isFieldType : Bytes → Bool
  | 0x5B :: rest => isFieldType rest
  | 0x4C :: rest => rest.contains 0x3B
  | letter :: _ => ("BCDFIJSZ".toList.map fun c => UInt8.ofNat c.toNat).contains letter
  | [] => false

/-- Takes an attribute off the bytes; it is named by a text. -/
def skipAttribute (pool : Pool) (bytes : Bytes) : Option Bytes := do
  let (name, bytes) ← takeNumber 2 bytes
  let _ ← pool.text? name
  let (length, bytes) ← takeNumber 4 bytes
  skipBytes length bytes

/-- Does something `count` times. -/
def iterate (skip : Bytes → Option Bytes) : Nat → Bytes → Option Bytes
  | 0, bytes => some bytes
  | count + 1, bytes => do iterate skip count (← skip bytes)

/-- Takes a counted sequence off the bytes. -/
def skipCounted (skip : Bytes → Option Bytes) (bytes : Bytes) : Option Bytes := do
  let (count, bytes) ← takeNumber 2 bytes
  iterate skip count bytes

/-- Takes a field off the bytes. -/
def skipField (pool : Pool) (bytes : Bytes) : Option Bytes := do
  let bytes ← skipBytes 4 bytes
  let (descriptor, bytes) ← takeNumber 2 bytes
  guard (isFieldType (← pool.text? descriptor))
  skipCounted (skipAttribute pool) bytes

/-- Takes a method off the bytes. -/
def skipMethod (pool : Pool) (bytes : Bytes) : Option Bytes := do
  skipCounted (skipAttribute pool) (← skipBytes 6 bytes)

/-- The versions of class files that are understood. -/
def isKnownVersion (major : Nat) : Bool :=
  45 ≤ major && major ≤ 69

/-- The access flags of a class file, if it can be read to its end. -/
def accessFlags? (bytes : Bytes) : Option Nat := do
  guard (magic.isPrefixOf bytes)
  let bytes ← skipBytes 6 bytes
  let (major, bytes) ← takeNumber 2 bytes
  guard (isKnownVersion major)
  let (count, bytes) ← takeNumber 2 bytes
  let (pool, bytes) ← takePool (count + 1) (count - 1) bytes
  let (flags, bytes) ← takeNumber 2 bytes
  let bytes ← skipBytes 4 bytes
  let bytes ← skipCounted (skipBytes 2) bytes
  let bytes ← skipCounted (skipField pool) bytes
  let bytes ← skipCounted (skipMethod pool) bytes
  let _ ← skipCounted (skipAttribute pool) bytes
  return flags

/-- The kind of type that a class file declares. -/
def inspect (className : String) (bytes : Bytes) : Except LoadError Kind :=
  match accessFlags? bytes with
  | some flags => .ok (.ofFlags flags)
  | none => .error (.invalidClass className .unreadable)

end Isolation.ClassFile
