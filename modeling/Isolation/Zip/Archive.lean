import Isolation.FileError
import Isolation.NameMap
import Isolation.Zip.Checksum
import Isolation.Zip.Fields
import Isolation.Zip.Inflate

/-!
# Archives

An archive ends in a directory of its entries and a record that says where the directory is. It is
opened by its last record with a readable directory; bytes in front of the archive shift all
offsets. Of entries with one name the last counts, and names that end in a slash stand for
directories.
-/

namespace Isolation.Zip

/-- The first four bytes of the header of an entry. -/
def localMark : Bytes := [0x50, 0x4B, 0x03, 0x04]

/-- The first four bytes of an entry of the directory. -/
def directoryMark : Bytes := [0x50, 0x4B, 0x01, 0x02]

/-- The first four bytes of the record at the end. -/
def endMark : Bytes := [0x50, 0x4B, 0x05, 0x06]

/-- What the directory says about an entry. -/
structure Entry where
  name : String
  flags : Nat
  method : Nat
  checksum : Nat
  compressedSize : Nat
  offset : Nat
  deriving DecidableEq, Inhabited

/-- An opened archive: its bytes and its directory. -/
structure Archive where
  bytes : Bytes
  entries : List Entry
  deriving DecidableEq, Inhabited

/-- The characters of the bytes from 128 up in the older encoding of names. -/
def legacyCharacters : List Char :=
  ("ÇüéâäàåçêëèïîìÄÅÉæÆôöòûùÿÖÜ¢£¥₧ƒáíóúñÑªº¿⌐¬½¼¡«»" ++
    "░▒▓│┤╡╢╖╕╣║╗╝╜╛┐└┴┬├─┼╞╟╚╔╩╦╠═╬╧╨╤╥╙╘╒╓╫╪┘┌█▄▌▐▀" ++
    "αßΓπΣσµτΦΘΩδ∞φε∩≡±≥≤⌠⌡÷≈°∙·√ⁿ²■\u00A0").toList

/-- The name of an entry: UTF-8 when its flags say so, the older encoding otherwise. -/
def decodeName (flags : Nat) (bytes : Bytes) : String :=
  if flags.testBit 11 then Utf8.toStringLossy bytes
  else .ofList <| bytes.map fun byte =>
    if byte < 0x80 then Char.ofNat byte.toNat
    else legacyCharacters.getD (byte.toNat - 0x80) ' '

/-- Takes an entry of the directory off the bytes. -/
def takeEntry (shift : Nat) (bytes : Bytes) : Option (Entry × Bytes) := do
  guard (directoryMark.isPrefixOf bytes)
  let (fields, rest) ← takeFields [4, 2, 2, 2, 2, 2, 2, 4, 4, 4, 2, 2, 2, 2, 2, 4, 4] bytes
  match fields with
  | [_, _, _, flags, method, _, _, checksum, compressed, _, nameLength, extraLength,
      commentLength, _, _, _, offset] =>
    let (name, rest) ← takeRun nameLength rest
    let (_, rest) ← takeRun extraLength rest
    let (_, rest) ← takeRun commentLength rest
    return (⟨decodeName flags name, flags, method, checksum, compressed, offset + shift⟩, rest)
  | _ => none

/-- Takes `count` entries of the directory off the bytes. -/
def takeEntries (shift : Nat) : Nat → Bytes → Option (List Entry)
  | 0, _ => some []
  | count + 1, bytes => do
    let (entry, rest) ← takeEntry shift bytes
    return entry :: (← takeEntries shift count rest)

/-- The positions at which a mark stands, counted from `position`. -/
def positionsOf (mark : Bytes) (position : Nat) : Bytes → List Nat
  | [] => []
  | byte :: rest =>
    let later := positionsOf mark (position + 1) rest
    if mark.isPrefixOf (byte :: rest) then position :: later else later

/-- The directory that the record at `position` points to. -/
def directoryAt? (bytes : Bytes) (position : Nat) : Option (List Entry) := do
  let (fields, _) ← takeFields [4, 2, 2, 2, 2, 4, 4, 2] (bytes.drop position)
  match fields with
  | [_, disk, directoryDisk, countHere, count, _, offset, commentLength] =>
    guard (position + 22 + commentLength ≤ bytes.length)
    if count = 0 then return []
    guard (offset < position)
    let between := (bytes.drop offset).take (position - offset)
    let start ← (positionsOf directoryMark offset between).head?
    guard (disk = directoryDisk)
    takeEntries (start - offset) countHere (bytes.drop start)
  | _ => none

/-- Opens an archive. -/
def openArchive (bytes : Bytes) : Except FileError Archive :=
  let records := (positionsOf endMark 0 bytes).reverse
  match records.findSome? (directoryAt? bytes) with
  | some entries => .ok ⟨bytes, entries⟩
  | none => .error (.archive .noDirectory)

namespace Archive

/-- The entry with a name; of several the last counts. -/
def entry? (archive : Archive) (name : String) : Option Entry :=
  archive.entries.reverse.find? (·.name == name)

/-- Whether a name stands for a directory. -/
def isDirectoryName (name : String) : Bool :=
  name.toList.getLast? == some '/'

/-- The names of the entries that are no directories. -/
def fileNames (archive : Archive) : NameSet :=
  .ofList ((archive.entries.map (·.name)).filter (!isDirectoryName ·))

/-- The bytes of an entry as they are stored. -/
def storedBytes (archive : Archive) (entry : Entry) : Except FileError Bytes :=
  let bytes := archive.bytes.drop entry.offset
  if !localMark.isPrefixOf bytes then .error (.archive .badHeader)
  else
    match takeFields [4, 2, 2, 2, 2, 2, 4, 4, 4, 2, 2] bytes with
    | some ([_, _, _, _, _, _, _, _, _, nameLength, extraLength], rest) =>
      .ok ((rest.drop (nameLength + extraLength)).take entry.compressedSize)
    | _ => .error (.archive .badHeader)

/-- The bytes of an entry. -/
def readEntry (archive : Archive) (entry : Entry) : Except FileError Bytes := do
  if entry.flags.testBit 0 then throw (.archive .encrypted)
  let stored ← archive.storedBytes entry
  let content ←
    if entry.method = 0 then pure stored
    else if entry.method = 8 then
      match inflate? stored with
      | some content => pure content
      | none => throw .corruptData
    else throw (.archive .unsupportedMethod)
  if (checksum content).toNat = entry.checksum then return content else throw .wrongChecksum

/-- The bytes of the entry with a name. -/
def read (archive : Archive) (name : String) : Except FileError Bytes :=
  match archive.entry? name with
  | some entry => archive.readEntry entry
  | none => .error (.archive .noEntry)

end Archive

end Isolation.Zip
