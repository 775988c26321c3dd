import Isolation.Zip.Archive

/-!
# Writing archives

An archive of entries that are stored as they are, with names in UTF-8.
-/

namespace Isolation.Zip

/-- The mark of names in UTF-8. -/
def utf8Flag : Nat := 0x800

/-- The earliest date that an archive can hold. -/
def earliestDate : Nat := 0x21

/-- The fields that the header of an entry and its entry in the directory share. -/
def sharedFields (name content : Bytes) : Bytes :=
  fieldBytes 2 20 ++ fieldBytes 2 utf8Flag ++ fieldBytes 2 0 ++ fieldBytes 2 0 ++
    fieldBytes 2 earliestDate ++ fieldBytes 4 (checksum content).toNat ++
    fieldBytes 4 content.length ++ fieldBytes 4 content.length ++ fieldBytes 2 name.length ++
    fieldBytes 2 0

/-- An entry: its header, its name and its bytes. -/
def localRecord (name content : Bytes) : Bytes :=
  localMark ++ sharedFields name content ++ name ++ content

/-- What the directory says about an entry that starts at `offset`. -/
def directoryRecord (offset : Nat) (name content : Bytes) : Bytes :=
  directoryMark ++ fieldBytes 2 20 ++ sharedFields name content ++ fieldBytes 2 0 ++
    fieldBytes 2 0 ++ fieldBytes 2 0 ++ fieldBytes 4 0 ++ fieldBytes 4 offset ++ name

/-- The directory of entries of which the first starts at `offset`. -/
def directoryOf (offset : Nat) : List (Bytes × Bytes) → Bytes
  | [] => []
  | (name, content) :: rest =>
    directoryRecord offset name content ++
      directoryOf (offset + (localRecord name content).length) rest

/-- The record at the end of an archive. -/
def endRecord (count size offset : Nat) : Bytes :=
  endMark ++ fieldBytes 2 0 ++ fieldBytes 2 0 ++ fieldBytes 2 count ++ fieldBytes 2 count ++
    fieldBytes 4 size ++ fieldBytes 4 offset ++ fieldBytes 2 0

/-- The bytes of an archive with these entries, in order. -/
def writeArchive (entries : List (String × Bytes)) : Bytes :=
  let records := entries.map fun (name, content) => (Utf8.ofString name, content)
  let body := records.flatMap fun (name, content) => localRecord name content
  let directory := directoryOf 0 records
  body ++ directory ++ endRecord records.length directory.length body.length

end Isolation.Zip
