import Isolation.Path
import Isolation.Url.Parser

/-!
# Files as URLs

An absolute path has a `file` URL, one segment for each step below the root. A URL that lies on no
other host stands for the path of its decoded segments.
-/

namespace Isolation.Url

/-- The `file` URL of an absolute path. -/
def ofFilePath? (path : Path) : Option Url :=
  if path.isAbsolute then
    let names := (path.components.drop 1).map fun step => encodeBytes escapedInFileName step.bytes
    some {
      scheme := "file".toList
      authority := some {}
      path := .segments (if names = [] then [[]] else names) }
  else none

/-- Whether a URL lies on no other host. -/
def isLocal (url : Url) : Bool :=
  match url.authority.bind (·.host) with
  | none => true
  | some host => host == .name "localhost".toList

/-- The bytes of a path, with a slash after a drive letter at its end. -/
def closeDrive (bytes : Bytes) : Bytes :=
  match bytes.reverse with
  | mark :: letter :: _ :: _ =>
    if (mark == 0x3A || mark == 0x7C) && (Char.ofNat letter.toNat).isAlpha then
      bytes ++ [Path.slash]
    else bytes
  | _ => bytes

/-- The path that a URL stands for. -/
def toFilePath? (url : Url) : Option Path :=
  match url.path with
  | .plain _ => none
  | .segments [] => none
  | .segments list =>
    if url.isLocal then
      some ⟨closeDrive (list.flatMap fun segment => Path.slash :: decodeBytes segment)⟩
    else none

end Isolation.Url
