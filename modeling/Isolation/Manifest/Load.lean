import Isolation.FileTree
import Isolation.LoadError
import Isolation.Manifest.Document

/-!
# Loading manifests

A manifest is loaded from a file: the text is read, the classpath is resolved against the directory
of the file, and the result is checked.
-/

namespace Isolation

/-- Why an artifact cannot be assembled. -/
inductive AssemblyError where
  | file (error : FileError)
  | document (error : Json.ReadError)
  | loading (error : LoadError)
  | manifest (fault : ManifestFault)
  deriving DecidableEq

/-- What an error says. -/
def AssemblyError.message : AssemblyError → String
  | file error => "I/O error: " ++ error.message
  | document _ => "JSON serialization/deserialization error"
  | loading error => "Loader error: " ++ error.message
  | manifest fault => fault.message

namespace Manifest

/-- The text of a file. -/
def readText (files : FileTree) (path : Path) : Except FileError String := do
  match Utf8.toString? (← files.read path) with
  | some text => return text
  | none => throw .notText

/-- Loads a manifest from a file. -/
def load (files : FileTree) (path : Path) : Except AssemblyError Manifest := do
  let text ← (readText files path).mapError .file
  let written ← (Json.readAll read text).mapError .document
  let manifest := match path.parent? with
    | some base => written.resolveAgainst base
    | none => written
  (manifest.validate).mapError .manifest
  return manifest

end Manifest

end Isolation
