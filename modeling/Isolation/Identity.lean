import Isolation.Json.Reader
import Isolation.Json.Value

/-!
# Identities of artifacts

An artifact is known by a name and perhaps a version. Loaders carry the identity along and do not
interpret it.
-/

namespace Isolation

/-- The name and the version of an artifact. -/
structure Identity where
  name : String
  version : Option String := none
  deriving DecidableEq, Inhabited

namespace Identity

open Json

/-- An identity as it is shown: the name, and after a colon the version. -/
def text (identity : Identity) : String :=
  match identity.version with
  | some version => identity.name ++ ":" ++ version
  | none => identity.name

/-- An identity as a document; a missing version is left out. -/
def toJson (identity : Identity) : Json :=
  .object <| ("name", .string identity.name) ::
    (identity.version.map fun version => ("version", Json.string version)).toList

/-- An identity of which some fields have been read. -/
structure Draft where
  name : Option String := none
  version : Option (Option String) := none

/-- The fields of an identity. -/
def fields : List (Member Draft) := [
  .of "name" true (·.name) (readString "a string") fun value draft => { draft with name := value },
  .of "version" false (·.version) (readOptional (readString "a string")) fun value draft =>
    { draft with version := some value }]

/-- Reads an identity. -/
def read : Reader Identity := fun text => do
  let (draft, rest) ← readDraft "struct ArtifactDescriptor" fields {} text
  return (⟨draft.name.getD "", draft.version.getD none⟩, rest)

end Identity

end Isolation
