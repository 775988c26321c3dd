import Isolation.Json.Value
import Isolation.Manifest
import Isolation.SearchRules.Document

/-!
# Manifests as documents

A manifest is an object. The identity and the classpath must be given; a version and the setting for
reports are left out when there is none.
-/

namespace Isolation.Manifest

open Json

/-- A list of texts as a document. -/
def textsJson (texts : List String) : Json :=
  .array (texts.map .string)

/-- A manifest as a document, if its paths are texts. -/
def toJson? (manifest : Manifest) : Option Json := do
  let classpath ← manifest.classpath.mapM Path.toString?
  return .object <|
    [("artifact_id", .string manifest.artifact), ("name", .string manifest.name)] ++
    (manifest.version.map fun version => ("version", Json.string version)).toList ++
    [("classpath", textsJson classpath), ("exported_packages", textsJson manifest.packages),
      ("exported_resources", textsJson manifest.resources),
      ("exported_services", .array (manifest.services.map (·.toJson))),
      ("lookup_policy", manifest.rules.toJson)] ++
    (manifest.verbose.map fun verbose => ("verbose_classloading", Json.boolean verbose)).toList

/-- A manifest of which some fields have been read. -/
structure Draft where
  artifact : Option String := none
  name : Option String := none
  version : Option (Option String) := none
  classpath : Option (List Path) := none
  packages : Option (List String) := none
  resources : Option (List String) := none
  services : Option (List Service.Declaration) := none
  rules : Option SearchRules := none
  verbose : Option (Option Bool) := none

/-- The fields of a manifest. -/
def fields : List (Member Draft) := [
  .of "artifact_id" true (·.artifact) (readString "a string") fun value draft =>
    { draft with artifact := value },
  .of "name" true (·.name) (readString "a string") fun value draft =>
    { draft with name := value },
  .of "version" false (·.version) (readOptional (readString "a string")) fun value draft =>
    { draft with version := some value },
  .of "classpath" true (·.classpath) (readList readPath) fun value draft =>
    { draft with classpath := value },
  .of "exported_packages" false (·.packages) (readList (readString "a string"))
    fun value draft => { draft with packages := value },
  .of "exported_resources" false (·.resources) (readList (readString "a string"))
    fun value draft => { draft with resources := value },
  .of "exported_services" false (·.services) (readList Service.Declaration.read)
    fun value draft => { draft with services := value },
  .of "lookup_policy" false (·.rules) SearchRules.read fun value draft =>
    { draft with rules := value },
  .of "verbose_classloading" false (·.verbose) (readOptional readBoolean) fun value draft =>
    { draft with verbose := some value }]

/-- The manifest that a draft holds. -/
def Draft.manifest (draft : Draft) : Manifest where
  artifact := draft.artifact.getD ""
  name := draft.name.getD ""
  version := draft.version.getD none
  classpath := draft.classpath.getD []
  packages := draft.packages.getD []
  resources := draft.resources.getD []
  services := draft.services.getD []
  rules := draft.rules.getD {}
  verbose := draft.verbose.getD none

/-- Reads a manifest. -/
def read : Reader Manifest := fun text => do
  let (draft, rest) ← readDraft "struct ArtifactConfig" fields {} text
  return (draft.manifest, rest)

end Isolation.Manifest
