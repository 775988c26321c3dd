import Isolation.Identity
import Isolation.SearchRules
import Isolation.Service.Declaration
import Isolation.Text.Blank

/-!
# Manifests

A manifest says what an artifact is made of: its identity, its classpath, what it exports, the
services that it declares, and how its loader searches. A manifest is valid when its texts are not
blank, its classpath has at least one element and none twice, and its packages can be packages.
-/

namespace Isolation

/-- What an artifact is made of. -/
structure Manifest where
  artifact : String
  name : String
  version : Option String := none
  classpath : List Path
  packages : List String := []
  resources : List String := []
  services : List Service.Declaration := []
  rules : SearchRules := {}
  verbose : Option Bool := none
  deriving DecidableEq

/-- Why a manifest is not valid, or cannot be put to use. -/
inductive ManifestFault where
  | blankArtifact
  | blankName (artifact : String)
  | emptyClasspath (artifact : String)
  | repeatedElement (path : Path)
  | invalidPackage (package : String)
  | noLocator (path : Path)
  deriving DecidableEq

/-- What a fault says. -/
def ManifestFault.message (fault : ManifestFault) : String :=
  "Configuration error: " ++
    match fault with
    | blankArtifact => "artifact_id cannot be empty"
    | blankName artifact => "Artifact '" ++ artifact ++ "' has an empty name"
    | emptyClasspath artifact => "Artifact '" ++ artifact ++ "' has an empty classpath"
    | repeatedElement path => "Classpath entry " ++ path.display ++ " is listed twice"
    | invalidPackage package => "Invalid exported package '" ++ package ++ "'"
    | noLocator path => "Cannot build locator for " ++ path.display

namespace Manifest

/-- The identity of the artifact. -/
def identity (manifest : Manifest) : Identity :=
  ⟨manifest.name, manifest.version⟩

/-- The first path that names the place of an earlier one; `seen` are the paths before the list. -/
def firstRepeated? (seen : List Path) : List Path → Option Path
  | [] => none
  | path :: rest =>
    if seen.any path.samePlace then some path else firstRepeated? (seen ++ [path]) rest

/-- Whether a text cannot be a package: it is blank or ends in a dot. -/
def isBadPackage (package : String) : Bool :=
  Text.isAllBlank package || package.toList.getLast? == some '.'

/-- Checks a manifest; the first fault in this order is reported. -/
def validate (manifest : Manifest) : Except ManifestFault Unit :=
  if Text.isAllBlank manifest.artifact then .error .blankArtifact
  else if Text.isAllBlank manifest.name then .error (.blankName manifest.artifact)
  else if manifest.classpath = [] then .error (.emptyClasspath manifest.artifact)
  else
    match firstRepeated? [] manifest.classpath with
    | some path => .error (.repeatedElement path)
    | none =>
      match manifest.packages.find? isBadPackage with
      | some package => .error (.invalidPackage package)
      | none => .ok ()

/-- A manifest whose classpath is relative to a directory, with the paths joined to it. -/
def resolveAgainst (base : Path) (manifest : Manifest) : Manifest :=
  { manifest with classpath := manifest.classpath.map base.join }

end Manifest

end Isolation
