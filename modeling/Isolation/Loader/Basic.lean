import Isolation.Identity
import Isolation.Loader.Source
import Isolation.SearchRules
import Isolation.Service.Table
import Isolation.Verbosity

/-!
# Loaders

A loader defines classes from a source of its own, perhaps with a parent that it also asks; or it
stands in front of another loader and lets through what is exported; or it always fails. Loaders
have numbers; a loader that is used in two places is the same loader because its number is the same.
-/

namespace Isolation

/-- The number of a loader. -/
structure LoaderId where
  number : Nat
  deriving DecidableEq, Inhabited, Repr

/-- The number of the next loader. -/
def LoaderId.next (id : LoaderId) : LoaderId :=
  ⟨id.number + 1⟩

/-- A loader that defines classes from a source of its own. -/
structure Backing where
  id : LoaderId
  artifact : String
  identity : Identity
  rules : SearchRules
  source : Source

/-- What stands in front of a loader: what it exports, the services that it answers for, and whether
its decisions are reported. -/
structure Wrapper where
  id : LoaderId
  exports : Exports
  services : Service.Table
  verbosity : Verbosity

/-- A loader whose lookups fail. -/
structure FailingLoader where
  id : LoaderId
  artifact : String
  reason : String

/-- A loader, with the loaders that it asks. -/
inductive Loader where
  | root (own : Backing)
  | child (own : Backing) (parent : Loader)
  | filtering (wrapper : Wrapper) (inner : Loader)
  | failing (loader : FailingLoader)

namespace Loader

/-- The number of a loader. -/
def id : Loader → LoaderId
  | root own => own.id
  | child own _ => own.id
  | filtering wrapper _ => wrapper.id
  | failing loader => loader.id

/-- The artifact whose classes a loader has; a wrapper has those of the loader behind it. -/
def artifact : Loader → String
  | root own => own.artifact
  | child own _ => own.artifact
  | filtering _ inner => inner.artifact
  | failing loader => loader.artifact

/-- The identity of the artifact of a loader. -/
def identity : Loader → Identity
  | root own => own.identity
  | child own _ => own.identity
  | filtering _ inner => inner.identity
  | failing loader => ⟨loader.artifact, none⟩

/-- How a loader searches for classes. -/
def rules : Loader → SearchRules
  | root own => own.rules
  | child own _ => own.rules
  | filtering _ inner => inner.rules
  | failing _ => {}

/-- The loader that class lookups through a loader go to: every loader answers for itself, and a
wrapper does not step aside for the loader behind it. -/
def classLoader (loader : Loader) : Loader :=
  loader

/-- The loader that defines classes behind any number of wrappers. -/
def backing? : Loader → Option Backing
  | root own => some own
  | child own _ => some own
  | filtering _ inner => inner.backing?
  | failing _ => none

/-- What the loaders of a source are called. -/
def sourceLabel : Source → String
  | .tables _ _ => "InMemoryArtifactClassLoader"
  | .classpath _ => "JarArtifactClassLoader"

/-- A loader as it is shown: what it is called, its artifact, and its number in hexadecimal. -/
def label (name artifact : String) (id : LoaderId) : String :=
  name ++ "[" ++ artifact ++ "]@" ++ Text.hex id.number

/-- A loader as it is shown, unless it always fails. -/
def text? (loader : Loader) : Option String :=
  match loader with
  | root own => some (label (sourceLabel own.source) own.artifact own.id)
  | child own _ => some (label (sourceLabel own.source) own.artifact own.id)
  | filtering wrapper inner => some (label "FilteringArtifactClassLoader" inner.artifact wrapper.id)
  | failing _ => none

end Loader

/-- A wrapper in front of a loader on one line, with all that it holds. -/
def Wrapper.describe (wrapper : Wrapper) (inner : Loader) (disposed : Bool) : String :=
  "FilteringArtifactClassLoader \x7b id: LoaderId(" ++ toString wrapper.id.number ++
    "), artifact_id: " ++ Text.quote inner.artifact ++ ", filter: " ++ wrapper.exports.describe ++
    ", exported_services: " ++ toString wrapper.services.bindings.length ++ ", disposed: " ++
    (if disposed then "true" else "false") ++ " \x7d"

end Isolation
