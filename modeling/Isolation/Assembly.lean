import Isolation.Loader.Lifecycle
import Isolation.Manifest.Load
import Isolation.Service.Descriptors

/-!
# Assembling artifacts

An artifact is assembled from its manifest: its classpath is opened, the descriptors of its services
are written, and a wrapper is put in front of the loader of the classpath. Nothing is written before
the manifest has been checked and the whole classpath has been opened.
-/

namespace Isolation

/-- The loader of a classpath, and the wrapper in front of it. -/
structure Assembly where
  backing : Backing
  wrapper : Wrapper

namespace Assembly

/-- The loader that other artifacts see. -/
def loader (assembly : Assembly) : Loader :=
  .filtering assembly.wrapper (.root assembly.backing)

/-- The elements of the classpath. -/
def elements (assembly : Assembly) : List Classpath.Element :=
  match assembly.backing.source with
  | .classpath elements => elements
  | .tables _ _ => []

/-- The names of all entries of the classpath, element by element. -/
def entries (files : FileTree) (assembly : Assembly) : List String :=
  assembly.elements.flatMap (·.entryNames files)

/-- The bytes behind a locator: those of the descriptor of a service, or those of an entry of the
classpath. -/
def read (files : FileTree) (assembly : Assembly) (locator : Locator) : Except LoadError Bytes :=
  match locator.toFile?, assembly.wrapper.services.holds locator with
  | some path, true => (files.read path).mapError .file
  | _, _ => Source.readLocator files assembly.elements assembly.backing.artifact locator

/-- Disposes the wrapper, and then the loader behind it. -/
def dispose (state : State) (assembly : Assembly) : Disposal :=
  assembly.backing.dispose (assembly.wrapper.dispose state)

end Assembly

/-- What an attempt to assemble an artifact leaves behind: the files, the first number that is still
free, and the artifact or what stopped the attempt. -/
structure Attempt where
  files : FileTree
  free : LoaderId
  result : Except AssemblyError Assembly

/-- Opens the elements of a classpath, in order; the first failure counts. -/
def openClasspath (files : FileTree) (paths : List Path) :
    Except FileError (List Classpath.Element) :=
  paths.mapM (Classpath.Element.openAt files)

namespace Manifest

/-- The loader of the classpath of an artifact. -/
def backing (manifest : Manifest) (id : LoaderId) (elements : List Classpath.Element) :
    Backing where
  id := id
  artifact := manifest.artifact
  identity := manifest.identity
  rules := manifest.rules
  source := .classpath elements

/-- The wrapper in front of the loader of an artifact; `usual` is the verbosity unless the manifest
has one of its own. -/
def wrapper (manifest : Manifest) (usual : Verbosity) (id : LoaderId)
    (bindings : List Service.Binding) : Wrapper where
  id := id
  exports := .ofLists manifest.packages manifest.resources
  services := ⟨bindings⟩
  verbosity := (manifest.verbose.map Verbosity.mk).getD usual

/-- Checks a manifest and opens its classpath. -/
def openElements (files : FileTree) (manifest : Manifest) :
    Except AssemblyError (List Classpath.Element) := do
  manifest.validate.mapError .manifest
  (openClasspath files manifest.classpath).mapError fun error => .loading (.file error)

/-- Assembles an artifact, with the descriptors of its services below a directory. The first free
number goes to the loader of the classpath as soon as the classpath is open, and the next one to the
wrapper. -/
def assemble (files : FileTree) (usual : Verbosity) (id : LoaderId) (manifest : Manifest)
    (directory : Path) : Attempt :=
  match manifest.openElements files with
  | .error error => ⟨files, id, .error error⟩
  | .ok elements =>
    match Service.publish files directory manifest.services with
    | (files, .error error) => ⟨files, id.next, .error error⟩
    | (files, .ok bindings) =>
      ⟨files, id.next.next,
        .ok ⟨manifest.backing id elements, manifest.wrapper usual id.next bindings⟩⟩

end Manifest

end Isolation
