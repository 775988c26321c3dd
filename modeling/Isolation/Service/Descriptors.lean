import Isolation.FileTree
import Isolation.Manifest.Load
import Isolation.Service.Key
import Isolation.Service.Table

/-!
# Service descriptors

Each declared service gets a descriptor, a file that names its implementation. The descriptor of the
service at position `k` is `<k>/META-INF/services/<interface>` below a common root, so services with
one interface do not overwrite each other.
-/

namespace Isolation.Service

/-- The path of the descriptor of the service at a position. -/
def descriptorPath (root : Path) (position : Nat) (service : Declaration) : Path :=
  ((root.child (toString position)).child marker).child service.interfaceName

/-- What a descriptor holds. -/
def descriptorContent (service : Declaration) : Bytes :=
  Utf8.ofString (service.implementation ++ "\n")

/-- Makes the directory that a path lies in. -/
def ensureParent (files : FileTree) (path : Path) : FileTree × Except FileError Unit :=
  match path.parent? with
  | some parent => files.ensureDirectory parent
  | none => (files, .ok ())

/-- Binds the interface of a service to the locator of its descriptor. -/
def bindDescriptor (path : Path) (service : Declaration) : Except AssemblyError Binding :=
  match Locator.ofFile? path with
  | none => .error (.manifest (.noLocator path))
  | some locator =>
    (Binding.make service.interfaceName locator).mapError fun rejection =>
      .loading (.rejected rejection)

/-- Writes one descriptor. -/
def writeDescriptor (files : FileTree) (path : Path) (service : Declaration) :
    FileTree × Except AssemblyError Binding :=
  match ensureParent files path with
  | (files, .error error) => (files, .error (.file error))
  | (files, .ok ()) =>
    match files.write path (descriptorContent service) with
    | .error error => (files, .error (.file error))
    | .ok files => (files, bindDescriptor path service)

/-- Writes the descriptors of services of which the first has this position. The first failure ends
the writing. -/
def writeDescriptors (files : FileTree) (root : Path) (position : Nat) :
    List Declaration → FileTree × Except AssemblyError (List Binding)
  | [] => (files, .ok [])
  | service :: services =>
    match writeDescriptor files (descriptorPath root position service) service with
    | (files, .error error) => (files, .error error)
    | (files, .ok binding) =>
      match writeDescriptors files root (position + 1) services with
      | (files, .error error) => (files, .error error)
      | (files, .ok bindings) => (files, .ok (binding :: bindings))

/-- Writes the descriptors of all services below a directory, which is made if it is missing. -/
def publish (files : FileTree) (directory : Path) (services : List Declaration) :
    FileTree × Except AssemblyError (List Binding) :=
  match files.ensureDirectory directory with
  | (files, .error error) => (files, .error (.file error))
  | (files, .ok ()) =>
    match files.canonical directory with
    | .error error => (files, .error (.file error))
    | .ok root => writeDescriptors files root 0 services

end Isolation.Service
