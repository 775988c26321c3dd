import Isolation.ClassName
import Isolation.NameMap
import Isolation.Text.Blank
import Isolation.Text.Quoted

/-!
# What an artifact exports

An artifact exports packages and resources. A class is visible when its package is exported. A
resource is visible when it is listed, when it lies under a listed directory (an entry that ends
with a slash), or when its directory is that of an exported package.
-/

namespace Isolation

/-- The packages and the resources that an artifact makes visible to others. -/
structure Exports where
  packages : NameSet
  resources : NameSet
  deriving DecidableEq

namespace Exports

open Text

/-- A resource name without one leading slash. -/
def relativeName (name : List Char) : List Char :=
  dropOne '/' name

/-- The exports with these packages and resources; a resource loses one leading slash. -/
def ofLists (packages resources : List String) : Exports where
  packages := .ofList packages
  resources := .ofList (resources.map fun name => .ofList (relativeName name.toList))

/-- Nothing is exported. -/
def nothing : Exports :=
  ⟨.empty, .empty⟩

instance : Inhabited Exports := ⟨nothing⟩

/-- The items of a list separated by commas, trimmed, without the blank ones. -/
def listItems (text : String) : List String :=
  (((text.toList.splitOn ',').map (trimBoth isBlank)).filter (· ≠ [])).map .ofList

/-- The exports given by two comma-separated lists. -/
def ofTexts (packages resources : String) : Exports :=
  ofLists (listItems packages) (listItems resources)

/-- Whether a class is visible: its package is exported. -/
def admitsClass (exports : Exports) (name : String) : Bool :=
  exports.packages.contains (ClassName.package name)

/-- Whether a resource lies under a listed directory. -/
def underListedDirectory (exports : Exports) (resource : List Char) : Bool :=
  exports.resources.names.any fun entry =>
    ['/'].isSuffixOf entry.toList && entry.toList.isPrefixOf resource

/-- Whether a resource lies directly in the directory of an exported package. -/
def inExportedPackage (exports : Exports) (resource : List Char) : Bool :=
  match cutLast '/' resource with
  | some (directory, _) =>
    exports.packages.contains (.ofList (ClassName.slashesToDots directory))
  | none => false

/-- Whether a resource is visible. -/
def admitsResource (exports : Exports) (name : String) : Bool :=
  let resource := relativeName name.toList
  exports.resources.contains (.ofList resource) || exports.underListedDirectory resource ||
    exports.inExportedPackage resource

/-- The exports on one line, as error messages describe them. -/
def describe (exports : Exports) : String :=
  "ArtifactClassLoaderFilter \x7b exported_packages: " ++ quoteSet exports.packages.names ++
    ", exported_resources: " ++ quoteSet exports.resources.names ++ " \x7d"

end Exports

end Isolation
