import Isolation.ClassFile.Kind
import Isolation.Classpath.Element

/-!
# Sources of classes and resources

A loader finds classes and resources of its own in tables or on a classpath. In tables they are
found by name; on a classpath the first element that has an entry decides on a class, and every
element that has an entry counts for a resource. The name of a resource may start with one slash too
many.
-/

namespace Isolation

/-- The bytes of a class in a table, and where they are said to come from. -/
structure ClassRecord where
  origin : Locator
  bytes : Bytes
  deriving DecidableEq

/-- Where a loader finds classes and resources of its own. -/
inductive Source where
  | tables (classes : NameMap ClassRecord) (resources : NameMap (List Locator))
  | classpath (elements : List Classpath.Element)

namespace Source

/-- A resource name without one leading slash. -/
def resourceKey (name : String) : String :=
  .ofList (Text.dropOne '/' name.toList)

/-- Tables of classes and resources, in the order in which they are registered: the later of two
classes with one name counts, and the locators of one resource add up. -/
def ofTables (classes : List (String × ClassRecord)) (resources : List (String × Locator)) :
    Source :=
  tables (.ofList classes) <| resources.foldl
    (fun map (name, locator) =>
      let key := resourceKey name
      map.insert key ((map.find? key).getD [] ++ [locator]))
    .empty

/-- The first element that has an entry. -/
def elementWith? (files : FileTree) (elements : List Classpath.Element) (name : String) :
    Option Classpath.Element :=
  elements.find? (·.contains files name)

/-- The class file of a class on a classpath, which must start as class files do, and its place. -/
def classOnPath (files : FileTree) (elements : List Classpath.Element)
    (className artifact : String) : Except LoadError ClassRecord := do
  let resource := ClassName.classFile className
  match elementWith? files elements resource with
  | none => throw (.classNotFound className artifact)
  | some element =>
    let bytes ← (element.read files resource).mapError .file
    ClassFile.checkMagic className bytes
    match element.locator? resource with
    | none => throw (.file (.noLocator resource element.path.display))
    | some origin => return ⟨origin, bytes⟩

/-- The record of a class. -/
def findClass (files : FileTree) (source : Source) (className artifact : String) :
    Except LoadError ClassRecord :=
  match source with
  | tables classes _ =>
    match classes.find? className with
    | some record => .ok record
    | none => .error (.classNotFound className artifact)
  | classpath elements => classOnPath files elements className artifact

/-- The locator of a resource: that of the first element that has it. -/
def findResource? (files : FileTree) (source : Source) (name : String) : Option Locator :=
  let key := resourceKey name
  match source with
  | tables _ resources => ((resources.find? key).getD []).head?
  | classpath elements => (elementWith? files elements key).bind (·.locator? key)

/-- The locators of a resource: those of all elements that have it, in order. -/
def findResources (files : FileTree) (source : Source) (name : String) : List Locator :=
  let key := resourceKey name
  match source with
  | tables _ resources => (resources.find? key).getD []
  | classpath elements => (elements.filter (·.contains files key)).filterMap (·.locator? key)

/-- The first directory that a path lies in, and the steps from there to it. -/
def directoryOf? (elements : List Classpath.Element) (path : Path) :
    Option (Classpath.Element × List Path.Component) :=
  elements.findSome? fun element =>
    if element.isArchive then none
    else (path.stepsBelow? element.path).map (element, ·)

/-- Steps below a directory as the name of an entry. -/
def stepsName (steps : List Path.Component) : String :=
  Classpath.Element.entryName (steps.map (·.bytes))

/-- The bytes behind a locator that lies on a classpath. -/
def readLocator (files : FileTree) (elements : List Classpath.Element) (artifact : String)
    (locator : Locator) : Except LoadError Bytes :=
  let foreign := LoadError.rejected (.foreignLocator locator.text artifact)
  match locator.toEntry? with
  | some (archive, entry) =>
    match elements.find? fun element => element.isArchive && element.path.samePlace archive with
    | some element => (element.read files entry).mapError .file
    | none => .error foreign
  | none =>
    match locator.toFile? with
    | none => .error foreign
    | some path =>
      match directoryOf? elements path with
      | some (element, steps) => (element.read files (stepsName steps)).mapError .file
      | none => .error foreign

end Source

end Isolation
