import Isolation.FileTree
import Isolation.Locator
import Isolation.Zip.Archive

/-!
# Elements of a classpath

An element is an archive, whose directory is read when it is opened, or a directory, which is looked
up each time. An archive holds its file open, and the bytes of an entry are read from there each
time, where the directory says that they are. Names of entries are relative: they do not start with
a slash and have no segment `..`, whichever separator is used, so no name leaves its element.
-/

namespace Isolation.Classpath

/-- An archive with the file that it holds open. -/
structure OpenArchive extends Zip.Archive where
  file : FileTree.Hold
  deriving DecidableEq

/-- An archive with the bytes that its file has by now. -/
def OpenArchive.reread (files : FileTree) (archive : OpenArchive) : Zip.Archive :=
  match files.contentOf archive.file with
  | some bytes => { archive.toArchive with bytes := bytes }
  | none => archive.toArchive

/-- An archive or a directory, with its absolute path. -/
inductive Element where
  | archive (path : Path) (content : OpenArchive)
  | directory (path : Path)
  deriving DecidableEq

/-- Whether a name stays inside its element. -/
def isRelativeName (name : String) : Bool :=
  let chars := name.toList
  chars ≠ [] && chars.head? ≠ some '/' &&
    !((chars.splitOnP fun c => c == '/' || c == '\\').contains ['.', '.'])

/-- The two bytes that an archive starts with. -/
def archiveMark : Bytes := [0x50, 0x4B]

namespace Element

/-- Opens what a path leads to; an archive is told by its first bytes, not by its name. -/
def openAt (files : FileTree) (path : Path) : Except FileError Element := do
  let (location, node) ← files.nodeAt path
  match node with
  | .directory => return directory location.path
  | .file bytes =>
    if bytes.length < 4 then throw .tooShort
    if archiveMark.isPrefixOf bytes then
      return archive location.path ⟨← Zip.openArchive bytes, files.hold location⟩
    throw (.notArchive location.path.display)

/-- The absolute path of an element. -/
def path : Element → Path
  | archive path _ => path
  | directory path => path

/-- Whether an element is an archive. -/
def isArchive : Element → Bool
  | archive _ _ => true
  | directory _ => false

/-- Whether an element has an entry with this name. -/
def contains (files : FileTree) (element : Element) (name : String) : Bool :=
  match element with
  | archive _ content => content.fileNames.contains name
  | directory root => isRelativeName name && files.isFile (root.child name)

/-- The bytes of the entry with this name. -/
def read (files : FileTree) (element : Element) (name : String) : Except FileError Bytes :=
  match element with
  | archive _ content => (content.reread files).read name
  | directory root =>
    if isRelativeName name then files.read (root.child name)
    else .error (.leavesDirectory name root.display)

/-- Names on the way to a file as the name of an entry. -/
def entryName (names : Location) : String :=
  .ofList (['/'].intercalate (names.map Utf8.decodeLossy))

/-- The names of all entries: those of an archive sorted as texts, those of a directory name by
name. -/
def entryNames (files : FileTree) (element : Element) : List String :=
  match element with
  | archive _ content => content.fileNames.names
  | directory root =>
    match files.resolve root with
    | .ok location => (files.filesUnder location).map fun (names, _) => entryName names
    | .error _ => []

/-- The locator of the entry with this name. -/
def locator? (element : Element) (name : String) : Option Locator :=
  match element with
  | archive path _ => Locator.ofEntry? path name
  | directory root => Locator.ofFile? (root.child name)

end Element

end Isolation.Classpath
