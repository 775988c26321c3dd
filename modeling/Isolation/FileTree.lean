import Isolation.FileError
import Isolation.Path

/-!
# File trees

Files and directories, each at its location: the names on the way to it from the root. Every
location but the root has a directory above it, and nothing stands at a location twice. A path is
followed name by name from the root or from the working directory; the first name that cannot be
followed decides the failure. A file that was opened can be read for as long as it is held open,
whatever becomes of its location.
-/

namespace Isolation

/-- The names on the way from the root. -/
abbrev Location := List FileName

/-- The absolute path of a location. -/
def Location.path (location : Location) : Path :=
  if location = [] then ⟨[Path.slash]⟩ else ⟨location.flatMap (Path.slash :: ·)⟩

/-- What stands at a location. -/
inductive Node where
  | directory
  | file (content : Bytes)
  deriving DecidableEq, Inhabited

namespace FileTree

/-- The most bytes that a name may have. -/
def maxNameLength : Nat := 255

/-- The most bytes that a path may have. -/
def maxPathLength : Nat := 4095

/-- Whether a name may stand in a directory. -/
def isValidName (name : FileName) : Bool :=
  name ≠ [] && name ≠ [Path.dot] && name ≠ [Path.dot, Path.dot] && !name.contains Path.slash &&
    !name.contains 0 && name.length ≤ maxNameLength

/-- Whether something may be put under `parent` as `name`: the name is valid and the path not too
long. -/
def mayHold (parent : Location) (name : FileName) : Prop :=
  isValidName name = true ∧ (Location.path (parent ++ [name])).bytes.length ≤ maxPathLength

instance (parent : Location) (name : FileName) : Decidable (mayHold parent name) :=
  inferInstanceAs (Decidable (_ ∧ _))

/-- Whether `parent` is the root or a directory among the nodes. -/
def isDirectoryIn (nodes : List (Location × Node)) (parent : Location) : Prop :=
  parent = [] ∨ (parent, Node.directory) ∈ nodes

instance (nodes : List (Location × Node)) (parent : Location) :
    Decidable (isDirectoryIn nodes parent) :=
  inferInstanceAs (Decidable (_ ∨ _))

/-- Whether every node stands under a directory, with a name that may stand there. -/
def Rooted (nodes : List (Location × Node)) : Prop :=
  ∀ entry ∈ nodes, ∃ parent name,
    entry.1 = parent ++ [name] ∧ mayHold parent name ∧ isDirectoryIn nodes parent

end FileTree

/-- Files and directories, the working directory, and the files that have been removed, first to
last, each with the content that it had. -/
structure FileTree where
  nodes : List (Location × Node)
  working : Location
  removed : List (Location × Bytes)
  distinct : (nodes.map (·.1)).Nodup
  rooted : FileTree.Rooted nodes

namespace FileTree

/-- The tree with an empty root. -/
def empty : FileTree where
  nodes := []
  working := []
  removed := []
  distinct := .nil
  rooted := by simp [Rooted]

instance : Inhabited FileTree := ⟨empty⟩

/-- The tree with another working directory. -/
def workingAt (tree : FileTree) (location : Location) : FileTree :=
  { tree with working := location }

/-- What stands at a location; the root is a directory. -/
def node? (tree : FileTree) (location : Location) : Option Node :=
  if location = [] then some .directory else tree.nodes.lookup location

/-- Follows one part of a path. -/
def follow (tree : FileTree) (location : Location) (part : Bytes) : Except FileError Location :=
  match tree.node? location with
  | none => .error .missing
  | some (.file _) => .error .notDirectory
  | some .directory =>
    if part = [] ∨ part = [Path.dot] then .ok location
    else if part = [Path.dot, Path.dot] then .ok location.dropLast
    else if maxNameLength < part.length then .error .nameTooLong
    else if (tree.node? (location ++ [part])).isSome then .ok (location ++ [part])
    else .error .missing

/-- Where following a path starts. -/
def startOf (tree : FileTree) (path : Path) : Location :=
  if path.isAbsolute then [] else tree.working

/-- Whether a path can be handed to the file system at all. -/
def checkPath (path : Path) : Except FileError Unit :=
  if path.bytes.contains 0 then .error .nulInName
  else if path.bytes = [] then .error .missing
  else if maxPathLength < path.bytes.length then .error .nameTooLong
  else .ok ()

/-- The location that a path leads to. -/
def resolve (tree : FileTree) (path : Path) : Except FileError Location := do
  checkPath path
  path.parts.foldlM tree.follow (tree.startOf path)

/-- What a path leads to. -/
def nodeAt (tree : FileTree) (path : Path) : Except FileError (Location × Node) := do
  let location ← tree.resolve path
  match tree.node? location with
  | some node => .ok (location, node)
  | none => .error .missing

/-- Whether a path leads to a file. -/
def isFile (tree : FileTree) (path : Path) : Bool :=
  match tree.nodeAt path with
  | .ok (_, .file _) => true
  | _ => false

/-- Whether a path leads to a directory. -/
def isDirectory (tree : FileTree) (path : Path) : Bool :=
  match tree.nodeAt path with
  | .ok (_, .directory) => true
  | _ => false

/-- The content of the file that a path leads to. -/
def read (tree : FileTree) (path : Path) : Except FileError Bytes := do
  match ← tree.nodeAt path with
  | (_, .file content) => .ok content
  | (_, .directory) => .error .isDirectory

/-- The absolute path, without dots, of what a path leads to. -/
def canonical (tree : FileTree) (path : Path) : Except FileError Path := do
  let (location, _) ← tree.nodeAt path
  .ok location.path

/-- Components in the order of their bytes. -/
def locationLE (left right : Location) : Bool :=
  decide (left ≤ right)

/-- The files under a location, each with the names that lead from there to it, sorted by these
names from left to right. A file is itself the only file under its location. -/
def filesUnder (tree : FileTree) (location : Location) : List (Location × Bytes) :=
  let below := tree.nodes.filterMap fun (place, node) =>
    match location.isPrefixOf? place, node with
    | some names, .file content => some (names, content)
    | _, _ => none
  below.mergeSort fun left right => locationLE left.1 right.1

private theorem rooted_append {nodes : List (Location × Node)} {parent : Location} {name : FileName}
    {node : Node} (rooted : Rooted nodes) (held : mayHold parent name)
    (below : isDirectoryIn nodes parent) : Rooted (nodes ++ [(parent ++ [name], node)]) := by
  have widen : ∀ {place}, isDirectoryIn nodes place →
      isDirectoryIn (nodes ++ [(parent ++ [name], node)]) place :=
    fun inside => inside.imp id fun member => List.mem_append_left _ member
  intro entry member
  rcases List.mem_append.mp member with old | new
  · obtain ⟨above, last, shape, allowed, inside⟩ := rooted entry old
    exact ⟨above, last, shape, allowed, widen inside⟩
  · obtain rfl : entry = (parent ++ [name], node) := by simpa using new
    exact ⟨parent, name, rfl, held, widen below⟩

/-- Puts a new node under a directory. -/
def insert (tree : FileTree) (parent : Location) (name : FileName) (node : Node) :
    Except FileError FileTree :=
  if held : mayHold parent name then
    if below : isDirectoryIn tree.nodes parent then
      if absent : parent ++ [name] ∈ tree.nodes.map (·.1) then .error .alreadyExists
      else .ok {
        nodes := tree.nodes ++ [(parent ++ [name], node)]
        working := tree.working
        removed := tree.removed
        distinct := by
          simp only [List.map_append, List.map_cons, List.map_nil]
          exact List.nodup_append.mpr ⟨tree.distinct, by simp, by
            rintro place inside other same
            obtain rfl := List.mem_singleton.mp same
            exact fun equal => absent (equal ▸ inside)⟩
        rooted := rooted_append tree.rooted held below }
    else .error .notDirectory
  else .error .nameTooLong

/-- A node with another content, if it is the file at `location`. -/
def refill (location : Location) (content : Bytes) (entry : Location × Node) : Location × Node :=
  match entry with
  | (place, .file old) => (place, .file (if place = location then content else old))
  | (place, .directory) => (place, .directory)

/-- A new content leaves an entry where it is. -/
@[simp] theorem refill_fst (location : Location) (content : Bytes) (entry : Location × Node) :
    (refill location content entry).1 = entry.1 := by
  rcases entry with ⟨place, _ | _⟩ <;> rfl

/-- Gives the file at a location another content. -/
def overwrite (tree : FileTree) (location : Location) (content : Bytes) : FileTree where
  nodes := tree.nodes.map (refill location content)
  working := tree.working
  removed := tree.removed
  distinct := by
    have same : (tree.nodes.map (refill location content)).map (·.1) = tree.nodes.map (·.1) := by
      simp [Function.comp_def]
    exact same ▸ tree.distinct
  rooted := by
    intro entry member
    obtain ⟨old, inside, rfl⟩ := List.mem_map.mp member
    obtain ⟨parent, name, shape, held, below⟩ := tree.rooted old inside
    refine ⟨parent, name, by simpa using shape, held, below.imp id fun directory => ?_⟩
    exact List.mem_map.mpr ⟨(parent, .directory), directory, rfl⟩

/-- What is left of an entry when everything under `location` is removed: a file that is held open
keeps its content. -/
def removal? (location : Location) : Location × Node → Option (Location × Bytes)
  | (place, .file content) => if location.isPrefixOf place then some (place, content) else none
  | (_, .directory) => none

/-- The tree without a location and everything under it. -/
def erase (tree : FileTree) (location : Location) : FileTree where
  nodes := tree.nodes.filter fun entry => !location.isPrefixOf entry.1
  working := tree.working
  removed := tree.removed ++ tree.nodes.filterMap (removal? location)
  distinct := tree.distinct.sublist (List.filter_sublist.map _)
  rooted := by
    intro entry member
    obtain ⟨inside, kept⟩ := List.mem_filter.mp member
    obtain ⟨parent, name, shape, held, below⟩ := tree.rooted entry inside
    refine ⟨parent, name, shape, held, below.imp id fun directory => ?_⟩
    refine List.mem_filter.mpr ⟨directory, ?_⟩
    simp only [Bool.not_eq_true', ← Bool.not_eq_true, List.isPrefixOf_iff_prefix] at kept ⊢
    exact fun above => kept (shape ▸ above.trans (List.prefix_append parent [name]))

/-- A file that is held open: where it stood when it was opened, and how many files had been removed
from there before. -/
structure Hold where
  location : Location
  earlier : Nat
  deriving DecidableEq, Inhabited

/-- What the files that have been removed from a location held, first to last. -/
def removedFrom (tree : FileTree) (location : Location) : List Bytes :=
  (tree.removed.filter (·.1 = location)).map (·.2)

/-- A hold on the file at a location. -/
def hold (tree : FileTree) (location : Location) : Hold :=
  ⟨location, (tree.removedFrom location).length⟩

/-- The content of a file that is held open: what it had when it was removed, or else what it
has. -/
def contentOf (tree : FileTree) (hold : Hold) : Option Bytes :=
  match (tree.removedFrom hold.location)[hold.earlier]? with
  | some content => some content
  | none =>
    match tree.node? hold.location with
    | some (.file content) => some content
    | _ => none

/-- Where a path would put something new: an existing directory and a last part. Slashes at the end
do not count, and a path of nothing but slashes has no last part. -/
def cutTarget (tree : FileTree) (path : Path) : Except FileError (Location × Option Bytes) := do
  checkPath path
  let parts := (path.parts.reverse.dropWhile (· == [])).reverse
  match parts.getLast? with
  | none => .ok ([], none)
  | some last =>
    let parent ← parts.dropLast.foldlM tree.follow (tree.startOf path)
    match tree.node? parent with
    | some .directory => .ok (parent, some last)
    | some (.file _) => .error .notDirectory
    | none => .error .missing

/-- Makes one directory. -/
def makeDirectory (tree : FileTree) (path : Path) : Except FileError FileTree := do
  match ← tree.cutTarget path with
  | (_, none) => .error .alreadyExists
  | (parent, some name) =>
    if name = [Path.dot] ∨ name = [Path.dot, Path.dot] then .error .alreadyExists
    else tree.insert parent name .directory

/-- Makes a directory and the ones above it that are missing. The first argument bounds how many are
tried. A failure leaves behind the directories made before it. -/
def makeDirectories : Nat → FileTree → Path → FileTree × Except FileError Unit
  | 0, tree, _ => (tree, .error .missing)
  | fuel + 1, tree, path =>
    if path.bytes = [] then (tree, .ok ())
    else
      let settle := fun (tree : FileTree) (error : FileError) =>
        if tree.isDirectory path then (tree, Except.ok ()) else (tree, .error error)
      match tree.makeDirectory path with
      | .ok grown => (grown, .ok ())
      | .error .missing =>
        match path.parent? with
        | none => (tree, .ok ())
        | some parent =>
          match makeDirectories fuel tree parent with
          | (tree, .error error) => (tree, .error error)
          | (tree, .ok ()) =>
            match tree.makeDirectory path with
            | .ok grown => (grown, .ok ())
            | .error error => settle tree error
      | .error error => settle tree error

/-- Makes a directory and the ones above it that are missing. -/
def ensureDirectory (tree : FileTree) (path : Path) : FileTree × Except FileError Unit :=
  makeDirectories (path.bytes.length + 1) tree path

/-- Writes a file, replacing its content if it is there already. -/
def write (tree : FileTree) (path : Path) (content : Bytes) : Except FileError FileTree := do
  match ← tree.cutTarget path with
  | (_, none) => .error .isDirectory
  | (parent, some name) =>
    if name = [Path.dot] ∨ name = [Path.dot, Path.dot] ∨ path.bytes.getLast? = some Path.slash then
      .error .isDirectory
    else
      match tree.node? (parent ++ [name]) with
      | some .directory => .error .isDirectory
      | some (.file _) => .ok (tree.overwrite (parent ++ [name]) content)
      | none => tree.insert parent name (.file content)

/-- Puts bytes at the end of a file, which is made if it is missing. -/
def append (tree : FileTree) (path : Path) (more : Bytes) : Except FileError FileTree :=
  match tree.read path with
  | .ok content => tree.write path (content ++ more)
  | .error _ => tree.write path more

end FileTree

end Isolation
