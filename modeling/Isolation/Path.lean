import Isolation.Text.Utf8

/-!
# Paths

A path is a sequence of bytes in which slashes separate names. Its components leave out empty names
and, except at the start of a relative path, the name `.`; paths with equal components name the same
place, though their bytes may differ.
-/

namespace Isolation

/-- The name of a file within its directory. -/
abbrev FileName := Bytes

/-- A path as it was written. -/
structure Path where
  bytes : Bytes
  deriving DecidableEq, Inhabited

namespace Path

/-- The byte that separates the names of a path. -/
def slash : UInt8 := 0x2F

/-- The byte of a dot. -/
def dot : UInt8 := 0x2E

/-- One step of a path. -/
inductive Component where
  | root
  | here
  | up
  | name (name : FileName)
  deriving DecidableEq

/-- The component that one part of a path stands for, if it stands for any. -/
def Component.ofPart? (part : Bytes) : Option Component :=
  if part = [] ∨ part = [dot] then none
  else if part = [dot, dot] then some .up
  else some (.name part)

/-- How a component is written. -/
def Component.bytes : Component → Bytes
  | root => [slash]
  | here => [dot]
  | up => [dot, dot]
  | name part => part

/-- The path that a text writes. -/
def ofString (text : String) : Path :=
  ⟨Utf8.ofString text⟩

/-- The text of a path, if its bytes are well formed. -/
def toString? (path : Path) : Option String :=
  Utf8.toString? path.bytes

/-- The text of a path as it is shown. -/
def display (path : Path) : String :=
  Utf8.toStringLossy path.bytes

/-- Whether a path starts at the root. -/
def isAbsolute (path : Path) : Bool :=
  path.bytes.head? == some slash

/-- The texts between the slashes of a path. -/
def parts (path : Path) : List Bytes :=
  path.bytes.splitOn slash

/-- The steps that a path takes. -/
def components (path : Path) : List Component :=
  match path.parts with
  | [] => []
  | first :: rest =>
    let start :=
      if path.isAbsolute then [.root]
      else if first = [dot] then [.here]
      else (Component.ofPart? first).toList
    start ++ rest.filterMap Component.ofPart?

/-- Whether two paths name the same place. -/
def samePlace (left right : Path) : Bool :=
  left.components == right.components

/-- The path that `further` names from `base`; an absolute path stands for itself. -/
def join (base further : Path) : Path :=
  if further.isAbsolute then further
  else if base.bytes = [] ∨ base.bytes.getLast? = some slash then ⟨base.bytes ++ further.bytes⟩
  else ⟨base.bytes ++ slash :: further.bytes⟩

/-- The path of a child with this name. -/
def child (base : Path) (name : String) : Path :=
  base.join (ofString name)

/-- Parts that are no component, dropped from the end of a list of parts. -/
def dropIdleEnd (parts : List Bytes) : List Bytes :=
  (parts.reverse.dropWhile fun part => part == [] || part == [dot]).reverse

/-- Parts joined by slashes. -/
def joinParts (parts : List Bytes) : Bytes :=
  [slash].intercalate parts

/-- The path without its last component; `none` for a root and for the empty path. -/
def parent? (path : Path) : Option Path :=
  match path.parts with
  | [] => none
  | first :: rest =>
    let steps := dropIdleEnd rest
    if path.isAbsolute then
      if steps = [] then none else some ⟨slash :: joinParts (dropIdleEnd steps.dropLast)⟩
    else if steps = [] then
      if first = [] then none else some ⟨[]⟩
    else some ⟨joinParts (first :: dropIdleEnd steps.dropLast)⟩

/-- The steps from `base` to a path below it, if the path starts with the steps of `base`. -/
def stepsBelow? (path base : Path) : Option (List Component) :=
  base.components.isPrefixOf? path.components

end Path

end Isolation
