import Isolation.Text.Split

/-!
# Class names

A fully qualified class name is any text; its package is what precedes the last dot. The class file
of a class is found under the name with every dot turned into a slash.
-/

namespace Isolation.ClassName

open Text

/-- The package part of a class name, over characters: empty when there is no dot. -/
def packageChars (name : List Char) : List Char :=
  ((cutLast '.' name).map (·.1)).getD []

/-- The package part of a class name; empty for the default package. -/
def package (name : String) : String :=
  .ofList (packageChars name.toList)

/-- The part of a class name after its last dot; the whole name when there is no dot. -/
def baseName (name : String) : String :=
  match cutLast '.' name.toList with
  | some (_, after) => .ofList after
  | none => name

/-- The path of a dotted name: every dot becomes a slash. -/
def dotsToSlashes (name : List Char) : List Char :=
  name.map fun c => if c = '.' then '/' else c

/-- The dotted name of a path: every slash becomes a dot. -/
def slashesToDots (path : List Char) : List Char :=
  path.map fun c => if c = '/' then '.' else c

/-- What the name of a class file ends with. -/
def fileSuffix : List Char := ".class".toList

/-- The resource that holds a class: `a.b.C` is in `a/b/C.class`. -/
def classFile (name : String) : String :=
  .ofList (dotsToSlashes name.toList ++ fileSuffix)

/-- The class that a resource name stands for: `a/b/C.class` is `a.b.C`. -/
def ofClassFile? (resource : String) : Option String :=
  let chars := resource.toList
  if fileSuffix.isSuffixOf chars then
    some (.ofList (slashesToDots (chars.take (chars.length - fileSuffix.length))))
  else none

end Isolation.ClassName
