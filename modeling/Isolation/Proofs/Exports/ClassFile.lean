import Isolation.Proofs.ClassName.FilePackage
import Isolation.Proofs.Exports.Rules

/-!
# Classes and their files

The file of a class lies in the directory of its package. So the exports that admit the class admit
its file as a resource, and the other way round, unless the file is a listed resource or lies under
a listed directory (`Isolation.Exports.class_visible_as_its_file`). A class without a package has a
file without a directory, and a file name with a slash in front loses it: for these the two differ.
-/

namespace Isolation.Exports

open Text ClassName

variable {exports : Exports} {name : String}

/-- Below a directory, the package of a file decides whether its directory is exported. -/
theorem inExportedPackage_iff_filePackage {resource : String} (below : '/' ∈ resource.toList) :
    exports.inExportedPackage resource.toList = true ↔ filePackage resource ∈ exports.packages := by
  rw [inExportedPackage_iff, filePackage]
  cases cut : cutLast '/' resource.toList with
  | none => exact absurd below (cutLast_eq_none_iff.mp cut)
  | some pair =>
    obtain ⟨directory, last⟩ := pair
    simp

private theorem slash_mem_classFile (dotted : '.' ∈ name.toList) :
    '/' ∈ (classFile name).toList := by
  rw [classFile, String.toList_ofList]
  exact List.mem_append_left fileSuffix (List.mem_map.mpr ⟨'.', dotted, rfl⟩)

/-- The directory of a class file is exported when the class is. -/
theorem inExportedPackage_classFile (dotted : '.' ∈ name.toList) (slashless : '/' ∉ name.toList) :
    exports.inExportedPackage (classFile name).toList = true ↔ exports.admitsClass name = true := by
  rw [inExportedPackage_iff_filePackage (slash_mem_classFile dotted), filePackage_classFile,
    dotted_of_slashless slashless, admitsClass_iff]

private theorem head?_classFile (begun : name.toList.head? ≠ some '.')
    (slashless : '/' ∉ name.toList) :
    (classFile name).toList.head? ≠ some '/' := by
  rw [classFile, String.toList_ofList]
  cases spelled : name.toList with
  | nil => exact fun slash => absurd (Option.some.inj slash) (by decide)
  | cons head rest =>
    rw [spelled] at begun slashless
    have noDot : head ≠ '.' := fun dot => begun (by rw [dot, List.head?_cons])
    intro slash
    have same : (if head = '.' then '/' else head) = '/' := Option.some.inj slash
    rw [if_neg noDot] at same
    exact slashless (same ▸ List.mem_cons_self)

/-- The two ways to ask for a class file come to the same name. -/
theorem relativeName_classFile (begun : name.toList.head? ≠ some '.')
    (slashless : '/' ∉ name.toList) {resource : String}
    (asked : resource = classFile name ∨ resource = "/" ++ classFile name) :
    relativeName resource.toList = (classFile name).toList := by
  rcases asked with rfl | rfl
  · exact relativeName_eq_self (head?_classFile begun slashless)
  · have slash : "/".toList = ['/'] := by decide
    rw [String.toList_append, slash, List.singleton_append, relativeName_slash]

/-- **A class is visible when its file is.** For a class with a package, whose name does not begin
with a dot and has no slash, the exports admit the file as a resource, with a slash in front or
without one, exactly when they admit the class, list the file, or list a directory that the file is
under. -/
theorem class_visible_as_its_file (exports : Exports) {name : String} (dotted : '.' ∈ name.toList)
    (begun : name.toList.head? ≠ some '.') (slashless : '/' ∉ name.toList) :
    ∀ resource, resource = classFile name ∨ resource = "/" ++ classFile name →
      (exports.admitsResource resource = true ↔
        exports.admitsClass name = true ∨ classFile name ∈ exports.resources ∨
          ∃ entry ∈ exports.resources,
            ['/'] <:+ entry.toList ∧ entry.toList <+: (classFile name).toList) := by
  intro resource asked
  rw [admitsResource_iff, relativeName_classFile begun slashless asked, AdmitsRelative,
    contains_resources_iff, underListedDirectory_iff, inExportedPackage_classFile dotted slashless,
    String.ofList_toList, ← or_assoc, or_comm]

/-- A package with an empty part is one that its directory stands for. -/
theorem gappedPackage_visible :
    '.' ∈ "com..x.Foo".toList ∧ "com..x.Foo".toList.head? ≠ some '.' ∧
      '/' ∉ "com..x.Foo".toList ∧
      (ofLists ["com..x"] []).admitsResource "/com//x/Foo.class" = true := by
  have dotted : '.' ∈ "com..x.Foo".toList := by decide
  have begun : "com..x.Foo".toList.head? ≠ some '.' := by decide
  have slashless : '/' ∉ "com..x.Foo".toList := by decide
  have admitted : (ofLists ["com..x"] []).admitsClass "com..x.Foo" = true := by decide
  exact ⟨dotted, begun, slashless, (class_visible_as_its_file _ dotted begun slashless _
    (.inr (by decide))).mpr (.inl admitted)⟩

end Isolation.Exports
