import Isolation.Exports

/-!
# The rules by which exports admit

A class is admitted by its package. A resource is admitted by one of three rules: it is listed, it
lies under a listed directory, or its directory is that of an exported package. Each rule asks for a
single member of what is exported (`Isolation.Exports.admitsClass_iff`,
`Isolation.Exports.underListedDirectory_iff`, `Isolation.Exports.inExportedPackage_iff`).
-/

namespace Isolation.Exports

open Text ClassName

variable {exports : Exports} {name : List Char}

/-- Whether the exports admit a name without a slash too many at its start. -/
def AdmitsRelative (exports : Exports) (name : List Char) : Prop :=
  exports.resources.contains (.ofList name) = true ∨ exports.underListedDirectory name = true ∨
    exports.inExportedPackage name = true

/-- A resource is exported if its name without a slash in front is. -/
theorem admitsResource_iff {name : String} :
    exports.admitsResource name = true ↔ exports.AdmitsRelative (relativeName name.toList) := by
  simp [admitsResource, AdmitsRelative, or_assoc]

/-- The slash in front of a name does not count. -/
theorem relativeName_slash (name : List Char) : relativeName ('/' :: name) = name := by
  rw [relativeName, dropOne, if_pos rfl]

/-- A name without a slash in front counts as it is. -/
theorem relativeName_eq_self (relative : name.head? ≠ some '/') : relativeName name = name := by
  cases name with
  | nil => rfl
  | cons head rest =>
    have differs : head ≠ '/' := fun same => relative (by rw [same, List.head?_cons])
    exact if_neg differs

/-- A class is exported if its package is. -/
theorem admitsClass_iff {name : String} :
    exports.admitsClass name = true ↔ package name ∈ exports.packages :=
  decide_eq_true_iff

/-- A resource is looked for among the listed ones by its name. -/
theorem contains_resources_iff {name : String} :
    exports.resources.contains name = true ↔ name ∈ exports.resources :=
  decide_eq_true_iff

/-- A directory is listed by an entry that ends with a slash. -/
theorem underListedDirectory_iff :
    exports.underListedDirectory name = true ↔
      ∃ entry ∈ exports.resources, ['/'] <:+ entry.toList ∧ entry.toList <+: name := by
  simp only [underListedDirectory, List.any_eq_true, Bool.and_eq_true,
    List.isSuffixOf_iff_suffix, List.isPrefixOf_iff_prefix]
  rfl

/-- A name lies in an exported package if what stands before its last slash, with dots for slashes,
is one. -/
theorem inExportedPackage_iff :
    exports.inExportedPackage name = true ↔
      ∃ directory last, cutLast '/' name = some (directory, last) ∧
        .ofList (slashesToDots directory) ∈ exports.packages := by
  unfold inExportedPackage
  cases cut : cutLast '/' name with
  | none => simp
  | some pair =>
    obtain ⟨directory, last⟩ := pair
    simp [NameSet.contains]

end Isolation.Exports
