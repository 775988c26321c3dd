import Isolation.Proofs.FileTree.Write

/-!
# What outlasts writing

Neither making a directory nor writing a file takes anything away or turns a directory into a file
(`Isolation.FileTree.extends_ensureDirectory`, `Isolation.FileTree.extends_write`). So a path that
leads somewhere leads to the same place ever after (`Isolation.FileTree.Extends.canonical`).
-/

namespace Isolation.FileTree

/-- Whether a tree has something at every location where another one has, and a directory where that
one has a directory. -/
structure Extends (tree grown : FileTree) : Prop where
  working : grown.working = tree.working
  directories : tree.KeepsDirectories grown
  standing : ∀ place, (tree.node? place).isSome = true → (grown.node? place).isSome = true

namespace Extends

variable {tree grown after : FileTree}

/-- A tree extends itself. -/
theorem refl (tree : FileTree) : tree.Extends tree :=
  ⟨rfl, fun _ directory => directory, fun _ stands => stands⟩

/-- What extends an extension extends the tree. -/
theorem trans (first : tree.Extends grown) (second : grown.Extends after) : tree.Extends after where
  working := second.working.trans first.working
  directories place directory := second.directories place (first.directories place directory)
  standing place stands := second.standing place (first.standing place stands)

private theorem of_grows (working : grown.working = tree.working) (grows : tree.Grows grown) :
    tree.Extends grown where
  working := working
  directories place directory := grows place _ directory
  standing := by
    intro place stands
    obtain ⟨node, stands⟩ := Option.isSome_iff_exists.mp stands
    rw [grows place node stands]
    rfl

variable {path : Path} {start location : Location}

/-- A part of a path that could be followed can still be followed. -/
theorem follow (extended : tree.Extends grown) {part : Bytes}
    (followed : tree.follow start part = .ok location) :
    grown.follow start part = .ok location := by
  unfold FileTree.follow at followed ⊢
  cases stands : tree.node? start with
  | none =>
    simp only [stands] at followed
    cases followed
  | some node =>
    cases node with
    | file content =>
      simp only [stands] at followed
      cases followed
    | directory =>
      simp only [stands] at followed
      simp only [extended.directories start stands]
      by_cases idle : part = [] ∨ part = [Path.dot]
      · rwa [if_pos idle] at followed ⊢
      · rw [if_neg idle] at followed ⊢
        by_cases up : part = [Path.dot, Path.dot]
        · rwa [if_pos up] at followed ⊢
        · rw [if_neg up] at followed ⊢
          by_cases long : maxNameLength < part.length
          · rwa [if_pos long] at followed ⊢
          · rw [if_neg long] at followed ⊢
            by_cases there : (tree.node? (start ++ [part])).isSome = true
            · rw [if_pos there] at followed
              rwa [if_pos (extended.standing _ there)]
            · rw [if_neg there] at followed
              cases followed

/-- Parts of a path that could be followed can still be followed. -/
theorem foldlM_follow (extended : tree.Extends grown) {parts : List Bytes}
    (followed : parts.foldlM tree.follow start = .ok location) :
    parts.foldlM grown.follow start = .ok location := by
  induction parts generalizing start with
  | nil => exact followed
  | cons part parts ih =>
    obtain ⟨next, first, followed⟩ := exists_of_bind_eq_ok followed
    rw [List.foldlM_cons, extended.follow first]
    exact ih followed

/-- A path that led to a location still leads there. -/
theorem resolve (extended : tree.Extends grown) (resolved : tree.resolve path = .ok location) :
    grown.resolve path = .ok location := by
  have start : grown.startOf path = tree.startOf path := by
    unfold startOf
    rw [extended.working]
  obtain ⟨checked, followed⟩ := resolve_eq_ok_iff.mp resolved
  refine resolve_eq_ok_iff.mpr ⟨checked, ?_⟩
  rw [start]
  exact extended.foldlM_follow followed

/-- **A path keeps leading where it has led.** -/
theorem canonical (extended : tree.Extends grown) {root : Path}
    (found : tree.canonical path = .ok root) : grown.canonical path = .ok root := by
  obtain ⟨⟨location, node⟩, entry, found⟩ := exists_of_bind_eq_ok found
  obtain ⟨resolved, stands⟩ := resolve_of_nodeAt entry
  obtain ⟨other, standsStill⟩ :=
    Option.isSome_iff_exists.mp (extended.standing location (by rw [stands]; rfl))
  unfold FileTree.canonical
  rw [nodeAt_of_resolve (extended.resolve resolved)]
  simp only [standsStill]
  exact found

end Extends

variable {tree grown : FileTree}

/-- Putting a new node takes nothing away. -/
theorem extends_insert {parent : Location} {name : FileName} {node : Node}
    (inserted : tree.insert parent name node = .ok grown) : tree.Extends grown :=
  .of_grows (insert_eq_ok inserted).2.2.1 (grows_insert inserted)

/-- Replacing the content of a file takes nothing away. -/
theorem extends_overwrite {location : Location} {old : Bytes}
    (file : tree.node? location = some (.file old)) (content : Bytes) :
    tree.Extends (tree.overwrite location content) where
  working := rfl
  directories := by
    intro place directory
    rw [node?_overwrite_of_ne tree _ content, directory]
    rintro rfl
    rw [file] at directory
    cases directory
  standing := by
    intro place stands
    by_cases here : place = location
    · rw [here, node?_overwrite file]
      rfl
    · rw [node?_overwrite_of_ne tree here content]
      exact stands

/-- Making one directory takes nothing away. -/
theorem extends_makeDirectory {path : Path} (made : tree.makeDirectory path = .ok grown) :
    tree.Extends grown := by
  obtain ⟨parent, name, -, inserted⟩ := makeDirectory_eq_ok made
  exact extends_insert inserted

/-- Making a directory takes nothing away, also if it fails. -/
theorem extends_ensureDirectory (tree : FileTree) (path : Path) :
    tree.Extends (tree.ensureDirectory path).1 :=
  makeDirectories_rel Extends.refl Extends.trans _ tree path fun _ made =>
    extends_makeDirectory made

/-- Writing a file takes nothing away. -/
theorem extends_write {path : Path} {content : Bytes}
    (written : tree.write path content = .ok grown) : tree.Extends grown := by
  obtain ⟨parent, name, -, ⟨old, file, rfl⟩ | inserted⟩ := exists_of_write_eq_ok written
  · exact extends_overwrite file content
  · exact extends_insert inserted

end Isolation.FileTree
