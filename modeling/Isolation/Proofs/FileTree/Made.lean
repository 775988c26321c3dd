import Isolation.Proofs.FileTree.Extends

/-!
# Directories that are made

A directory that is made stands where its path leads from then on
(`Isolation.FileTree.resolve_makeDirectory`). Making one with those above it changes nothing else:
whatever is new is a directory where the path or one above it leads
(`Isolation.FileTree.makesOnly_ensureDirectory`).
-/

namespace Isolation.FileTree

variable {tree grown after : FileTree} {path : Path} {place : Location}

/-- Whether a directory is new at a place where a path, or one above it, leads. -/
structure Makes (tree grown : FileTree) (path : Path) (place : Location) : Prop where
  absent : tree.node? place = none
  directory : grown.node? place = some .directory
  onTheWay : ∃ ancestor : Path, ancestor.IsAncestor path ∧ grown.resolve ancestor = .ok place

namespace Makes

/-- What is made on the way to a directory is made on the way to what lies below it. -/
theorem below {parent : Path} (isParent : path.parent? = some parent)
    (makes : tree.Makes grown parent place) : tree.Makes grown path place := by
  obtain ⟨ancestor, higher, leads⟩ := makes.onTheWay
  exact ⟨makes.absent, makes.directory, ancestor, .above isParent higher, leads⟩

/-- A directory that was made stays made. -/
theorem later (makes : tree.Makes grown path place) (extended : grown.Extends after) :
    tree.Makes after path place := by
  obtain ⟨ancestor, higher, leads⟩ := makes.onTheWay
  exact ⟨makes.absent, extended.directories place makes.directory, ancestor, higher,
    extended.resolve leads⟩

/-- What is new now was not there before. -/
theorem earlier (extended : tree.Extends grown) (makes : grown.Makes after path place) :
    tree.Makes after path place := by
  refine ⟨?_, makes.directory, makes.onTheWay⟩
  cases stood : tree.node? place with
  | none => rfl
  | some node =>
    have stands := extended.standing place (by rw [stood]; rfl)
    rw [makes.absent] at stands
    cases stands

end Makes

/-- Whether a tree differs from another only in directories that are made on the way to a path. -/
structure MakesOnly (path : Path) (tree grown : FileTree) : Prop where
  extended : tree.Extends grown
  same_or_makes : ∀ place, grown.node? place = tree.node? place ∨ tree.Makes grown path place

namespace MakesOnly

/-- A tree differs from itself in nothing. -/
theorem refl (path : Path) (tree : FileTree) : MakesOnly path tree tree :=
  ⟨.refl tree, fun _ => .inl rfl⟩

private theorem trans (first : MakesOnly path tree grown) (second : MakesOnly path grown after) :
    MakesOnly path tree after where
  extended := first.extended.trans second.extended
  same_or_makes := by
    intro place
    rcases second.same_or_makes place with same | makes
    · rw [same]
      exact (first.same_or_makes place).imp id fun makes => makes.later second.extended
    · exact .inr (makes.earlier first.extended)

end MakesOnly

/-- How a path is cut into an existing directory and a last part, if it can be. -/
theorem cutTarget_eq_ok {parent : Location} {name : Bytes}
    (target : tree.cutTarget path = .ok (parent, some name)) :
    checkPath path = .ok () ∧ ∃ above idle, path.parts = above ++ name :: idle ∧
      (∀ part ∈ idle, part = []) ∧ above.foldlM tree.follow (tree.startOf path) = .ok parent := by
  obtain ⟨_, checked, target⟩ := exists_of_bind_eq_ok target
  refine ⟨checked, ?_⟩
  obtain ⟨idle, whole, empty⟩ := Path.exists_append_dropped (· == []) path.parts
  generalize (path.parts.reverse.dropWhile (· == [])).reverse = parts at target whole
  cases ends : parts.getLast? with
  | none =>
    simp only [ends] at target
    cases target
  | some last =>
    obtain ⟨above, rfl⟩ := List.getLast?_eq_some_iff.mp ends
    simp only [ends, List.dropLast_concat] at target
    obtain ⟨place, followed, target⟩ := exists_of_bind_eq_ok target
    split at target
    · obtain ⟨rfl, same⟩ := Prod.mk.inj (Except.ok.inj target)
      obtain rfl := Option.some.inj same
      refine ⟨above, idle, ?_, fun part member => beq_iff_eq.mp (empty part member), followed⟩
      exact whole.trans (List.append_assoc above [last] idle)
    · cases target
    · cases target

/-- Parts that are no names lead nowhere else. -/
theorem foldlM_follow_idle {location : Location}
    (directory : tree.node? location = some .directory) {parts : List Bytes}
    (idle : ∀ part ∈ parts, part = []) : parts.foldlM tree.follow location = .ok location := by
  induction parts with
  | nil => rfl
  | cons part parts ih =>
    obtain rfl := idle part List.mem_cons_self
    rw [List.foldlM_cons, follow_idle directory rfl]
    exact ih fun other member => idle other (List.mem_cons_of_mem _ member)

/-- **A directory that is made stands where its path leads.** -/
theorem resolve_makeDirectory (made : tree.makeDirectory path = .ok grown) :
    ∃ place, tree.node? place = none ∧ grown.node? place = some .directory ∧
      grown.resolve path = .ok place ∧
      ∀ other, other ≠ place → grown.node? other = tree.node? other := by
  obtain ⟨parent, name, target, inserted⟩ := makeDirectory_eq_ok made
  obtain ⟨checked, above, idle, parts, nothing, followed⟩ := cutTarget_eq_ok target
  have stands := node?_insert inserted
  refine ⟨parent ++ [name], node?_of_insert inserted, stands, ?_,
    fun other => node?_insert_of_ne inserted⟩
  have extended := extends_insert inserted
  have start : grown.startOf path = tree.startOf path := by
    unfold startOf
    rw [extended.working]
  rw [resolve_eq_ok_iff, parts, start, List.foldlM_append, extended.foldlM_follow followed]
  refine ⟨checked, ?_⟩
  change (name :: idle).foldlM grown.follow parent = _
  rw [List.foldlM_cons, follow_name stands]
  exact foldlM_follow_idle stands nothing

private theorem makesOnly_makeDirectory {ancestor : Path} (higher : ancestor.IsAncestor path)
    (made : tree.makeDirectory ancestor = .ok grown) : MakesOnly path tree grown := by
  obtain ⟨place, absent, directory, leads, others⟩ := resolve_makeDirectory made
  refine ⟨extends_makeDirectory made, fun other => ?_⟩
  by_cases here : other = place
  · subst here
    exact .inr ⟨absent, directory, ancestor, higher, leads⟩
  · exact .inl (others other here)

/-- **Making a directory with those above it makes nothing else**, also if it fails. -/
theorem makesOnly_ensureDirectory (tree : FileTree) (path : Path) :
    MakesOnly path tree (tree.ensureDirectory path).1 :=
  makeDirectories_rel (MakesOnly.refl path) MakesOnly.trans _ tree path makesOnly_makeDirectory

end Isolation.FileTree
