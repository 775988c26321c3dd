import Isolation.Proofs.FileTree.Follow

/-!
# What writing changes

Making directories leaves everything where it stands (`Isolation.FileTree.grows_ensureDirectory`).
Writing a file puts its content at the location of its path and changes nothing else
(`Isolation.FileTree.node?_write`, `Isolation.FileTree.node?_write_of_ne`).
-/

namespace Isolation.FileTree

/-- Whether every directory of a tree is a directory in another. -/
def KeepsDirectories (tree grown : FileTree) : Prop :=
  ∀ place, tree.node? place = some .directory → grown.node? place = some .directory

/-- Whether everything that stands in a tree stands in another. -/
def Grows (tree grown : FileTree) : Prop :=
  ∀ place node, tree.node? place = some node → grown.node? place = some node

/-- Everything in a tree stands in the tree. -/
theorem Grows.refl (tree : FileTree) : tree.Grows tree :=
  fun _ _ stands => stands

private theorem Grows.trans {tree grown after : FileTree} (first : tree.Grows grown)
    (second : grown.Grows after) : tree.Grows after :=
  fun place node stands => second place node (first place node stands)

variable {tree grown : FileTree}

section Insert

variable {parent : Location} {name : FileName} {node : Node}

/-- What putting a new node comes to, if it comes to something. -/
theorem insert_eq_ok (inserted : tree.insert parent name node = .ok grown) :
    parent ++ [name] ∉ tree.nodes.map (·.1) ∧
      grown.nodes = tree.nodes ++ [(parent ++ [name], node)] ∧ grown.working = tree.working ∧
      grown.removed = tree.removed := by
  unfold insert at inserted
  split at inserted
  · split at inserted
    · split at inserted
      · cases inserted
      · rename_i absent
        obtain rfl := Except.ok.inj inserted
        exact ⟨absent, rfl, rfl, rfl⟩
    · cases inserted
  · cases inserted

/-- Something is put only where nothing stands. -/
theorem node?_of_insert (inserted : tree.insert parent name node = .ok grown) :
    tree.node? (parent ++ [name]) = none := by
  refine Option.eq_none_iff_forall_ne_some.mpr fun other stands => (insert_eq_ok inserted).1 ?_
  exact List.mem_map_of_mem ((node?_eq_some_iff (concat_ne_nil parent name)).mp stands)

/-- A new node stands where it is put. -/
theorem node?_insert (inserted : tree.insert parent name node = .ok grown) :
    grown.node? (parent ++ [name]) = some node := by
  rw [node?_eq_some_iff (concat_ne_nil parent name), (insert_eq_ok inserted).2.1]
  exact List.mem_append_right _ (List.mem_singleton_self _)

/-- Putting a new node leaves everything where it stands. -/
theorem grows_insert (inserted : tree.insert parent name node = .ok grown) : tree.Grows grown := by
  intro place other stands
  by_cases atRoot : place = []
  · rw [atRoot] at stands ⊢
    exact stands
  · rw [node?_eq_some_iff atRoot] at stands ⊢
    rw [(insert_eq_ok inserted).2.1]
    exact List.mem_append_left _ stands

/-- Nothing changes where nothing is put. -/
theorem node?_insert_of_ne (inserted : tree.insert parent name node = .ok grown) {place : Location}
    (elsewhere : place ≠ parent ++ [name]) : grown.node? place = tree.node? place := by
  by_cases atRoot : place = []
  · rw [atRoot]
    rfl
  · ext other
    rw [node?_eq_some_iff atRoot, node?_eq_some_iff atRoot, (insert_eq_ok inserted).2.1,
      List.mem_append, List.mem_singleton]
    exact or_iff_left fun new => elsewhere (Prod.mk.inj new).1

end Insert

section Overwrite

variable {location : Location} {content : Bytes}

/-- A file has the content that it is given. -/
theorem node?_overwrite {old : Bytes} (file : tree.node? location = some (.file old)) :
    (tree.overwrite location content).node? location = some (.file content) := by
  have below : location ≠ [] := by
    rintro rfl
    cases file
  rw [node?_eq_some_iff below] at file ⊢
  refine List.mem_map.mpr ⟨(location, .file old), file, ?_⟩
  rw [refill, if_pos rfl]

/-- Nothing changes where no content is replaced. -/
theorem node?_overwrite_of_ne (tree : FileTree) {location place : Location}
    (elsewhere : place ≠ location) (content : Bytes) :
    (tree.overwrite location content).node? place = tree.node? place := by
  have kept : ∀ node, refill location content (place, node) = (place, node) := by
    intro node
    cases node with
    | directory => rfl
    | file old => rw [refill, if_neg elsewhere]
  by_cases atRoot : place = []
  · rw [atRoot]
    rfl
  · ext node
    rw [node?_eq_some_iff atRoot, node?_eq_some_iff atRoot]
    constructor
    · intro member
      obtain ⟨⟨there, old⟩, inside, same⟩ := List.mem_map.mp member
      have first := refill_fst location content (there, old)
      rw [same] at first
      obtain rfl : place = there := first
      rw [kept] at same
      exact same ▸ inside
    · intro member
      exact List.mem_map.mpr ⟨(place, node), member, kept node⟩

end Overwrite

section MakeDirectory

/-- What making a directory comes to, if it comes to something: there is a new one. -/
theorem makeDirectory_eq_ok {path : Path} (made : tree.makeDirectory path = .ok grown) :
    ∃ parent name, tree.cutTarget path = .ok (parent, some name) ∧
      tree.insert parent name .directory = .ok grown := by
  obtain ⟨⟨parent, name⟩, target, made⟩ := exists_of_bind_eq_ok made
  cases name with
  | none => cases made
  | some name =>
    simp only at made
    split at made
    · cases made
    · exact ⟨parent, name, target, made⟩

private theorem grows_makeDirectory {path : Path} (made : tree.makeDirectory path = .ok grown) :
    tree.Grows grown := by
  obtain ⟨parent, name, -, inserted⟩ := makeDirectory_eq_ok made
  exact grows_insert inserted

/-- What holds between the trees before and after one directory on the way to a path is made, and
from one tree to the next, holds between the trees before and after the directory of the path is
made with those above it, also if that fails. -/
theorem makeDirectories_rel {rel : FileTree → FileTree → Prop} (refl : ∀ tree, rel tree tree)
    (trans : ∀ {tree grown after}, rel tree grown → rel grown after → rel tree after)
    (fuel : Nat) (tree : FileTree) (path : Path)
    (step : ∀ {tree grown ancestor}, ancestor.IsAncestor path →
      tree.makeDirectory ancestor = .ok grown → rel tree grown) :
    rel tree (makeDirectories fuel tree path).1 := by
  induction fuel generalizing tree path with
  | zero => exact refl tree
  | succ fuel ih =>
    have settled : ∀ (tree : FileTree) (error : FileError),
        (if tree.isDirectory path then (tree, Except.ok ()) else (tree, .error error)).1 =
          tree := by
      intro tree error
      split <;> rfl
    unfold makeDirectories
    split
    · exact refl tree
    · simp only
      split
      · rename_i grown made
        exact step (.self path) made
      · split
        · exact refl tree
        · rename_i parent above
          have outer := ih tree parent fun higher => step (.above above higher)
          split
          · rename_i between error failed
            rw [failed] at outer
            exact outer
          · rename_i between ready
            rw [ready] at outer
            split
            · rename_i grown made
              exact trans outer (step (.self path) made)
            · rw [settled]
              exact outer
      · rw [settled]
        exact refl tree

/-- Making a directory with those above it leaves everything where it stands, also if it fails. -/
theorem grows_ensureDirectory (tree : FileTree) (path : Path) :
    tree.Grows (tree.ensureDirectory path).1 :=
  makeDirectories_rel Grows.refl Grows.trans _ tree path fun _ made => grows_makeDirectory made

end MakeDirectory

section Write

variable {above : Location} {last : FileName} {content : Bytes}

/-- Where the path of a location would put something new: under its last name but one. -/
theorem cutTarget_path (proper : Location.Proper (above ++ [last])) {parent : Location}
    {name : Option Bytes}
    (target : tree.cutTarget (Location.path (above ++ [last])) = .ok (parent, name)) :
    parent = above ∧ name = some last := by
  obtain ⟨some', -⟩ := proper last (List.mem_append_right above (List.mem_singleton_self last))
  have parts : (Location.path (above ++ [last])).parts = [] :: above ++ [last] := by
    obtain ⟨first, rest, shape⟩ := List.exists_cons_of_ne_nil (concat_ne_nil above last)
    rw [shape] at proper ⊢
    rw [Path.parts_path_cons proper, ← shape]
    rfl
  have kept : (([] :: above ++ [last]).reverse.dropWhile (· == [])).reverse =
      [] :: above ++ [last] := by
    rw [List.reverse_append, List.reverse_singleton, List.singleton_append,
      List.dropWhile_cons_of_neg (by simpa using some'), List.reverse_cons, List.reverse_reverse]
  have ends : ([] :: above ++ [last]).getLast? = some last := List.getLast?_concat
  have start : tree.startOf (Location.path (above ++ [last])) = [] :=
    if_pos (Path.isAbsolute_path _)
  have properAbove := (Location.proper_append.mp proper).1
  have downward : [Path.dot, Path.dot] ∉ [] :: above := by
    intro up
    exact (List.mem_cons.mp up).elim (fun idle => nomatch idle) properAbove.not_up
  obtain ⟨_, -, target⟩ := exists_of_bind_eq_ok target
  simp only [parts, kept, ends, List.dropLast_concat, start] at target
  obtain ⟨place, followed, target⟩ := exists_of_bind_eq_ok target
  have led := eq_of_foldlM_follow downward followed
  rw [List.nil_append, List.filter_cons_of_neg (by decide), properAbove.filter_leads] at led
  split at target
  · obtain ⟨rfl, rfl⟩ := Prod.mk.inj (Except.ok.inj target)
    exact ⟨led, rfl⟩
  · cases target
  · cases target

/-- What writing a file comes to, if it comes to something: the file where the path would put
something new gets another content, or there is a new one. -/
theorem exists_of_write_eq_ok {path : Path} (written : tree.write path content = .ok grown) :
    ∃ parent name, tree.cutTarget path = .ok (parent, some name) ∧
      ((∃ old, tree.node? (parent ++ [name]) = some (.file old) ∧
          grown = tree.overwrite (parent ++ [name]) content) ∨
        tree.insert parent name (.file content) = .ok grown) := by
  obtain ⟨⟨parent, name⟩, target, written⟩ := exists_of_bind_eq_ok written
  cases name with
  | none => cases written
  | some name =>
    refine ⟨parent, name, target, ?_⟩
    simp only at written
    split at written
    · cases written
    · split at written
      · cases written
      · rename_i old file
        exact .inl ⟨old, file, (Except.ok.inj written).symm⟩
      · exact .inr written

/-- What writing a file to the path of a location comes to. -/
theorem write_eq_ok (proper : Location.Proper (above ++ [last]))
    (written : tree.write (Location.path (above ++ [last])) content = .ok grown) :
    (∃ old, tree.node? (above ++ [last]) = some (.file old) ∧
        grown = tree.overwrite (above ++ [last]) content) ∨
      tree.insert above last (.file content) = .ok grown := by
  obtain ⟨parent, name, target, changes⟩ := exists_of_write_eq_ok written
  obtain ⟨rfl, same⟩ := cutTarget_path proper target
  obtain rfl := Option.some.inj same
  exact changes

/-- Where a file is written, its content stands, and everywhere else what stood before. -/
theorem exists_target_of_write {path : Path} (written : tree.write path content = .ok grown) :
    ∃ parent name, tree.cutTarget path = .ok (parent, some name) ∧
      grown.node? (parent ++ [name]) = some (.file content) ∧
      ∀ place, place ≠ parent ++ [name] → grown.node? place = tree.node? place := by
  obtain ⟨parent, name, target, changes⟩ := exists_of_write_eq_ok written
  refine ⟨parent, name, target, ?_⟩
  rcases changes with ⟨old, file, rfl⟩ | inserted
  · exact ⟨node?_overwrite file, fun place elsewhere =>
      node?_overwrite_of_ne tree elsewhere content⟩
  · exact ⟨node?_insert inserted, fun place => node?_insert_of_ne inserted⟩

variable {location : Location}

/-- A location below the root has a last name. -/
theorem exists_concat (below : location ≠ []) : ∃ above last, location = above ++ [last] :=
  ⟨_, _, (List.dropLast_concat_getLast below).symm⟩

/-- **A written file stands at the location of its path.** -/
theorem node?_write (proper : location.Proper) (below : location ≠ [])
    (written : tree.write (Location.path location) content = .ok grown) :
    grown.node? location = some (.file content) := by
  obtain ⟨above, last, rfl⟩ := exists_concat below
  obtain ⟨parent, name, target, stands, -⟩ := exists_target_of_write written
  obtain ⟨rfl, same⟩ := cutTarget_path proper target
  obtain rfl := Option.some.inj same
  exact stands

/-- **Writing a file changes nothing else.** -/
theorem node?_write_of_ne (proper : location.Proper) (below : location ≠ [])
    (written : tree.write (Location.path location) content = .ok grown) {place : Location}
    (elsewhere : place ≠ location) : grown.node? place = tree.node? place := by
  obtain ⟨above, last, rfl⟩ := exists_concat below
  obtain ⟨parent, name, target, -, others⟩ := exists_target_of_write written
  obtain ⟨rfl, same⟩ := cutTarget_path proper target
  obtain rfl := Option.some.inj same
  exact others place elsewhere

/-- No file is written where a directory stands. -/
theorem node?_ne_directory_of_write (proper : location.Proper) (below : location ≠ [])
    (written : tree.write (Location.path location) content = .ok grown) :
    tree.node? location ≠ some .directory := by
  intro directory
  obtain ⟨above, last, rfl⟩ := exists_concat below
  rcases write_eq_ok proper written with ⟨old, file, -⟩ | inserted
  · rw [file] at directory
    cases directory
  · have kept := grows_insert inserted _ _ directory
    rw [node?_insert inserted] at kept
    cases kept

/-- Writing a file replaces no directory. -/
theorem keepsDirectories_write (proper : location.Proper) (below : location ≠ [])
    (written : tree.write (Location.path location) content = .ok grown) :
    tree.KeepsDirectories grown := by
  intro place directory
  rw [node?_write_of_ne proper below written, directory]
  rintro rfl
  exact node?_ne_directory_of_write proper below written directory

end Write

end Isolation.FileTree
