import Mathlib.Data.List.Induction
import Isolation.Proofs.Attempt
import Isolation.Proofs.Path.Steps

/-!
# Where paths lead

A path without steps upwards leads where its steps say (`Isolation.FileTree.eq_of_foldlM_follow`),
and whatever stands in a tree is reached by the path of its location
(`Isolation.FileTree.resolve_path`).
-/

namespace Isolation

namespace FileTree

private theorem lookup_of_mem {nodes : List (Location × Node)} (distinct : (nodes.map (·.1)).Nodup)
    {location : Location} {node : Node} (member : (location, node) ∈ nodes) :
    nodes.lookup location = some node := by
  obtain ⟨before, after, rfl⟩ := List.append_of_mem member
  refine List.lookup_eq_some_iff.mpr ⟨before, after, rfl, fun entry earlier => ?_⟩
  rw [List.map_append, List.map_cons] at distinct
  have apart := (List.nodup_append.mp distinct).2.2
  exact bne_iff_ne.mpr
    (apart entry.1 (List.mem_map_of_mem earlier) location List.mem_cons_self).symm

variable {tree : FileTree}

/-- What stands in a tree below the root is what its nodes say. -/
theorem node?_eq_some_iff {location : Location} (below : location ≠ []) {node : Node} :
    tree.node? location = some node ↔ (location, node) ∈ tree.nodes := by
  rw [node?, if_neg below]
  constructor
  · intro found
    obtain ⟨before, after, shape, -⟩ := List.lookup_eq_some_iff.mp found
    rw [shape]
    exact List.mem_append_right before List.mem_cons_self
  · exact lookup_of_mem tree.distinct

/-- The location of a name is not the root. -/
theorem concat_ne_nil (above : Location) (name : FileName) : above ++ [name] ≠ [] :=
  List.append_ne_nil_of_right_ne_nil above (List.cons_ne_nil name [])

private theorem node?_of_isDirectoryIn {location : Location}
    (inside : isDirectoryIn tree.nodes location) : tree.node? location = some .directory := by
  rcases inside with rfl | member
  · rfl
  · obtain ⟨above, name, rfl, -⟩ := tree.rooted _ member
    exact (node?_eq_some_iff (concat_ne_nil above name)).mpr member

/-- Whatever stands below the root has a directory above it and a name that may stand there. -/
theorem directory_above {above : Location} {name : FileName} {node : Node}
    (stands : tree.node? (above ++ [name]) = some node) :
    tree.node? above = some .directory ∧ mayHold above name := by
  have member := (node?_eq_some_iff (concat_ne_nil above name)).mp stands
  obtain ⟨parent, last, shape, held, inside⟩ := tree.rooted _ member
  obtain ⟨rfl, same⟩ := List.append_inj' shape rfl
  obtain rfl := List.singleton_inj.mp same
  exact ⟨node?_of_isDirectoryIn inside, held⟩

private theorem isValidName_iff {name : FileName} :
    isValidName name = true ↔ FileName.Proper name ∧ 0 ∉ name ∧ name.length ≤ maxNameLength := by
  simp [isValidName, FileName.Proper, and_assoc]

/-- All names on the way to what stands in a tree may stand in a directory. -/
theorem isValidName_of_node? {location : Location} {node : Node}
    (stands : tree.node? location = some node) : ∀ name ∈ location, isValidName name = true := by
  induction location using List.reverseRecOn generalizing node with
  | nil => exact fun name member => absurd member List.not_mem_nil
  | append_singleton above last ih =>
    obtain ⟨directory, valid, -⟩ := directory_above stands
    intro name member
    rcases List.mem_append.mp member with before | here
    · exact ih directory name before
    · rw [List.mem_singleton.mp here]
      exact valid

/-- Where something stands, the names on the way are steps of a path. -/
theorem proper_of_node? {location : Location} {node : Node}
    (stands : tree.node? location = some node) : location.Proper :=
  fun name member => (isValidName_iff.mp (isValidName_of_node? stands name member)).1

/-- Which paths can be handed to the file system. -/
theorem checkPath_eq_ok_iff {path : Path} :
    checkPath path = .ok () ↔
      0 ∉ path.bytes ∧ path.bytes ≠ [] ∧ path.bytes.length ≤ maxPathLength := by
  unfold checkPath
  by_cases nul : 0 ∈ path.bytes
  · rw [if_pos (List.contains_iff_mem.mpr nul)]
    exact iff_of_false nofun fun fine => fine.1 nul
  · rw [if_neg fun here => nul (List.contains_iff_mem.mp here)]
    by_cases empty : path.bytes = []
    · rw [if_pos empty]
      exact iff_of_false nofun fun fine => fine.2.1 empty
    · rw [if_neg empty]
      by_cases long : maxPathLength < path.bytes.length
      · rw [if_pos long]
        exact iff_of_false nofun fun fine => Nat.not_lt.mpr fine.2.2 long
      · rw [if_neg long]
        exact iff_of_true rfl ⟨nul, empty, Nat.not_lt.mp long⟩

/-- What can be handed to the file system can be cut short. -/
theorem checkPath_of_isPrefix {path start : Path} (shorter : start.bytes <+: path.bytes)
    (nonempty : start.bytes ≠ []) (checked : checkPath path = .ok ()) :
    checkPath start = .ok () := by
  obtain ⟨noNul, -, short⟩ := checkPath_eq_ok_iff.mp checked
  exact checkPath_eq_ok_iff.mpr ⟨fun nul => noNul (shorter.subset nul), nonempty,
    Nat.le_trans shorter.length_le short⟩

/-- The path of what stands in a tree can be handed to the file system. -/
theorem checkPath_path {location : Location} {node : Node}
    (stands : tree.node? location = some node) : checkPath (Location.path location) = .ok () := by
  refine checkPath_eq_ok_iff.mpr ⟨?_, Path.bytes_path_ne_nil location, ?_⟩
  · exact Path.nul_notMem_path fun name member =>
      (isValidName_iff.mp (isValidName_of_node? stands name member)).2.1
  · cases location using List.reverseRecOn with
    | nil => decide
    | append_singleton above name => exact (directory_above stands).2.2

/-- Where a path leads. -/
theorem resolve_eq_ok_iff {path : Path} {location : Location} :
    tree.resolve path = .ok location ↔
      checkPath path = .ok () ∧
        path.parts.foldlM tree.follow (tree.startOf path) = .ok location := by
  unfold resolve
  cases checked : checkPath path with
  | error error => exact iff_of_false nofun fun fine => nomatch fine.1
  | ok checks => exact (and_iff_right rfl).symm

/-- What following one part comes to, if it comes to something. -/
theorem follow_eq_ok {start location : Location} {part : Bytes}
    (followed : tree.follow start part = .ok location) :
    Path.leads part = false ∧ location = start ∨
      part = [Path.dot, Path.dot] ∨ Path.leads part = true ∧ location = start ++ [part] := by
  unfold follow at followed
  cases stands : tree.node? start with
  | none => simp only [stands] at followed; cases followed
  | some node =>
    cases node with
    | file content => simp only [stands] at followed; cases followed
    | directory =>
      simp only [stands] at followed
      by_cases idle : part = [] ∨ part = [Path.dot]
      · rw [if_pos idle] at followed
        refine .inl ⟨?_, (Except.ok.inj followed).symm⟩
        exact Bool.eq_false_iff.mpr fun leads => Path.leads_eq_true_iff.mp leads idle
      · rw [if_neg idle] at followed
        by_cases up : part = [Path.dot, Path.dot]
        · exact .inr (.inl up)
        · rw [if_neg up] at followed
          by_cases long : maxNameLength < part.length
          · rw [if_pos long] at followed
            cases followed
          · rw [if_neg long] at followed
            by_cases there : (tree.node? (start ++ [part])).isSome = true
            · rw [if_pos there] at followed
              exact .inr (.inr ⟨Path.leads_eq_true_iff.mpr idle, (Except.ok.inj followed).symm⟩)
            · rw [if_neg there] at followed
              cases followed

/-- Only from a directory a part can be followed. -/
theorem directory_of_follow {start location : Location} {part : Bytes}
    (followed : tree.follow start part = .ok location) :
    tree.node? start = some .directory := by
  unfold follow at followed
  cases stands : tree.node? start with
  | none => simp only [stands] at followed; cases followed
  | some node =>
    cases node with
    | file content => simp only [stands] at followed; cases followed
    | directory => rfl

/-- Two dots lead to the directory above. -/
theorem follow_up {location : Location} (directory : tree.node? location = some .directory) :
    tree.follow location [Path.dot, Path.dot] = .ok location.dropLast ∧
      tree.node? location.dropLast = some .directory := by
  constructor
  · unfold follow
    simp only [directory]
    rfl
  · cases location using List.reverseRecOn with
    | nil => rfl
    | append_singleton above name =>
      rw [List.dropLast_concat]
      exact (directory_above directory).1

/-- Following an idle part stays in a directory. -/
theorem follow_idle {location : Location} (directory : tree.node? location = some .directory)
    {part : Bytes} (idle : Path.leads part = false) :
    tree.follow location part = .ok location := by
  have here : part = [] ∨ part = [Path.dot] := by
    by_contra leads
    exact Bool.eq_false_iff.mp idle (Path.leads_eq_true_iff.mpr leads)
  unfold follow
  simp only [directory]
  exact if_pos here

/-- Following a name leads to what stands there. -/
theorem follow_name {above : Location} {name : FileName} {node : Node}
    (stands : tree.node? (above ++ [name]) = some node) :
    tree.follow above name = .ok (above ++ [name]) := by
  obtain ⟨directory, valid, -⟩ := directory_above stands
  obtain ⟨⟨nonempty, noDot, notUp, -⟩, -, short⟩ := isValidName_iff.mp valid
  have leads : ¬(name = [] ∨ name = [Path.dot]) := fun idle => idle.elim nonempty noDot
  unfold follow
  simp only [directory]
  rw [if_neg leads, if_neg notUp, if_neg (Nat.not_lt.mpr short), if_pos (by rw [stands]; rfl)]

/-- A path that does not lead upwards leads where its steps say. -/
theorem eq_of_foldlM_follow {parts : List Bytes} {start location : Location}
    (downward : [Path.dot, Path.dot] ∉ parts)
    (followed : parts.foldlM tree.follow start = .ok location) :
    location = start ++ parts.filter Path.leads := by
  induction parts generalizing start with
  | nil =>
    rw [List.filter_nil, List.append_nil]
    exact (Except.ok.inj followed).symm
  | cons part parts ih =>
    obtain ⟨next, first, followed⟩ := exists_of_bind_eq_ok followed
    have onward := ih (fun up => downward (List.mem_cons_of_mem part up)) followed
    rcases follow_eq_ok first with ⟨idle, rfl⟩ | up | ⟨leads, rfl⟩
    · rw [onward, List.filter_cons_of_neg (by rw [idle]; exact Bool.false_ne_true)]
    · exact absurd (List.mem_cons.mpr (.inl up.symm)) downward
    · rw [onward, List.filter_cons_of_pos leads, List.append_assoc, List.singleton_append]

/-- Names lead to what stands there. -/
theorem foldlM_follow {names start : Location} {node : Node}
    (stands : tree.node? (start ++ names) = some node) :
    names.foldlM tree.follow start = .ok (start ++ names) := by
  induction names using List.reverseRecOn generalizing node with
  | nil => rw [List.append_nil]; rfl
  | append_singleton above name ih =>
    rw [← List.append_assoc] at stands ⊢
    rw [List.foldlM_append, ih (directory_above stands).1]
    exact (bind_pure _).trans (follow_name stands)

/-- An absolute path that never leads upwards leads where its steps say. -/
theorem eq_steps_of_resolve {path : Path} (absolute : path.isAbsolute = true)
    (downward : path.Downward) {location : Location} (resolved : tree.resolve path = .ok location) :
    location = path.steps := by
  have start : tree.startOf path = [] := if_pos absolute
  obtain ⟨-, followed⟩ := resolve_eq_ok_iff.mp resolved
  rw [start] at followed
  exact eq_of_foldlM_follow downward followed

/-- The path of a location leads there. -/
theorem resolve_path {location : Location} {node : Node}
    (stands : tree.node? location = some node) :
    tree.resolve (Location.path location) = .ok location := by
  have start : tree.startOf (Location.path location) = [] := if_pos (Path.isAbsolute_path location)
  rw [resolve_eq_ok_iff, start]
  refine ⟨checkPath_path stands, ?_⟩
  cases location with
  | nil => rfl
  | cons name location =>
    rw [Path.parts_path_cons (proper_of_node? stands), List.foldlM_cons,
      @follow_idle tree [] rfl [] rfl]
    exact @foldlM_follow tree (name :: location) [] node stands

/-- What a path leads to is what stands at the location that it leads to. -/
theorem nodeAt_of_resolve {path : Path} {location : Location}
    (resolved : tree.resolve path = .ok location) :
    tree.nodeAt path =
      match tree.node? location with
      | some node => .ok (location, node)
      | none => .error .missing := by
  unfold nodeAt
  rw [resolved]
  rfl

/-- The path of a location leads to what stands there. -/
theorem nodeAt_path {location : Location} {node : Node}
    (stands : tree.node? location = some node) :
    tree.nodeAt (Location.path location) = .ok (location, node) := by
  rw [nodeAt_of_resolve (resolve_path stands)]
  simp only [stands]

/-- What is found at a path stands where the path leads. -/
theorem resolve_of_nodeAt {path : Path} {location : Location} {node : Node}
    (found : tree.nodeAt path = .ok (location, node)) :
    tree.resolve path = .ok location ∧ tree.node? location = some node := by
  obtain ⟨place, resolved, found⟩ := exists_of_bind_eq_ok found
  cases stands : tree.node? place with
  | none =>
    simp only [stands] at found
    cases found
  | some other =>
    simp only [stands] at found
    obtain ⟨rfl, rfl⟩ := Prod.mk.inj (Except.ok.inj found)
    exact ⟨resolved, stands⟩

/-- The path of what another path leads to is that of a location where something stands. -/
theorem canonical_eq_ok {path place : Path} (followed : tree.canonical path = .ok place) :
    ∃ location node, place = Location.path location ∧ tree.node? location = some node := by
  obtain ⟨⟨location, node⟩, found, followed⟩ := exists_of_bind_eq_ok followed
  exact ⟨location, node, (Except.ok.inj followed).symm, (resolve_of_nodeAt found).2⟩

/-- A file is read by the path of its location. -/
theorem read_path {location : Location} {content : Bytes}
    (file : tree.node? location = some (.file content)) :
    tree.read (Location.path location) = .ok content := by
  unfold read
  rw [nodeAt_path file]
  rfl

/-- What a path reads. -/
theorem nodeAt_of_read {path : Path} {content : Bytes} (readable : tree.read path = .ok content) :
    ∃ location, tree.nodeAt path = .ok (location, .file content) := by
  obtain ⟨⟨location, node⟩, found, readable⟩ := exists_of_bind_eq_ok readable
  cases node with
  | directory => cases readable
  | file other =>
    obtain rfl := Except.ok.inj readable
    exact ⟨location, found⟩

/-- **A path to a file ends in the name of the file**, and what stands before the name leads to the
directory that holds the file. -/
theorem exists_directory_of_read {path : Path} {above : List Bytes} {last : Bytes}
    (parts : path.parts = above ++ [last]) {content : Bytes}
    (readable : tree.read path = .ok content) :
    Path.leads last = true ∧ ∃ directory,
      above.foldlM tree.follow (tree.startOf path) = .ok directory ∧
        tree.resolve path = .ok (directory ++ [last]) := by
  obtain ⟨location, found⟩ := nodeAt_of_read readable
  obtain ⟨resolved, stands⟩ := resolve_of_nodeAt found
  obtain ⟨-, followed⟩ := resolve_eq_ok_iff.mp resolved
  rw [parts] at followed
  obtain ⟨inner, before, final⟩ := exists_of_foldlM_concat_eq_ok followed
  have directory := directory_of_follow final
  rcases follow_eq_ok final with ⟨idle, rfl⟩ | rfl | ⟨leads, rfl⟩
  · rw [directory] at stands
    cases stands
  · obtain ⟨upwards, higher⟩ := follow_up directory
    obtain rfl := Except.ok.inj (upwards.symm.trans final)
    rw [higher] at stands
    cases stands
  · exact ⟨leads, inner, before, resolved⟩

/-- What is read through an absolute path that never leads upwards stands where its steps say. -/
theorem node?_steps_of_read {path : Path} (absolute : path.isAbsolute = true)
    (downward : path.Downward) {content : Bytes} (readable : tree.read path = .ok content) :
    tree.node? path.steps = some (.file content) := by
  obtain ⟨location, found⟩ := nodeAt_of_read readable
  obtain ⟨resolved, stands⟩ := resolve_of_nodeAt found
  rw [← eq_steps_of_resolve absolute downward resolved]
  exact stands

/-- What a path leads to can be read if it is a file. -/
theorem exists_read_of_isFile {path : Path} (file : tree.isFile path = true) :
    ∃ content, tree.read path = .ok content := by
  unfold isFile at file
  unfold read
  cases found : tree.nodeAt path with
  | error error =>
    rw [found] at file
    cases file
  | ok entry =>
    obtain ⟨location, node⟩ := entry
    rw [found] at file
    cases node with
    | directory => cases file
    | file content => exact ⟨content, rfl⟩

end FileTree

end Isolation
