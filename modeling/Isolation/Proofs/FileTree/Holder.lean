import Isolation.Proofs.FileTree.Follow
import Isolation.Proofs.Path.Lexical
import Isolation.Proofs.Text.Separated

/-!
# The directory that holds a file

A file that is read through an absolute path has a path above it, without the parts at its end that
do not lead on, and that path leads to the directory that holds the file
(`Isolation.FileTree.exists_parent_of_read`).
-/

namespace Isolation

namespace Path

/-- What is dropped from the end of a list of parts does not lead on. -/
theorem exists_append_dropIdleEnd (parts : List Bytes) :
    ∃ idle, parts = dropIdleEnd parts ++ idle ∧ ∀ part ∈ idle, leads part = false := by
  obtain ⟨idle, shape, dropped⟩ :=
    exists_append_dropped (fun part => part == [] || part == [dot]) parts
  refine ⟨idle, shape, fun part member => ?_⟩
  have nothing := dropped part member
  rw [Bool.or_eq_true, beq_iff_eq, beq_iff_eq] at nothing
  exact Bool.eq_false_iff.mpr fun leadsOn => leads_eq_true_iff.mp leadsOn nothing

private theorem joinParts_isPrefix {names parts : List Bytes} (first : names <+: parts) :
    joinParts names <+: joinParts parts := by
  obtain ⟨more, rfl⟩ := first
  by_cases none : names = []
  · rw [none]
    exact List.nil_prefix
  · by_cases nothing : more = []
    · exact ⟨[], by rw [nothing, List.append_nil, List.append_nil]⟩
    · rw [joinParts, joinParts, Text.intercalate_append [slash] none nothing, List.append_assoc]
      exact List.prefix_append _ _

private theorem bytes_eq_of_parts {path : Path} {rest : List Bytes}
    (parts : path.parts = [] :: rest) (nonempty : rest ≠ []) :
    path.bytes = slash :: joinParts rest := by
  have joined : [slash].intercalate path.parts = path.bytes := List.intercalate_splitOn slash
  rw [← joined, parts, List.intercalate_cons_of_ne_nil nonempty]
  rfl

end Path

namespace FileTree

variable {tree : FileTree}

/-- Names that are joined behind a slash lead where the names lead from the root. -/
theorem foldlM_follow_joinParts {names : List Bytes} (plain : ∀ name ∈ names, Path.slash ∉ name)
    {location : Location} (followed : names.foldlM tree.follow [] = .ok location) :
    (Path.mk (Path.slash :: Path.joinParts names)).parts.foldlM tree.follow [] = .ok location := by
  have cut : (Path.mk (Path.slash :: Path.joinParts names)).parts =
      [] :: (Path.joinParts names).splitOn Path.slash :=
    List.splitOn_append_cons_self [] (Path.joinParts names)
  rw [cut, List.foldlM_cons, @follow_idle tree [] rfl [] rfl]
  change ((Path.joinParts names).splitOn Path.slash).foldlM tree.follow [] = .ok location
  by_cases none : names = []
  · rw [none] at followed ⊢
    rw [← followed]
    rfl
  · rw [Path.joinParts, List.splitOn_intercalate Path.slash plain none]
    exact followed

/-- Parts at the end that do not lead on can be left out. -/
theorem foldlM_follow_dropIdleEnd {parts : List Bytes} {start location : Location}
    (followed : parts.foldlM tree.follow start = .ok location) :
    (Path.dropIdleEnd parts).foldlM tree.follow start = .ok location := by
  obtain ⟨idle, shape, stay⟩ := Path.exists_append_dropIdleEnd parts
  rw [shape] at followed
  obtain ⟨middle, before, followed⟩ := exists_of_foldlM_append_eq_ok followed
  have downward : [Path.dot, Path.dot] ∉ idle := fun up => absurd (stay _ up) (by decide)
  have nothing : idle.filter Path.leads = [] :=
    List.filter_eq_nil_iff.mpr fun part member => Bool.eq_false_iff.mp (stay part member)
  rw [eq_of_foldlM_follow downward followed, nothing, List.append_nil]
  exact before

/-- **The path above that of a file leads to the directory that holds the file.** -/
theorem exists_parent_of_read {path : Path} (absolute : path.isAbsolute = true) {content : Bytes}
    (readable : tree.read path = .ok content) :
    ∃ base directory name, path.parent? = some base ∧ base.isAbsolute = true ∧
      tree.resolve base = .ok directory ∧ tree.resolve path = .ok (directory ++ [name]) := by
  obtain ⟨rest, cut⟩ := Path.parts_eq_cons_of_isAbsolute absolute
  have start : tree.startOf path = [] := if_pos absolute
  have plain : ∀ part ∈ path.parts, Path.slash ∉ part :=
    fun part member => Text.notMem_of_mem_splitOn member
  rcases List.eq_nil_or_concat rest with rfl | ⟨above, last, rfl⟩
  · have single : path.parts = [] ++ [[]] := cut
    exact absurd (exists_directory_of_read single readable).1 (by decide)
  · rw [List.concat_eq_append] at cut
    have split : path.parts = ([] :: above) ++ [last] := cut
    obtain ⟨leadsOn, directory, followed, resolved⟩ := exists_directory_of_read split readable
    rw [start, List.foldlM_cons, @follow_idle tree [] rfl [] rfl] at followed
    have onward : above.foldlM tree.follow [] = .ok directory := followed
    obtain ⟨idle, shape, -⟩ := Path.exists_append_dropIdleEnd above
    have names : Path.dropIdleEnd above <+: above := ⟨idle, shape.symm⟩
    refine ⟨_, directory, last, Path.parent?_of_parts absolute cut leadsOn, rfl, ?_, resolved⟩
    refine resolve_eq_ok_iff.mpr ⟨?_, ?_⟩
    · refine checkPath_of_isPrefix ?_ (List.cons_ne_nil _ _) (resolve_eq_ok_iff.mp resolved).1
      rw [Path.bytes_eq_of_parts cut
        (List.append_ne_nil_of_right_ne_nil above (List.cons_ne_nil last []))]
      exact List.cons_prefix_cons.mpr
        ⟨rfl, Path.joinParts_isPrefix (names.trans (List.prefix_append above [last]))⟩
    · refine foldlM_follow_joinParts (fun name member => plain name ?_)
        (foldlM_follow_dropIdleEnd onward)
      rw [split]
      exact List.mem_append_left _ (List.mem_cons_of_mem [] (names.subset member))

end FileTree

end Isolation
