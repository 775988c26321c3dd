import Isolation.Proofs.Classpath.ReadLocator
import Isolation.Proofs.FileTree.Write
import Mathlib.Data.List.Basic

/-!
# Names under which entries are listed

An element has an entry of every name that it lists, unless a segment of the name leads upwards
(`Isolation.Classpath.Element.contains_of_mem_entryNames`). In a directory the names of the files
have to be texts, so that the listing does not change them.
-/

namespace Isolation

/-- What is listed for a node is its content, if it is a file below the location. -/
theorem FileTree.eq_of_listed {location place : Location} {node : Node} {entry : Location × Bytes}
    (listed : (match location.isPrefixOf? place, node with
      | some names, .file content => some (names, content)
      | _, _ => none) = some entry) : place = location ++ entry.1 ∧ node = .file entry.2 := by
  split at listed
  · rename_i names content leads
    obtain rfl := Option.some.inj listed
    exact ⟨(List.isPrefixOf?_eq_some_iff_append_eq.mp leads).symm, rfl⟩
  · cases listed

/-- What is listed below a location are the files that stand there. -/
theorem FileTree.mem_filesUnder_iff {tree : FileTree} {location names : Location}
    {content : Bytes} :
    (names, content) ∈ tree.filesUnder location ↔
      tree.node? (location ++ names) = some (.file content) := by
  unfold filesUnder
  rw [List.mem_mergeSort, List.mem_filterMap]
  constructor
  · rintro ⟨⟨place, node⟩, member, listed⟩
    obtain ⟨above, last, concat, -⟩ := tree.rooted _ member
    have below : place ≠ [] := by
      rw [show place = above ++ [last] from concat]
      exact concat_ne_nil above last
    obtain ⟨rfl, rfl⟩ := eq_of_listed listed
    exact (node?_eq_some_iff below).mpr member
  · intro file
    have below : location ++ names ≠ [] := by
      intro root
      rw [root] at file
      cases file
    refine ⟨_, (node?_eq_some_iff below).mp file, ?_⟩
    have leads : location.isPrefixOf? (location ++ names) = some names :=
      List.isPrefixOf?_eq_some_iff_append_eq.mpr rfl
    simp only [leads]

private theorem FileTree.isFile_path {tree : FileTree} {location : Location} {content : Bytes}
    (file : tree.node? location = some (.file content)) :
    tree.isFile (Location.path location) = true := by
  rw [isFile, nodeAt_path file]

namespace Classpath.Element

/-- A directory lists the files below it, each by the names that lead to it. -/
theorem mem_entryNames_directory {files : FileTree} {location : Location}
    (stands : files.node? location = some .directory) {entry : String} :
    entry ∈ (directory (Location.path location)).entryNames files ↔
      ∃ names content, files.node? (location ++ names) = some (.file content) ∧
        entryName names = entry := by
  simp only [entryNames, FileTree.resolve_path stands, List.mem_map, Prod.exists,
    FileTree.mem_filesUnder_iff]

/-- Whether the names that lead from a directory to the files below it are texts. -/
def HasTextNames (files : FileTree) : Element → Prop
  | archive _ _ => True
  | directory root =>
    ∀ location names content, files.resolve root = .ok location →
      files.node? (location ++ names) = some (.file content) →
        ∀ name ∈ names, ∃ text, name = Utf8.ofString text

/-- In a tree with texts for names, every directory has texts for names. -/
theorem hasTextNames_of_nodes {files : FileTree}
    (texts : ∀ entry ∈ files.nodes, ∀ name ∈ entry.1,
      Utf8.ofString (Utf8.toStringLossy name) = name) (element : Element) :
    element.HasTextNames files := by
  cases element with
  | archive path content => trivial
  | directory root =>
    intro location names content _ file name member
    have inside : name ∈ location ++ names := List.mem_append_right location member
    have below : location ++ names ≠ [] := List.ne_nil_of_mem inside
    have stands := (FileTree.node?_eq_some_iff below).mp file
    exact ⟨_, (texts _ stands name inside).symm⟩

/-- The names that lead from a directory to a file below it are texts, and steps of a path. -/
theorem texts_of_node? {files : FileTree} {location names : Location} {content : Bytes}
    (stands : files.node? location = some .directory)
    (textNames : (directory (Location.path location)).HasTextNames files)
    (file : files.node? (location ++ names) = some (.file content)) :
    names.Proper ∧ names ≠ [] ∧ ∀ name ∈ names, Utf8.encode (Utf8.decodeLossy name) = name := by
  refine ⟨(Location.proper_append.mp (FileTree.proper_of_node? file)).2, ?_, ?_⟩
  · rintro rfl
    rw [List.append_nil, stands] at file
    cases file
  · intro name member
    obtain ⟨text, rfl⟩ :=
      textNames location names content (FileTree.resolve_path stands) file name member
    rw [Utf8.ofString, Utf8.decodeLossy_encode]

/-- **An element has the entries that it lists.** -/
theorem contains_of_mem_entryNames {before files : FileTree} {element : Element}
    (opened : element.Opened before) (kept : before.KeepsDirectories files)
    (textNames : element.HasTextNames files) {entry : String}
    (listed : entry ∈ element.entryNames files)
    (noUp : ['.', '.'] ∉ entry.toList.splitOnP fun c => c == '/' || c == '\\') :
    element.contains files entry = true := by
  cases opened with
  | archive file wellFormed => exact decide_eq_true listed
  | @directory location directory =>
    have stands := kept location directory
    have proper := FileTree.proper_of_node? stands
    obtain ⟨names, content, file, rfl⟩ := (mem_entryNames_directory stands).mp listed
    obtain ⟨properNames, nonempty, texts⟩ := texts_of_node? stands textNames file
    have restored := restored_of_texts properNames nonempty texts noUp
    refine Bool.and_eq_true_iff.mpr ⟨isRelativeName_entryName properNames nonempty restored, ?_⟩
    rw [child_entryName proper properNames nonempty restored]
    exact FileTree.isFile_path file

end Classpath.Element

end Isolation
