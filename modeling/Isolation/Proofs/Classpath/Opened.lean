import Isolation.Assembly
import Isolation.Proofs.Classpath.EntryName
import Isolation.Proofs.FileTree.Held

/-!
# Opened elements

An element that was opened has the path of a location: that of a file whose bytes are an archive, or
that of a directory (`Isolation.Classpath.Element.Opened`). What a name reads from it is an entry
that it holds (`Isolation.Classpath.Element.holds_of_read`).
-/

namespace Isolation

/-- An archive has the bytes from which it was opened. -/
theorem Zip.bytes_of_openArchive {bytes : Bytes} {content : Archive}
    (wellFormed : openArchive bytes = .ok content) : content.bytes = bytes := by
  unfold openArchive at wellFormed
  simp only at wellFormed
  split at wellFormed
  · obtain rfl := Except.ok.inj wellFormed
    rfl
  · cases wellFormed

/-- What a name reads from an archive is the content of an entry with that name. -/
theorem Zip.Archive.exists_entry_of_read {content : Zip.Archive} {name : String} {bytes : Bytes}
    (stored : content.read name = .ok bytes) :
    ∃ entry ∈ content.entries, entry.name = name ∧ content.readEntry entry = .ok bytes := by
  unfold read at stored
  cases found : content.entry? name with
  | none =>
    rw [found] at stored
    cases stored
  | some entry =>
    rw [found] at stored
    have named : entry.name = name := by simpa using List.find?_some found
    exact ⟨entry, List.mem_reverse.mp (List.mem_of_find?_eq_some found), named, stored⟩

namespace Classpath

/-- An archive keeps the directory with which it was opened. -/
theorem OpenArchive.entries_reread (files : FileTree) (content : OpenArchive) :
    (content.reread files).entries = content.entries := by
  unfold reread
  split <;> rfl

/-- An archive keeps the names with which it was opened. -/
theorem OpenArchive.fileNames_reread (files : FileTree) (content : OpenArchive) :
    (content.reread files).fileNames = content.fileNames := by
  rw [Zip.Archive.fileNames, entries_reread, Zip.Archive.fileNames]

namespace Element

/-- Whether the file that an archive holds open has the bytes with which it was opened. -/
def Intact (files : FileTree) : Element → Prop
  | archive _ content => ∀ bytes, files.contentOf content.file = some bytes → bytes = content.bytes
  | directory _ => True

/-- An archive whose file has not changed is the one that was opened. -/
theorem Intact.reread_eq {files : FileTree} {path : Path} {content : OpenArchive}
    (intact : (archive path content).Intact files) :
    content.reread files = content.toArchive := by
  unfold OpenArchive.reread
  cases held : files.contentOf content.file with
  | none => rfl
  | some bytes =>
    rw [intact bytes held]

/-- What an element was opened from: an archive from a file with its bytes, which it holds open, a
directory from one. -/
inductive Opened (files : FileTree) : Element → Prop
  | archive {location : Location} {bytes : Bytes} {content : Zip.Archive}
      (file : files.node? location = some (.file bytes))
      (wellFormed : Zip.openArchive bytes = .ok content) :
      Opened files (.archive (Location.path location) ⟨content, files.hold location⟩)
  | directory {location : Location} (directory : files.node? location = some .directory) :
      Opened files (.directory (Location.path location))

/-- An archive was opened from a file with its bytes, which it holds open. -/
theorem Opened.exists_file {files : FileTree} {path : Path} {content : OpenArchive}
    (opened : Opened files (.archive path content)) :
    ∃ location bytes archive, path = Location.path location ∧
      files.node? location = some (.file bytes) ∧ Zip.openArchive bytes = .ok archive ∧
      content = ⟨archive, files.hold location⟩ := by
  cases opened with
  | archive file wellFormed => exact ⟨_, _, _, rfl, file, wellFormed, rfl⟩

/-- A directory was opened where one stands. -/
theorem Opened.exists_directory {files : FileTree} {root : Path}
    (opened : Opened files (.directory root)) :
    ∃ location, root = Location.path location ∧ files.node? location = some .directory := by
  cases opened with
  | directory directory => exact ⟨_, rfl, directory⟩

variable {files : FileTree} {element : Element}

/-- An element that has just been opened is intact. -/
theorem Opened.intact (opened : element.Opened files) : element.Intact files := by
  cases opened with
  | archive file wellFormed =>
    intro bytes held
    rw [FileTree.contentOf_hold file] at held
    obtain rfl := Option.some.inj held
    exact (Zip.bytes_of_openArchive wellFormed).symm
  | directory directory => trivial

/-- What is opened by its path was opened from what stands there. -/
theorem opened_of_openAt {path : Path} (opened : openAt files path = .ok element) :
    element.Opened files := by
  obtain ⟨⟨location, node⟩, found, opened⟩ := exists_of_bind_eq_ok opened
  have stands := (FileTree.resolve_of_nodeAt found).2
  cases node with
  | directory =>
    obtain rfl := Except.ok.inj opened
    exact .directory stands
  | file bytes =>
    simp only at opened
    by_cases short : bytes.length < 4
    · rw [if_pos short] at opened
      cases opened
    · rw [if_neg short] at opened
      by_cases marked : archiveMark.isPrefixOf bytes = true
      · rw [if_pos marked] at opened
        obtain ⟨archive, content, made⟩ := exists_of_bind_eq_ok opened
        obtain rfl := Except.ok.inj made
        exact .archive stands content
      · rw [if_neg marked] at opened
        cases opened

/-- All elements of a classpath that is opened were opened from what stands there. -/
theorem opened_of_openClasspath {paths : List Path} {elements : List Element}
    (opened : openClasspath files paths = .ok elements) :
    ∀ element ∈ elements, element.Opened files := by
  induction paths generalizing elements with
  | nil =>
    obtain rfl := Except.ok.inj opened
    exact fun element member => absurd member List.not_mem_nil
  | cons path paths ih =>
    unfold openClasspath at opened ih
    rw [List.mapM_cons] at opened
    obtain ⟨element, first, opened⟩ := exists_of_bind_eq_ok opened
    obtain ⟨rest, others, opened⟩ := exists_of_bind_eq_ok opened
    obtain rfl := Except.ok.inj opened
    intro other member
    rcases List.mem_cons.mp member with rfl | later
    · exact opened_of_openAt first
    · exact ih others other later

/-- Whether an element holds an entry with these bytes. The entries of a directory are named by the
steps to their files. -/
inductive Holds (files : FileTree) : Element → String → Bytes → Prop
  | archive {path : Path} {content : OpenArchive} {entry : String} {bytes : Bytes}
      (stored : (content.reread files).read entry = .ok bytes) :
      Holds files (.archive path content) entry bytes
  | directory {base names : Location} {bytes : Bytes}
      (file : files.node? (base ++ names) = some (.file bytes)) :
      Holds files (.directory (Location.path base)) (entryName names) bytes

/-- The name of the entry that an element finds under a name: an archive goes by the name itself,
and a directory by its segments that lead on. -/
def entryFor : Element → String → String
  | archive _ _, name => name
  | directory _, name => entryName (Path.ofString name).steps

section Directory

variable {base : Location} {name : String} {bytes : Bytes}

/-- Where a name leads in a directory. -/
theorem steps_child (proper : base.Proper) (relative : isRelativeName name = true) :
    ((Location.path base).child name).steps = base ++ (Path.ofString name).steps :=
  Path.steps_join proper (isAbsolute_of_isRelativeName relative)

/-- The path of a name in a directory is absolute. -/
theorem isAbsolute_child (base : Location) (name : String) :
    ((Location.path base).child name).isAbsolute = true :=
  Path.isAbsolute_join base (Path.ofString name)

/-- The path of a relative name in a directory never leads upwards. -/
theorem downward_child (proper : base.Proper) (relative : isRelativeName name = true) :
    ((Location.path base).child name).Downward :=
  Path.downward_join proper (isAbsolute_of_isRelativeName relative)
    (downward_of_isRelativeName relative)

/-- What a name reads from a directory stands where the name leads. -/
theorem node?_of_read_directory (proper : base.Proper)
    (readable : (directory (Location.path base)).read files name = .ok bytes) :
    isRelativeName name = true ∧
      files.node? (base ++ (Path.ofString name).steps) = some (.file bytes) := by
  by_cases relative : isRelativeName name = true
  · rw [read, if_pos relative] at readable
    refine ⟨relative, ?_⟩
    rw [← steps_child proper relative]
    exact FileTree.node?_steps_of_read (isAbsolute_child base name) (downward_child proper relative)
      readable
  · rw [read, if_neg relative] at readable
    cases readable

/-- What a directory has is read from it. -/
theorem exists_read_directory {root : Path}
    (has : (directory root).contains files name = true) :
    ∃ bytes, (directory root).read files name = .ok bytes := by
  obtain ⟨relative, file⟩ := Bool.and_eq_true_iff.mp has
  rw [read, if_pos relative]
  exact FileTree.exists_read_of_isFile file

/-- A name that reads a file from a directory ends in a segment that leads on. -/
theorem leadsOn_of_read_directory (proper : base.Proper)
    (readable : (directory (Location.path base)).read files name = .ok bytes) :
    ∀ segment ∈ (name.toList.splitOn '/').getLast?, Path.leadsOn segment = true := by
  intro segment last
  obtain ⟨before, shape⟩ := List.getLast?_eq_some_iff.mp last
  obtain ⟨relative, -⟩ := node?_of_read_directory proper readable
  rw [read, if_pos relative] at readable
  rw [← Path.leads_encode]
  have parts : ((Location.path base).child name).parts =
      (([] :: base) ++ before.map Utf8.encode) ++ [Utf8.encode segment] := by
    rw [Path.child, Path.parts_join proper (isAbsolute_of_isRelativeName relative),
      Path.parts_ofString, shape, List.map_append, List.append_assoc]
    rfl
  exact (FileTree.exists_directory_of_read parts readable).1

/-- A file that is read from a directory stands below it. -/
theorem steps_ne_nil_of_read_directory (proper : base.Proper)
    (readable : (directory (Location.path base)).read files name = .ok bytes) :
    (Path.ofString name).steps ≠ [] := by
  have nonempty := List.splitOn_ne_nil '/' name.toList
  have ends := leadsOn_of_read_directory proper readable _ (List.getLast?_eq_some_getLast nonempty)
  rw [Path.steps_ofString]
  intro none
  exact List.ne_nil_of_mem (List.mem_filter.mpr ⟨List.getLast_mem nonempty, ends⟩)
    (List.map_eq_nil_iff.mp none)

end Directory

/-- What a name reads from an opened element is an entry that the element holds. -/
theorem holds_of_read {earlier : FileTree} (opened : element.Opened earlier) {name : String}
    {bytes : Bytes} (readable : element.read files name = .ok bytes) :
    element.Holds files (element.entryFor name) bytes := by
  cases opened with
  | archive file wellFormed => exact .archive readable
  | directory directory =>
    exact .directory (node?_of_read_directory (FileTree.proper_of_node? directory) readable).2

end Element

end Classpath

end Isolation
