import Isolation.Proofs.Classpath.Listed
import Isolation.Proofs.Text.Utf8Order
import Isolation.Zip.Writer

/-!
# Listing, having and reading

An element lists the names that it has, and it has those that can be read from it
(`Isolation.Classpath.Element.listing_agrees`). The names of an archive stand in the order of their
bytes, and those of a directory in the order of the bytes of their segments, from left to right.
-/

namespace Isolation

namespace Zip.Archive

variable {archive : Zip.Archive}

/-- Whether the bytes of an entry are there: they are not encrypted, they are stored as they are or
deflated, and they have the checksum that the directory of the archive says. -/
def HasWhole (archive : Zip.Archive) (entry : Entry) : Prop :=
  entry.flags.testBit 0 = false ∧
    ∃ stored content, archive.storedBytes entry = .ok stored ∧
      (entry.method = 0 ∧ content = stored ∨ entry.method = 8 ∧ inflate? stored = some content) ∧
      (checksum content).toNat = entry.checksum

private theorem exists_readEntry {entry : Entry} (whole : archive.HasWhole entry) :
    ∃ bytes, archive.readEntry entry = .ok bytes := by
  obtain ⟨plain, stored, content, taken, unpacked, checked⟩ := whole
  refine ⟨content, ?_⟩
  unfold readEntry
  rcases unpacked with ⟨method, rfl⟩ | ⟨method, inflated⟩
  · simp only [plain, taken, method, checked, Bool.false_eq_true, if_false, if_true, bind,
      Except.bind, pure, Except.pure]
  · simp only [plain, taken, method, inflated, checked, Bool.false_eq_true, if_false, if_true, bind,
      Except.bind, pure, Except.pure]
    rfl

/-- Of the entries with one name the last is read, so a name is read if all entries are whole. -/
theorem exists_read_of_mem {name : String}
    (whole : ∀ entry ∈ archive.entries, archive.HasWhole entry)
    (named : name ∈ archive.entries.map (·.name)) : ∃ bytes, archive.read name = .ok bytes := by
  obtain ⟨entry, member, rfl⟩ := List.mem_map.mp named
  have found : (archive.entry? entry.name).isSome = true :=
    List.find?_isSome.mpr ⟨entry, List.mem_reverse.mpr member, beq_self_eq_true entry.name⟩
  obtain ⟨last, here⟩ := Option.isSome_iff_exists.mp found
  unfold read
  rw [here]
  exact exists_readEntry (whole last (List.mem_reverse.mp (List.mem_of_find?_eq_some here)))

private theorem mem_fileNames_iff {name : String} :
    name ∈ archive.fileNames.names ↔
      name ∈ archive.entries.map (·.name) ∧ isDirectoryName name = false := by
  refine NameSet.mem_ofList.trans (List.mem_filter.trans ?_)
  rw [Bool.not_eq_true']

end Zip.Archive

namespace FileTree

private theorem locationLE_trans {left middle right : Location}
    (first : locationLE left middle = true) (second : locationLE middle right = true) :
    locationLE left right = true := by
  simp only [locationLE, decide_eq_true_eq] at *
  exact List.le_trans first second

private theorem locationLE_total (left right : Location) :
    (locationLE left right || locationLE right left) = true := by
  simp only [locationLE, Bool.or_eq_true, decide_eq_true_eq]
  exact List.le_total left right

/-- Files below a location are listed in strictly increasing order of the names that lead to
them. -/
theorem pairwise_filesUnder (tree : FileTree) (location : Location) :
    (tree.filesUnder location).Pairwise fun left right => left.1 < right.1 := by
  have apart : (tree.filesUnder location).Pairwise fun left right => left.1 ≠ right.1 := by
    refine ((List.mergeSort_perm _ _).pairwise_iff fun differs => differs.symm).mpr ?_
    refine List.pairwise_filterMap.mpr ((List.pairwise_map.mp tree.distinct).imp ?_)
    intro left right differs entry listed other otherListed same
    obtain ⟨place, -⟩ := eq_of_listed listed
    obtain ⟨otherPlace, -⟩ := eq_of_listed otherListed
    exact differs (place.trans (same ▸ otherPlace.symm))
  have sorted : (tree.filesUnder location).Pairwise fun left right =>
      locationLE left.1 right.1 = true :=
    @List.pairwise_mergeSort (Location × Bytes) (fun left right => locationLE left.1 right.1)
      (fun _ _ _ => locationLE_trans) (fun left right => locationLE_total left.1 right.1) _
  refine (sorted.and apart).imp fun ⟨ordered, differs⟩ => ?_
  exact (List.le_iff_lt_or_eq.mp (of_decide_eq_true ordered)).resolve_right differs

end FileTree

namespace Classpath

/-- Whether no segment of a name is empty or made of dots, whichever separator is used. The empty
name has an empty segment. -/
def IsStraight (name : String) : Prop :=
  ∀ segment ∈ name.toList.splitOnP fun c => c == '/' || c == '\\',
    segment ≠ [] ∧ segment ≠ ['.'] ∧ segment ≠ ['.', '.']

instance (name : String) : Decidable (IsStraight name) :=
  inferInstanceAs (Decidable (∀ segment ∈ List.splitOnP _ _, _))

namespace IsStraight

variable {name : String}

private theorem noUp (straight : IsStraight name) :
    ['.', '.'] ∉ name.toList.splitOnP fun c => c == '/' || c == '\\' :=
  fun up => (straight _ up).2.2 rfl

/-- All segments of a straight name between slashes lead on. -/
theorem leadsOn (straight : IsStraight name) :
    ∀ segment ∈ name.toList.splitOn '/', Path.leadsOn segment = true := by
  intro segment member
  have inside : ∀ part ∈ segment.splitOn '\\', part ≠ [] ∧ part ≠ ['.'] ∧ part ≠ ['.', '.'] := by
    intro part here
    refine straight part ?_
    rw [splitOnP_separators]
    exact List.mem_flatMap.mpr ⟨segment, member, here⟩
  have nonempty : segment ≠ [] := by
    rintro rfl
    exact (inside [] (by decide)).1 rfl
  have noDot : segment ≠ ['.'] := by
    rintro rfl
    exact (inside ['.'] (by decide)).2.1 rfl
  simp only [Path.leadsOn, ne_eq, nonempty, noDot, not_false_eq_true, decide_true, Bool.and_self]

/-- The names that a straight name leads through are joined to the same name again. -/
theorem entryName_steps (straight : IsStraight name) :
    Element.entryName (Path.ofString name).steps = name := by
  rw [Path.steps_ofString, List.filter_eq_self.mpr straight.leadsOn, Element.entryName_map_encode,
    List.intercalate_splitOn, String.ofList_toList]

/-- A straight name is not that of a directory in an archive. -/
theorem isDirectoryName_eq_false (straight : IsStraight name) :
    Zip.Archive.isDirectoryName name = false := by
  refine beq_eq_false_iff_ne.mpr fun ends => ?_
  obtain ⟨before, shape⟩ := List.getLast?_eq_some_iff.mp ends
  have member : [] ∈ name.toList.splitOn '/' := by
    rw [shape, List.splitOn_append_cons_self]
    exact List.mem_append_right _ (by decide)
  exact absurd (straight.leadsOn [] member) (by decide)

end IsStraight

namespace Element

/-- Whether every entry of an element is whole in its file as it is. -/
def Whole (files : FileTree) : Element → Prop
  | archive _ content => ∀ entry ∈ content.entries, (content.reread files).HasWhole entry
  | directory _ => True

/-- Whether a name stands before another one in the listing of an element: the bytes of the names
are compared in an archive, and those of their segments, one after the other, in a directory. -/
def Precedes : Element → String → String → Prop
  | archive _ _, name, other => Utf8.ofString name < Utf8.ofString other
  | directory _, name, other =>
    (name.toList.splitOn '/').map Utf8.encode < (other.toList.splitOn '/').map Utf8.encode

private theorem precedes_irrefl (element : Element) (name : String) :
    ¬element.Precedes name name := by
  cases element with
  | archive path content => exact List.lt_irrefl _
  | directory root => exact List.lt_irrefl _

variable {before files : FileTree} {element : Element}

/-- The names of the entries stand in strictly increasing order. -/
theorem pairwise_entryNames (opened : element.Opened before) (kept : before.KeepsDirectories files)
    (textNames : element.HasTextNames files) :
    (element.entryNames files).Pairwise element.Precedes := by
  cases opened with
  | @archive location bytes content file wellFormed =>
    exact content.fileNames.increasing.imp fun less => Utf8.encode_lt_encode less
  | @directory location directory =>
    have stands := kept location directory
    have resolved := FileTree.resolve_path stands
    simp only [entryNames, resolved]
    refine List.pairwise_map.mpr ((files.pairwise_filesUnder location).imp_of_mem ?_)
    rintro ⟨names, content⟩ ⟨others, otherContent⟩ member otherMember less
    have back : ∀ {names content}, (names, content) ∈ files.filesUnder location →
        ((entryName names).toList.splitOn '/').map Utf8.encode = names := by
      intro names content member
      obtain ⟨proper, below, texts⟩ :=
        texts_of_node? stands textNames (FileTree.mem_filesUnder_iff.mp member)
      rw [splitOn_entryName proper below texts, List.map_map]
      exact (List.map_congr_left texts).trans (List.map_id names)
    change _ < _
    rw [back member, back otherMember]
    exact less

/-- What an element has is read from it, if it is whole. -/
theorem Whole.exists_read (whole : element.Whole files) {name : String}
    (has : element.contains files name = true) : ∃ bytes, element.read files name = .ok bytes := by
  cases element with
  | archive path content =>
    have entries := OpenArchive.entries_reread files content
    apply Zip.Archive.exists_read_of_mem
    · rw [entries]
      exact whole
    · rw [entries]
      exact (Zip.Archive.mem_fileNames_iff.mp (of_decide_eq_true has)).1
  | directory root => exact exists_read_directory has

/-- What a straight name reads from an element is listed under that name. -/
theorem mem_entryNames_of_read (opened : element.Opened before)
    (kept : before.KeepsDirectories files) {name : String} (straight : IsStraight name)
    {bytes : Bytes} (readable : element.read files name = .ok bytes) :
    name ∈ element.entryNames files := by
  cases opened with
  | archive file wellFormed =>
    obtain ⟨entry, member, named, -⟩ := Zip.Archive.exists_entry_of_read readable
    rw [OpenArchive.entries_reread] at member
    exact Zip.Archive.mem_fileNames_iff.mpr
      ⟨List.mem_map.mpr ⟨entry, member, named⟩, straight.isDirectoryName_eq_false⟩
  | @directory location directory =>
    have stands := kept location directory
    obtain ⟨-, file⟩ := node?_of_read_directory (FileTree.proper_of_node? stands) readable
    exact (mem_entryNames_directory stands).mpr ⟨_, bytes, file, straight.entryName_steps⟩

/-- **Listing, having and reading agree.** Once an element is open, and as long as the directories
that there were are left, its listing has no name twice and is in order, and a straight name is
listed if and only if the element has it, and that is if and only if it can be read. -/
theorem listing_agrees {path : Path} (opens : openAt before path = .ok element)
    (kept : before.KeepsDirectories files) (whole : element.Whole files)
    (textNames : element.HasTextNames files) :
    (element.entryNames files).Nodup ∧ (element.entryNames files).Pairwise element.Precedes ∧
      ∀ name, IsStraight name →
        (name ∈ element.entryNames files ↔ element.contains files name = true) ∧
          (element.contains files name = true ↔ ∃ bytes, element.read files name = .ok bytes) := by
  have opened := opened_of_openAt opens
  have ordered := pairwise_entryNames opened kept textNames
  refine ⟨ordered.imp ?_, ordered, fun name straight => ?_⟩
  · rintro name other precedes rfl
    exact element.precedes_irrefl name precedes
  · have has : name ∈ element.entryNames files → element.contains files name = true :=
      fun listed => contains_of_mem_entryNames opened kept textNames listed straight.noUp
    have reads : element.contains files name = true →
        ∃ bytes, element.read files name = .ok bytes := whole.exists_read
    have lists : (∃ bytes, element.read files name = .ok bytes) →
        name ∈ element.entryNames files :=
      fun ⟨_, readable⟩ => mem_entryNames_of_read opened kept straight readable
    exact ⟨⟨has, lists ∘ reads⟩, ⟨reads, has ∘ lists⟩⟩

/-- An archive of two files, one of them twice, and a directory. -/
def crossedArchive : Bytes :=
  Zip.writeArchive [("b/d", [0x31]), ("b-c", [0x32]), ("b/", []), ("b/d", [0x33])]

/-- That archive, and a directory of the same files. -/
def crossedFiles : FileTree :=
  let directories := (FileTree.empty.ensureDirectory (.ofString "/d/b")).1
  let files := do
    let first ← directories.write (.ofString "/d/b/d") [0x33]
    let second ← first.write (.ofString "/d/b-c") [0x32]
    second.write (.ofString "/x.jar") crossedArchive
  files.toOption.getD .empty

/-- The archive, opened. -/
def crossedContent : OpenArchive :=
  ⟨((Zip.openArchive crossedArchive).toOption).getD default,
    crossedFiles.hold (Path.ofString "/x.jar").steps⟩

private theorem whole_crossedContent :
    (archive (.ofString "/x.jar") crossedContent).Whole crossedFiles := by
  have same : crossedContent.reread crossedFiles = crossedContent.toArchive := by
    decide +kernel
  have stored : ∀ entry ∈ crossedContent.entries, entry.flags.testBit 0 = false ∧
      entry.method = 0 ∧ (crossedContent.storedBytes entry).toOption.map
        (fun stored => (Zip.checksum stored).toNat) = some entry.checksum := by
    decide +kernel
  intro entry member
  rw [same]
  obtain ⟨plain, method, sums⟩ := stored entry member
  cases taken : crossedContent.storedBytes entry with
  | error error =>
    rw [taken] at sums
    cases sums
  | ok stored =>
    rw [taken] at sums
    exact ⟨plain, stored, stored, taken, .inl ⟨method, rfl⟩, Option.some.inj sums⟩

/-- Of two names that agree up to a slash in one and a hyphen in the other, the one with the slash
stands first in a directory and last in an archive. Both are listed once, and can be read. -/
theorem crossed_listings :
    ((directory (.ofString "/d")).entryNames crossedFiles = ["b/d", "b-c"] ∧
        (directory (.ofString "/d")).Precedes "b/d" "b-c" ∧
        ∃ bytes, (directory (.ofString "/d")).read crossedFiles "b-c" = .ok bytes) ∧
      (archive (.ofString "/x.jar") crossedContent).entryNames crossedFiles = ["b-c", "b/d"] ∧
        (archive (.ofString "/x.jar") crossedContent).Precedes "b-c" "b/d" ∧
        ∃ bytes, (archive (.ofString "/x.jar") crossedContent).read crossedFiles "b/d" =
          .ok bytes := by
  have kept : crossedFiles.KeepsDirectories crossedFiles := fun _ directory => directory
  constructor
  · have opens : openAt crossedFiles (.ofString "/d") = .ok (directory (.ofString "/d")) := by
      decide +kernel
    have resolved : crossedFiles.resolve (.ofString "/d") = .ok [Utf8.ofString "d"] := by
      decide +kernel
    have listing : (directory (.ofString "/d")).entryNames crossedFiles = ["b/d", "b-c"] := by
      simp only [entryNames, resolved, FileTree.filesUnder]
      rw [List.mergeSort_of_pairwise (by decide +kernel)]
      decide +kernel
    have textNames : (directory (.ofString "/d")).HasTextNames crossedFiles :=
      hasTextNames_of_nodes (by decide +kernel) _
    obtain ⟨-, ordered, agree⟩ := listing_agrees opens kept trivial textNames
    obtain ⟨listed, has⟩ := agree "b-c" (by decide)
    rw [listing] at ordered listed
    exact ⟨listing, List.rel_of_pairwise_cons ordered List.mem_cons_self,
      has.mp (listed.mp (by decide))⟩
  · have opens : openAt crossedFiles (.ofString "/x.jar") =
        .ok (archive (.ofString "/x.jar") crossedContent) := by
      decide +kernel
    have listing : (archive (.ofString "/x.jar") crossedContent).entryNames crossedFiles =
        ["b-c", "b/d"] := by
      decide +kernel
    obtain ⟨-, ordered, agree⟩ := listing_agrees opens kept whole_crossedContent trivial
    obtain ⟨listed, has⟩ := agree "b/d" (by decide)
    rw [listing] at ordered listed
    exact ⟨listing, List.rel_of_pairwise_cons ordered List.mem_cons_self,
      has.mp (listed.mp (by decide))⟩

end Element

end Classpath

end Isolation
