import Isolation.Loader.Source
import Isolation.Proofs.Classpath.Opened
import Isolation.Proofs.FileTree.Write
import Isolation.Proofs.Locator.Returned

/-!
# Reading what a locator leads to

The locator of an entry is read back from the element that it was made for, as long as the locator
keeps the path of the element and the name of the entry; it never leads to a wrong entry otherwise
than by leading to another place (`Isolation.Source.readLocator_archive`,
`Isolation.Source.readLocator_directory`).
-/

namespace Isolation

namespace FileTree

/-- No file is read through a slash at the end. -/
theorem exists_read_append_slash (tree : FileTree) (bytes : Bytes) :
    ∃ error, tree.read ⟨bytes ++ [Path.slash]⟩ = .error error := by
  cases readable : tree.read ⟨bytes ++ [Path.slash]⟩ with
  | error error => exact ⟨error, rfl⟩
  | ok content =>
    exact absurd (exists_directory_of_read (Path.parts_append_slash bytes) readable).1 (by decide)

end FileTree

namespace Url

private theorem endsAsDrive_path_concat (above : Location) (last : FileName) :
    endsAsDrive (Location.path (above ++ [last])).bytes = endsAsDrive last := by
  rw [Location.path, if_neg (FileTree.concat_ne_nil above last), List.flatMap_append,
    List.flatMap_singleton, endsAsDrive_append_slash]

end Url

namespace FileTree

variable {tree : FileTree} {above : Location} {last : FileName} {content : Bytes}

/-- **A file is read back through its locator** exactly when its name does not end as a drive letter
does. -/
theorem read_returned (file : tree.node? (above ++ [last]) = some (.file content)) :
    (Url.endsAsDrive last = false → tree.read (Url.returned (above ++ [last])) = .ok content) ∧
      (Url.endsAsDrive last = true →
        ∃ error, tree.read (Url.returned (above ++ [last])) = .error error) := by
  rw [← Url.endsAsDrive_path_concat above last]
  constructor
  · intro plain
    rw [Url.returned, Url.closeDrive_of_not_endsAsDrive plain]
    exact read_path file
  · intro drive
    obtain ⟨bytes, shape⟩ : ∃ bytes, (Location.path (above ++ [last])).bytes =
        Path.slash :: bytes := by
      obtain ⟨name, rest, names⟩ := List.exists_cons_of_ne_nil (concat_ne_nil above last)
      rw [names]
      exact ⟨_, rfl⟩
    have closed : Url.closeDrive (Location.path (above ++ [last])).bytes =
        (Location.path (above ++ [last])).bytes ++ [Path.slash] := by
      rw [shape] at drive ⊢
      exact Url.closeDrive_of_endsAsDrive drive
    rw [Url.returned, closed]
    exact exists_read_append_slash tree _

end FileTree

namespace Classpath

/-- Where an entry is kept: in an archive, or as a file. -/
inductive Place where
  | entry (archive : Path) (name : String)
  | file (location : Location)
  deriving DecidableEq

/-- Where an element keeps what it finds under a name. -/
def Element.place : Element → String → Place
  | .archive path _, name => .entry path name
  | .directory root, name => .file (root.child name).steps

/-- Whether an attempt to read an entry fails or reads from another place than the entry's own. -/
def Strays (files : FileTree) (elements : List Element) (own : Place)
    (outcome : Except LoadError Bytes) : Prop :=
  (∃ error, outcome = .error error) ∨
    ∃ other ∈ elements, ∃ name, other.place name ≠ own ∧
      outcome = (other.read files name).mapError .file

end Classpath

/-- Whether a name that a locator leads through is found again by its text: the text has its bytes,
and a separator of the other kind hides no step upwards in it. -/
def FileName.Restored (name : FileName) : Prop :=
  Utf8.encode (Utf8.decodeLossy name) = name ∧
    ['.', '.'] ∉ (Utf8.decodeLossy name).splitOn '\\'

namespace Classpath

variable {names : Location}

private theorem toList_entryName (names : Location) :
    (Element.entryName names).toList = ['/'].intercalate (names.map Utf8.decodeLossy) :=
  String.toList_ofList

/-- The texts of names that they write have no slashes. -/
theorem slash_notMem_decodeLossy {name : FileName} (noSlash : Path.slash ∉ name)
    (isText : Utf8.encode (Utf8.decodeLossy name) = name) : '/' ∉ Utf8.decodeLossy name := by
  intro member
  rw [← isText] at noSlash
  exact noSlash (List.mem_flatMap.mpr ⟨'/', member, by decide⟩)

/-- The segments of the name of an entry are the texts of the names that lead to it. -/
theorem splitOn_entryName (proper : names.Proper) (below : names ≠ [])
    (texts : ∀ name ∈ names, Utf8.encode (Utf8.decodeLossy name) = name) :
    (Element.entryName names).toList.splitOn '/' = names.map Utf8.decodeLossy := by
  rw [toList_entryName]
  refine List.splitOn_intercalate '/' ?_ fun empty => below (List.map_eq_nil_iff.mp empty)
  intro segment member
  obtain ⟨name, inside, rfl⟩ := List.mem_map.mp member
  exact slash_notMem_decodeLossy (proper.slash_notMem inside) (texts name inside)

/-- Names that are found again stay inside their element. -/
theorem isRelativeName_entryName (proper : names.Proper) (below : names ≠ [])
    (restored : ∀ name ∈ names, name.Restored) :
    isRelativeName (Element.entryName names) = true := by
  have segments := splitOn_entryName proper below fun name member => (restored name member).1
  have noUp : ['.', '.'] ∉ (names.map Utf8.decodeLossy).flatMap (·.splitOn '\\') := by
    intro up
    obtain ⟨segment, member, here⟩ := List.mem_flatMap.mp up
    obtain ⟨name, inside, rfl⟩ := List.mem_map.mp member
    exact (restored name inside).2 here
  obtain ⟨first, rest, rfl⟩ := List.exists_cons_of_ne_nil below
  have firstText : Utf8.decodeLossy first ≠ [] := by
    intro empty
    obtain ⟨nonempty, -⟩ := proper first List.mem_cons_self
    have bytes := (restored first List.mem_cons_self).1
    rw [empty] at bytes
    exact nonempty bytes.symm
  refine isRelativeName_iff.mpr ⟨?_, ?_, segments ▸ noUp⟩
  · intro empty
    rw [empty] at segments
    exact firstText (List.cons.inj segments).1.symm
  · intro slash
    obtain ⟨tail, shape⟩ := List.head?_eq_some_iff.mp slash
    have split := List.splitOn_append_cons_self (a := '/') [] tail
    rw [List.nil_append, ← shape, segments] at split
    exact firstText (List.cons.inj split).1

private theorem bytes_entryName (restored : ∀ name ∈ names, name.Restored) :
    Utf8.ofString (Element.entryName names) = [Path.slash].intercalate names := by
  change Utf8.encode (Element.entryName names).toList = _
  have write := Text.intercalate_flatMap ['/'] (names.map Utf8.decodeLossy) String.utf8EncodeChar
  have same : (names.map Utf8.decodeLossy).map Utf8.encode = names := by
    rw [List.map_map]
    have each : ∀ name ∈ names, Utf8.encode (Utf8.decodeLossy name) = name :=
      fun name member => (restored name member).1
    exact (List.map_congr_left each).trans (List.map_id names)
  rw [toList_entryName]
  exact write.trans (congrArg _ same)

/-- Names that are found again lead where they stand. -/
theorem child_entryName {base : Location} (proper : base.Proper) (properNames : names.Proper)
    (below : names ≠ []) (restored : ∀ name ∈ names, name.Restored) :
    (Location.path base).child (Element.entryName names) = Location.path (base ++ names) := by
  obtain ⟨first, rest, rfl⟩ := List.exists_cons_of_ne_nil below
  have relative :=
    isAbsolute_of_isRelativeName (isRelativeName_entryName properNames below restored)
  have joined := Path.intercalate_eq_flatMap (first :: rest)
  rw [List.intercalate_cons_cons, List.nil_append, List.singleton_append] at joined
  rw [Path.child, Path.join_path proper relative, Path.path_concat base _ below, ← joined,
    Path.ofString, bytes_entryName restored]

/-- Names that are texts are found again unless their segments lead upwards. -/
theorem restored_of_texts (proper : names.Proper) (below : names ≠ [])
    (texts : ∀ name ∈ names, Utf8.encode (Utf8.decodeLossy name) = name)
    (noUp : ['.', '.'] ∉ (Element.entryName names).toList.splitOnP fun c => c == '/' || c == '\\') :
    ∀ name ∈ names, name.Restored := by
  intro name member
  refine ⟨texts name member, fun up => noUp ?_⟩
  rw [splitOnP_separators, splitOn_entryName proper below texts]
  exact List.mem_flatMap.mpr ⟨_, List.mem_map_of_mem member, up⟩

/-- Names that lead where they stand are found again. -/
theorem restored_of_steps (relative : isRelativeName (Element.entryName names) = true)
    (same : (Path.ofString (Element.entryName names)).steps = names) :
    ∀ name ∈ names, name.Restored := by
  intro name member
  rw [← same, Path.steps_ofString] at member
  obtain ⟨segment, inside, rfl⟩ := List.mem_map.mp member
  have noUp := (isRelativeName_iff.mp relative).2.2
  rw [FileName.Restored, Utf8.decodeLossy_encode]
  refine ⟨rfl, fun up => noUp ?_⟩
  exact List.mem_flatMap.mpr ⟨segment, (List.mem_filter.mp inside).1, up⟩

end Classpath

namespace Source

open Classpath

variable {before files : FileTree} {elements : List Element}

private theorem path_samePlace_returned {location other : Location} (proper : location.Proper)
    (properOther : other.Proper) :
    (Location.path location).samePlace (Url.returned other) = true ↔ location = other := by
  rw [Path.samePlace, Path.components_path proper, Url.components_returned properOther, beq_iff_eq,
    List.cons.injEq, List.map_inj_right fun _ _ => Path.Component.name.inj]
  exact and_iff_right rfl

section Archive

variable {path : Path} {content : OpenArchive}

/-- Archives that were opened from one file are the same. -/
theorem find?_archive (opened : ∀ element ∈ elements, element.Opened before)
    (member : .archive path content ∈ elements) :
    (elements.find? fun element => element.isArchive &&
        element.path.samePlace (Url.returned path.steps)) = some (.archive path content) := by
  obtain ⟨location, bytes, archive, rfl, file, wellFormed, rfl⟩ := (opened _ member).exists_file
  have proper := FileTree.proper_of_node? file
  rw [Path.steps_path proper]
  have hit : (elements.find? fun element => element.isArchive &&
      element.path.samePlace (Url.returned location)).isSome = true := by
    refine List.find?_isSome.mpr ⟨_, member, ?_⟩
    exact (path_samePlace_returned proper proper).mpr rfl
  obtain ⟨other, found⟩ := Option.isSome_iff_exists.mp hit
  have samePlace := List.find?_some found
  have memberOther := List.mem_of_find?_eq_some found
  rw [found]
  cases other with
  | directory root => cases samePlace
  | archive otherPath otherContent =>
    obtain ⟨place, otherBytes, otherArchive, rfl, otherFile, otherWellFormed, rfl⟩ :=
      (opened _ memberOther).exists_file
    obtain rfl : place = location :=
      (path_samePlace_returned (FileTree.proper_of_node? otherFile) proper).mp samePlace
    obtain rfl : otherBytes = bytes := Node.file.inj (Option.some.inj (otherFile.symm.trans file))
    rw [Except.ok.inj (otherWellFormed.symm.trans wellFormed)]

/-- A locator that leads to an archive on the classpath is read from there. -/
theorem readLocator_toEntry (opened : ∀ element ∈ elements, element.Opened before)
    (member : .archive path content ∈ elements) {locator : Locator} {entry : String}
    (taken : locator.toEntry? = some (Url.returned path.steps, entry)) (artifact : String) :
    readLocator files elements artifact locator =
      ((Element.archive path content).read files entry).mapError .file := by
  unfold readLocator
  rw [taken]
  simp only [find?_archive opened member]

/-- A locator that never leads to the place of an archive strays from all its entries. -/
theorem strays_of_elsewhere {locator : Locator} (noFile : locator.toFile? = none)
    (elsewhere : ∀ archive entry, locator.toEntry? = some (archive, entry) →
      path.samePlace archive = false) (key artifact : String) :
    Strays files elements (.entry path key) (readLocator files elements artifact locator) := by
  unfold readLocator
  cases taken : locator.toEntry? with
  | none =>
    rw [noFile]
    exact .inl ⟨_, rfl⟩
  | some pair =>
    obtain ⟨archive, entry⟩ := pair
    simp only
    cases found : elements.find? fun element => element.isArchive &&
        element.path.samePlace archive with
    | none => exact .inl ⟨_, rfl⟩
    | some other =>
      refine .inr ⟨other, List.mem_of_find?_eq_some found, entry, ?_, rfl⟩
      have there := List.find?_some found
      cases other with
      | directory root => cases there
      | archive otherPath otherContent =>
        intro same
        rw [(Place.entry.inj same).1] at there
        cases there.symm.trans (elsewhere archive entry taken)

/-- **The locator of an entry of an archive is read back** exactly when it keeps the path of the
archive and the name of the entry; if not, it leads nowhere or to another place. -/
theorem readLocator_archive (opened : ∀ element ∈ elements, element.Opened before)
    (member : .archive path content ∈ elements) {key : String} {bytes : Bytes}
    (readable : (Element.archive path content).read files key = .ok bytes) {locator : Locator}
    (located : Locator.ofEntry? path key = some locator) (artifact : String) :
    locator.toFile? = none ∧
      (Locator.KeepsArchive path.steps ∧ Url.KeepsEntry key.toList →
        readLocator files elements artifact locator = .ok bytes) ∧
      (¬(Locator.KeepsArchive path.steps ∧ Url.KeepsEntry key.toList) →
        Strays files elements (.entry path key) (readLocator files elements artifact locator)) := by
  have fromArchive := @readLocator_toEntry before files elements path content opened member locator
  obtain ⟨location, file, archive, rfl, stands, wellFormed, held⟩ :=
    (opened _ member).exists_file
  have proper := FileTree.proper_of_node? stands
  have below : location ≠ [] := by
    rintro rfl
    cases stands
  rw [Path.steps_path proper] at fromArchive ⊢
  obtain ⟨made, madeOf, noFile, kept, lost⟩ := Locator.exists_entryLocator proper below key
  obtain rfl := Option.some.inj (located.symm.trans madeOf)
  refine ⟨noFile, ?_, ?_⟩
  · rintro ⟨keepsArchive, keepsEntry⟩
    rw [fromArchive (kept keepsArchive) artifact, Url.entryText_eq_iff.mpr keepsEntry,
      String.ofList_toList]
    exact congrArg (Except.mapError LoadError.file) readable
  · intro loses
    by_cases keepsArchive : Locator.KeepsArchive location
    · -- The archive is found again, but under another name than the entry's own.
      refine .inr ⟨_, member, _, ?_, fromArchive (kept keepsArchive) artifact⟩
      intro same
      have name := congrArg String.toList (Place.entry.inj same).2
      rw [String.toList_ofList] at name
      exact loses ⟨keepsArchive, Url.entryText_eq_iff.mp name⟩
    · exact strays_of_elsewhere noFile (lost keepsArchive) key artifact

end Archive

section Directory

/-- The directory that a path is read from, and the names on the way from there. -/
theorem directoryOf?_eq_some (opened : ∀ element ∈ elements, element.Opened before) {path : Path}
    {location : Location} (components : path.components = .root :: location.map .name)
    {outer : Element} {steps : List Path.Component}
    (found : directoryOf? elements path = some (outer, steps)) :
    ∃ base names, outer = .directory (Location.path base) ∧ steps = names.map .name ∧
      outer ∈ elements ∧ before.node? base = some .directory ∧ location = base ++ names := by
  obtain ⟨element, member, shape⟩ := List.exists_of_findSome?_eq_some found
  cases element with
  | archive archivePath content => cases shape
  | directory root =>
    obtain ⟨base, rfl, directory⟩ := (opened _ member).exists_directory
    obtain ⟨rest, below, same⟩ := Option.map_eq_some_iff.mp shape
    obtain ⟨rfl, rfl⟩ := Prod.mk.inj same
    have whole := Text.isPrefixOf?_eq_some_iff.mp below
    have properBase := FileTree.proper_of_node? directory
    rw [components, Element.path, Path.components_path properBase, List.cons_append] at whole
    obtain ⟨first, names, rfl, sameBase, rfl⟩ := List.map_eq_append_iff.mp (List.cons.inj whole).2
    obtain rfl := (List.map_inj_right fun _ _ => Path.Component.name.inj).mp sameBase
    exact ⟨first, names, rfl, rfl, member, directory, rfl⟩

/-- What stands below a directory is read from the first directory that it stands below. -/
theorem exists_directoryOf? (opened : ∀ element ∈ elements, element.Opened before)
    (kept : before.KeepsDirectories files) {base : Location}
    (member : .directory (Location.path base) ∈ elements) {path : Path} {names : Location}
    (components : path.components = .root :: (base ++ names).map .name) {bytes : Bytes}
    (file : files.node? (base ++ names) = some (.file bytes)) :
    ∃ outer inner, directoryOf? elements path =
        some (.directory (Location.path outer), inner.map .name) ∧
      .directory (Location.path outer) ∈ elements ∧ outer.Proper ∧ base ++ names = outer ++ inner ∧
      inner.Proper ∧ inner ≠ [] := by
  have held : (directoryOf? elements path).isSome = true := by
    have proper := Location.proper_append.mp (FileTree.proper_of_node? file)
    have below : path.stepsBelow? (Location.path base) = some (names.map .name) := by
      apply Text.isPrefixOf?_eq_some_iff.mpr
      rw [components, Path.components_path proper.1, List.map_append]
      rfl
    refine List.findSome?_isSome_iff.mpr ⟨_, member, ?_⟩
    change (Option.map _ (path.stepsBelow? (Location.path base))).isSome = true
    rw [below]
    rfl
  obtain ⟨⟨element, steps⟩, found⟩ := Option.isSome_iff_exists.mp held
  obtain ⟨outer, inner, rfl, rfl, memberOuter, directory, whole⟩ :=
    directoryOf?_eq_some opened components found
  rw [whole] at file
  have proper := Location.proper_append.mp (FileTree.proper_of_node? file)
  refine ⟨outer, inner, found, memberOuter, proper.1, whole, proper.2, ?_⟩
  rintro rfl
  rw [List.append_nil, kept outer directory] at file
  cases file

/-- The locator of a file is read from the directory that its path is read from. -/
theorem readLocator_toFile {locator : Locator} {path returned : Path}
    (noEntry : locator.toEntry? = none) (toFile : locator.toFile? = some returned)
    (same : returned.components = path.components) {element : Element} {names : Location}
    (found : directoryOf? elements path = some (element, names.map .name)) (artifact : String) :
    readLocator files elements artifact locator =
      (element.read files (Element.entryName names)).mapError .file := by
  have sameWay : directoryOf? elements returned = directoryOf? elements path := by
    unfold directoryOf? Path.stepsBelow?
    rw [same]
  have name : stepsName (names.map .name) = Element.entryName names := by
    rw [stepsName, List.map_map]
    exact congrArg Element.entryName (List.map_id names)
  unfold readLocator
  rw [noEntry, toFile]
  simp only [sameWay, found, name]

/-- **The locator of an entry of a directory is read back** exactly when every name on the way from
the first directory that holds it is found again; if not, it leads nowhere or to another place. -/
theorem readLocator_directory (opened : ∀ element ∈ elements, element.Opened before)
    (kept : before.KeepsDirectories files) {root : Path} (member : .directory root ∈ elements)
    {key : String} {bytes : Bytes}
    (readable : (Element.directory root).read files key = .ok bytes) {locator : Locator}
    (located : Locator.ofFile? (root.child key) = some locator) (artifact : String) :
    locator.toFile? = some (Url.returned (root.child key).steps) ∧
      files.node? (root.child key).steps = some (.file bytes) ∧
      ((∀ outer steps, directoryOf? elements (root.child key) = some (outer, steps) →
          ∀ step ∈ steps, FileName.Restored step.bytes) →
        readLocator files elements artifact locator = .ok bytes) ∧
      ((¬∀ outer steps, directoryOf? elements (root.child key) = some (outer, steps) →
          ∀ step ∈ steps, FileName.Restored step.bytes) →
        Strays files elements (.file (root.child key).steps)
          (readLocator files elements artifact locator)) := by
  obtain ⟨base, rfl, directory⟩ := (opened _ member).exists_directory
  obtain ⟨relative, file⟩ :=
    Element.node?_of_read_directory (FileTree.proper_of_node? directory) readable
  have steps := Element.steps_child (FileTree.proper_of_node? directory) relative
  have absolute := Element.isAbsolute_child base key
  have downward := Element.downward_child (FileTree.proper_of_node? directory) relative
  have components := Path.components_eq absolute downward
  obtain ⟨made, madeOf, toFile, noEntry⟩ := Locator.exists_fileLocator absolute downward
  obtain rfl := Option.some.inj (located.symm.trans madeOf)
  obtain ⟨outer, names, found, memberOuter, properOuter, whole, properNames, below⟩ :=
    exists_directoryOf? opened kept member (components.trans (by rw [steps])) file
  have returned := Url.components_returned (FileTree.proper_of_node? file)
  rw [← steps, ← components] at returned
  have read : readLocator files elements artifact locator =
      ((Element.directory (Location.path outer)).read files
        (Element.entryName names)).mapError .file :=
    readLocator_toFile noEntry toFile returned found artifact
  rw [← steps] at file whole
  refine ⟨toFile, file, ?_, ?_⟩
  · intro restored
    have restoredNames : ∀ name ∈ names, name.Restored :=
      fun name inside => restored _ _ found _ (List.mem_map_of_mem inside)
    have stays := isRelativeName_entryName properNames below restoredNames
    rw [whole] at file
    rw [read, Element.read, if_pos stays,
      child_entryName properOuter properNames below restoredNames, FileTree.read_path file]
    rfl
  · intro lost
    rw [read]
    by_cases stays : isRelativeName (Element.entryName names) = true
    · -- Reading the same place would find every name on the way again.
      refine .inr ⟨_, memberOuter, _, ?_, rfl⟩
      intro same
      apply lost
      intro element steps again step inside
      obtain ⟨rfl, rfl⟩ := Prod.mk.inj (Option.some.inj (found.symm.trans again))
      obtain ⟨name, member, rfl⟩ := List.mem_map.mp inside
      have place := Place.file.inj same
      rw [Element.steps_child properOuter stays, whole] at place
      exact restored_of_steps stays (List.append_cancel_left place) name member
    · rw [Element.read, if_neg stays]
      exact .inl ⟨_, rfl⟩

end Directory

end Source

end Isolation
