import Isolation.Proofs.Exports.Spelling
import Isolation.Proofs.Loader.Resources

/-!
# The resources that are handed out are exported

A wrapper judges a resource by its name as it is written, while a directory on the classpath reads
the name through the file system, which passes over doubled slashes and dots. If the exports are
written plainly, this makes no difference: whatever is found for a name is exported under its own
name too (`Isolation.Loader.handedOut_exported`).
-/

namespace Isolation

open Classpath

namespace Classpath.Element

/-- What a locator of an element stands for: in an archive the entry that the locator was made for,
under its own name, and in a directory a file below it, under the names that lead there. -/
inductive Behind (files : FileTree) (locator : Locator) : Element → String → Prop
  | archive {path : Path} {content : OpenArchive} {entry : String}
      (listed : content.fileNames.contains entry = true)
      (located : Locator.ofEntry? path entry = some locator) :
      Behind files locator (.archive path content) entry
  | directory {base names : Location} {bytes : Bytes}
      (file : files.node? (base ++ names) = some (.file bytes))
      (located : Locator.ofFile? (Location.path (base ++ names)) = some locator) :
      Behind files locator (.directory (Location.path base)) (entryName names)

variable {files before : FileTree} {element : Element} {key : String} {locator : Locator}

/-- The locator of a name in a directory is that of the file that the name leads to. -/
theorem ofFile?_child {base : Location} (proper : base.Proper)
    (relative : isRelativeName key = true)
    (properSteps : Location.Proper (Path.ofString key).steps) :
    Locator.ofFile? ((Location.path base).child key) =
      Locator.ofFile? (Location.path (base ++ (Path.ofString key).steps)) := by
  have together := proper.append properSteps
  rw [Locator.ofFile?, Locator.ofFile?,
    Url.ofFilePath?_eq (isAbsolute_child base key) (downward_child proper relative),
    Url.ofFilePath?_eq (Path.isAbsolute_path _) (Path.downward_path together),
    steps_child proper relative, Path.steps_path together]

/-- What an element finds under a name is what the locator of the name stands for. -/
theorem behind_entryFor (opened : element.Opened before)
    (has : element.contains files key = true) (located : element.locator? key = some locator) :
    element.Behind files locator (element.entryFor key) := by
  cases opened with
  | archive file wellFormed => exact .archive has located
  | @directory base directory =>
    have proper := FileTree.proper_of_node? directory
    obtain ⟨bytes, readable⟩ := exists_read_directory has
    obtain ⟨relative, file⟩ := node?_of_read_directory proper readable
    have properSteps := (Location.proper_append.mp (FileTree.proper_of_node? file)).2
    refine .directory file ?_
    rw [← ofFile?_child proper relative properSteps]
    exact located

/-- What an element finds under an admitted name is admitted under its own name. -/
theorem admits_entryFor {packages resources : List String}
    (plain : Exports.Plain packages resources) (opened : element.Opened before)
    (has : element.contains files key = true)
    (admitted : (Exports.ofLists packages resources).AdmitsRelative key.toList) :
    (Exports.ofLists packages resources).admitsResource (element.entryFor key) = true := by
  cases opened with
  | archive file wellFormed =>
    rw [entryFor, Exports.admitsResource_iff,
      Exports.relativeName_eq_self (plain.ne_slash admitted)]
    exact admitted
  | @directory base directory =>
    -- A name that ends in a dot or a slash leads to no file, so the last segment leads on.
    obtain ⟨bytes, readable⟩ := exists_read_directory has
    have ends := leadsOn_of_read_directory (FileTree.proper_of_node? directory) readable
    have shape : (Element.directory (Location.path base)).entryFor key =
        String.ofList (Path.withoutIdle key.toList) := by
      rw [entryFor, Path.steps_ofString, entryName_map_encode, Path.withoutIdle]
    have exported := plain.admits_withoutIdle admitted ends
    rw [shape, Exports.admitsResource_iff, String.toList_ofList,
      Exports.relativeName_eq_self (plain.ne_slash exported)]
    exact exported

end Classpath.Element

namespace Loader

/-- **Only exported resources are handed out**, if the exports are written plainly. Whatever name is
asked for, a locator that a wrapper hands out is that of a service in its table, or that of an entry
of an element behind it which is exported under its own name. -/
theorem handedOut_exported {packages resources : List String}
    (plain : Exports.Plain packages resources) {wrapper : Wrapper}
    (written : wrapper.exports = .ofLists packages resources) {inner : Loader} {own : Backing}
    (behind : inner.backing? = some own) {elements : List Element}
    (onPath : own.source = .classpath elements) (opened : own.source.Opened) {files : FileTree}
    {name : String} {locator : Locator}
    (handedOut : (filtering wrapper inner).HandsOut files name locator) :
    (∃ binding ∈ wrapper.services.bindings,
        Service.interfaceOf? name = some binding.interfaceName ∧ binding.locator = locator) ∨
      ∃ element ∈ elements,
        element.Behind files locator (element.entryFor (Source.resourceKey name)) ∧
          wrapper.exports.admitsResource (element.entryFor (Source.resourceKey name)) = true := by
  rw [onPath] at opened
  obtain ⟨before, paths, opens⟩ := opened
  rcases of_handsOut behind onPath handedOut with
    service | ⟨admitted, element, member, has, located⟩
  · exact .inl service
  · have whole := Element.opened_of_openClasspath opens element member
    refine .inr ⟨element, member, Element.behind_entryFor whole has located, ?_⟩
    rw [written, Exports.admitsResource_iff] at admitted
    rw [written]
    apply Element.admits_entryFor plain whole has
    rw [Source.resourceKey, String.toList_ofList]
    exact admitted

/-- Files in a directory, one of them in a directory of its own. -/
def publicFiles : FileTree :=
  let directories := (FileTree.empty.ensureDirectory (.ofString "/d/pub")).1
  let files := do
    let first ← directories.write (.ofString "/d/pub/x") [0x78]
    first.write (.ofString "/d/x") [0x79]
  files.toOption.getD .empty

/-- The classpath of the outer directory. -/
def publicElements : List Element :=
  ((openClasspath publicFiles [.ofString "/d"]).toOption).getD []

private theorem openClasspath_publicFiles :
    openClasspath publicFiles [.ofString "/d"] = .ok publicElements := by
  have opens : (openClasspath publicFiles [.ofString "/d"]).toOption.isSome = true := by
    decide +kernel
  exact eq_ok_of_isSome opens []

/-- The loader of that directory. -/
def publicBacking : Backing where
  id := ⟨0⟩
  artifact := "app"
  identity := ⟨"app", none⟩
  rules := {}
  source := .classpath publicElements

/-- A wrapper that exports what lies below the inner directory. -/
def publicWrapper : Wrapper where
  id := ⟨1⟩
  exports := .ofLists [] ["/pub/"]
  services := {}
  verbosity := ⟨false⟩

private theorem plain_public : Exports.Plain [] ["/pub/"] where
  packages := fun package member => nomatch member
  resources := by
    intro resource member
    obtain rfl := List.mem_singleton.mp member
    decide

/-- A name with a slash and a dot too many reaches the inner file, which is exported. -/
theorem public_hands_out :
    ∃ locator,
      (filtering publicWrapper (.root publicBacking)).HandsOut publicFiles "/pub/.//x" locator ∧
        ∃ element ∈ publicElements, element.Behind publicFiles locator "pub/x" ∧
          publicWrapper.exports.admitsResource "pub/x" = true := by
  obtain ⟨locator, found⟩ := Option.isSome_iff_exists.mp (by decide +kernel :
    ((filtering publicWrapper (.root publicBacking)).getResource? publicFiles
      "/pub/.//x").answer.isSome = true)
  refine ⟨locator, .inl found, ?_⟩
  have opened : publicBacking.source.Opened := ⟨_, _, openClasspath_publicFiles⟩
  rcases handedOut_exported plain_public rfl rfl rfl opened (.inl found) with
    ⟨binding, inside, -⟩ | ⟨element, member, stands, exported⟩
  · exact nomatch inside
  · have own : ∀ element ∈ publicElements,
        element.entryFor (Source.resourceKey "/pub/.//x") = "pub/x" := by
      decide +kernel
    rw [own element member] at stands exported
    exact ⟨element, member, stands, exported⟩

end Loader

end Isolation
