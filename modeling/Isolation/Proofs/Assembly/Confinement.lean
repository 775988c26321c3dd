import Isolation.Proofs.Assembly.ReadBack
import Isolation.Proofs.Loader.ResourceIsolation

/-!
# Reading stays inside an artifact

An artifact reads any locator that it is given, also one that it never handed out and that was
written to lead elsewhere. Still it reads nothing but the entries of its archives, the files below
its directories, and the descriptors of its services (`Isolation.Assembly.read_confined`).
-/

namespace Isolation

open Classpath

/-- The content of an element: that of an entry of an archive, in its file as it is, or of a file
strictly below a directory. No name on the way to the file is a dot or two dots, so its path is in
normal form. -/
inductive Classpath.Element.Has (files : FileTree) (bytes : Bytes) : Element → Prop
  | entry {path : Path} {content : OpenArchive} {entry : Zip.Entry}
      (listed : entry ∈ content.entries)
      (stored : (content.reread files).readEntry entry = .ok bytes) :
      Has files bytes (.archive path content)
  | file {base names : Location} (below : names ≠ [])
      (proper : Location.Proper (base ++ names))
      (file : files.node? (base ++ names) = some (.file bytes)) :
      Has files bytes (.directory (Location.path base))

/-- What a name reads from an opened element belongs to the element. -/
theorem Classpath.Element.has_of_read {before files : FileTree} {element : Element}
    (opened : element.Opened before) {name : String} {bytes : Bytes}
    (readable : element.read files name = .ok bytes) : element.Has files bytes := by
  cases opened with
  | archive file wellFormed =>
    obtain ⟨entry, listed, -, stored⟩ := Zip.Archive.exists_entry_of_read readable
    rw [OpenArchive.entries_reread] at listed
    exact .entry listed stored
  | directory directory =>
    have proper := FileTree.proper_of_node? directory
    obtain ⟨-, file⟩ := node?_of_read_directory proper readable
    have below := steps_ne_nil_of_read_directory proper readable
    exact .file below (FileTree.proper_of_node? file) file

namespace Source

variable {files : FileTree} {elements : List Element} {artifact : String} {locator : Locator}
  {bytes : Bytes}

/-- Whatever a locator leads to is read from an element, under some name. -/
theorem exists_element_of_readLocator
    (readable : readLocator files elements artifact locator = .ok bytes) :
    ∃ element ∈ elements, ∃ name, element.read files name = .ok bytes := by
  unfold readLocator at readable
  cases toEntry : locator.toEntry? with
  | some place =>
    obtain ⟨archive, entry⟩ := place
    simp only [toEntry] at readable
    split at readable
    · rename_i element found
      exact ⟨element, List.mem_of_find?_eq_some found, entry, eq_ok_of_mapError readable⟩
    · cases readable
  | none =>
    simp only [toEntry] at readable
    cases toFile : locator.toFile? with
    | none =>
      simp only [toFile] at readable
      cases readable
    | some path =>
      simp only [toFile] at readable
      split at readable
      · rename_i element steps found
        obtain ⟨other, member, shape⟩ := List.exists_of_findSome?_eq_some found
        refine ⟨element, ?_, _, eq_ok_of_mapError readable⟩
        split at shape
        · cases shape
        · obtain ⟨rest, -, same⟩ := Option.map_eq_some_iff.mp shape
          rw [← (Prod.mk.inj same).1]
          exact member
      · cases readable

end Source

namespace Assembly

/-- What an artifact may read for a locator: the content of an element of its classpath, or the
descriptor of a service that has this very locator. -/
inductive MayRead (files : FileTree) (assembly : Assembly) (locator : Locator) (bytes : Bytes) :
    Prop
  | content {element : Element} (member : element ∈ assembly.elements)
      (has : element.Has files bytes)
  | descriptor {binding : Service.Binding} {path : Path}
      (bound : binding ∈ assembly.wrapper.services.bindings)
      (same : binding.locator.text = locator.text) (named : locator.toFile? = some path)
      (file : files.read path = .ok bytes)

/-- **An artifact reads nothing outside.** Whatever the files are by now, and whatever the locator
is, what is read is the content of an entry of an archive of the classpath or of a file strictly
below one of its directories, unless the locator is that of a service: then it is the content of the
file that the locator names. -/
theorem read_confined {manifest : Manifest} {before after : FileTree} {usual : Verbosity}
    {id free : LoaderId} {directory : Path} {assembly : Assembly}
    (assembled : manifest.assemble before usual id directory = ⟨after, free, .ok assembly⟩)
    (files : FileTree) (locator : Locator) {bytes : Bytes}
    (readable : assembly.read files locator = .ok bytes) :
    assembly.MayRead files locator bytes := by
  obtain ⟨elements, bindings, opens, -, rfl⟩ := Manifest.assemble_eq_ok assembled
  have opened := Element.opened_of_openClasspath opens
  unfold read at readable
  split at readable
  · rename_i path toFile held
    obtain ⟨binding, bound, same⟩ := List.any_eq_true.mp held
    apply MayRead.descriptor bound (beq_iff_eq.mp same) toFile
    exact eq_ok_of_mapError readable
  · obtain ⟨element, member, name, content⟩ := Source.exists_element_of_readLocator readable
    exact .content member (Element.has_of_read (opened element member) content)

/-- An artifact of one directory. -/
def publicManifest : Manifest where
  artifact := "app"
  name := "app"
  classpath := [.ofString "/d"]
  resources := ["/pub/"]

/-- That artifact, assembled. -/
def publicAssembly : Assembly where
  backing := publicManifest.backing ⟨0⟩ Loader.publicElements
  wrapper := publicManifest.wrapper ⟨false⟩ ⟨1⟩ []

/-- The files once the directory of the services is there. -/
def publicAfter : FileTree :=
  (Loader.publicFiles.ensureDirectory (.ofString "/services")).1

private theorem assemble_publicManifest :
    publicManifest.assemble Loader.publicFiles ⟨false⟩ ⟨0⟩ (.ofString "/services") =
      ⟨publicAfter, ⟨2⟩, .ok publicAssembly⟩ := by
  have opens : publicManifest.openElements Loader.publicFiles = .ok Loader.publicElements :=
    eq_ok_of_isSome
      (by decide +kernel : (publicManifest.openElements Loader.publicFiles).toOption.isSome = true)
      []
  have published : Service.publish Loader.publicFiles (.ofString "/services")
      publicManifest.services = (publicAfter, .ok []) :=
    Prod.ext rfl <| eq_ok_of_isSome (by decide +kernel :
      (Service.publish Loader.publicFiles (.ofString "/services") []).2.toOption.isSome = true) []
  exact Manifest.assemble_of_publish opens published

/-- An escaped slash leads to a file all the same, but only to one below the directory; two dots
that are separated by escaped slashes lead nowhere. -/
theorem publicAssembly_reads_inside :
    ∃ inside outside, (Locator.parse "file:///d/pub%2Fx").toOption = some inside ∧
      (Locator.parse "file:///d/pub/..%2f..%2fx").toOption = some outside ∧
      (∃ bytes, publicAssembly.read publicAfter inside = .ok bytes ∧
        publicAssembly.MayRead publicAfter inside bytes) ∧
      (publicAssembly.read publicAfter outside).toOption = none := by
  obtain ⟨inside, parsed⟩ := Option.isSome_iff_exists.mp
    (by decide +kernel : (Locator.parse "file:///d/pub%2Fx").toOption.isSome = true)
  obtain ⟨outside, parsedToo⟩ := Option.isSome_iff_exists.mp
    (by decide +kernel : (Locator.parse "file:///d/pub/..%2f..%2fx").toOption.isSome = true)
  have reads : ((Locator.parse "file:///d/pub%2Fx").toOption.all
      fun locator => (publicAssembly.read publicAfter locator).toOption.isSome) = true := by
    decide +kernel
  have fails : ((Locator.parse "file:///d/pub/..%2f..%2fx").toOption.all
      fun locator => (publicAssembly.read publicAfter locator).toOption.isNone) = true := by
    decide +kernel
  rw [parsed] at reads
  rw [parsedToo] at fails
  have readable := eq_ok_of_isSome reads []
  refine ⟨inside, outside, parsed, parsedToo, ⟨_, readable, ?_⟩, Option.isNone_iff_eq_none.mp fails⟩
  exact read_confined assemble_publicManifest publicAfter inside readable

end Assembly

end Isolation
