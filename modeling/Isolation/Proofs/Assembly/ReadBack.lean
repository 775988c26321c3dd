import Isolation.Proofs.Classpath.ReadLocator
import Isolation.Proofs.Loader.Resources
import Isolation.Proofs.Service.Publish
import Isolation.Zip.Writer

/-!
# Reading back what is handed out

Whatever locator an assembled artifact hands out, what is read through it is what was found, as long
as the locator leads back to it (`Isolation.Assembly.read_handedOut`). The bytes of a service are
lost exactly when its interface ends as a drive letter does. The bytes of an entry are lost exactly
when the locator does not keep the path of the archive or the name of the entry, or when the text of
a name on the way to the entry in a directory does not lead there.
-/

namespace Isolation

open Classpath

/-- Whether every entry that an archive lists can be read. -/
def Zip.Archive.Undamaged (archive : Archive) : Prop :=
  ∀ entry, archive.fileNames.contains entry = true → ∃ bytes, archive.read entry = .ok bytes

/-- Whether every entry that an archive lists can be read from its file as it is. -/
def Classpath.Element.Undamaged (files : FileTree) : Element → Prop
  | .archive _ content => (content.reread files).Undamaged
  | .directory _ => True

/-- What an element has is read from it, unless it is damaged. -/
theorem Classpath.Element.Undamaged.exists_read {files : FileTree} {element : Element}
    {key : String} (undamaged : element.Undamaged files)
    (has : element.contains files key = true) : ∃ bytes, element.read files key = .ok bytes := by
  cases element with
  | archive path content =>
    refine undamaged key ?_
    rw [OpenArchive.fileNames_reread]
    exact has
  | directory root => exact exists_read_directory has

private theorem Manifest.openElements_eq_ok {manifest : Manifest} {files : FileTree}
    {elements : List Element} (checked : manifest.openElements files = .ok elements) :
    openClasspath files manifest.classpath = .ok elements := by
  unfold openElements at checked
  cases valid : manifest.validate with
  | error fault =>
    rw [valid] at checked
    exact nomatch checked
  | ok checks =>
    cases opened : openClasspath files manifest.classpath with
    | error error =>
      rw [valid, opened] at checked
      exact nomatch checked
    | ok found =>
      rw [valid, opened] at checked
      rw [Except.ok.inj checked]

/-- What an assembled artifact is made of. -/
theorem Manifest.assemble_eq_ok {manifest : Manifest} {files after : FileTree} {usual : Verbosity}
    {id free : LoaderId} {directory : Path} {assembly : Assembly}
    (assembled : manifest.assemble files usual id directory = ⟨after, free, .ok assembly⟩) :
    ∃ elements bindings, openClasspath files manifest.classpath = .ok elements ∧
      Service.publish files directory manifest.services = (after, .ok bindings) ∧
      assembly = ⟨manifest.backing id elements, manifest.wrapper usual id.next bindings⟩ := by
  unfold assemble at assembled
  cases checked : manifest.openElements files with
  | error error =>
    rw [checked] at assembled
    exact nomatch assembled
  | ok elements =>
    rw [checked] at assembled
    simp only at assembled
    split at assembled
    · exact nomatch assembled
    · rename_i stored bindings published
      obtain ⟨rfl, -, same⟩ := Attempt.mk.inj assembled
      exact ⟨elements, bindings, openElements_eq_ok checked, published, (Except.ok.inj same).symm⟩

/-- How an artifact is assembled, if nothing fails. -/
theorem Manifest.assemble_of_publish {manifest : Manifest} {files after : FileTree}
    {usual : Verbosity} {id : LoaderId} {directory : Path} {elements : List Element}
    {bindings : List Service.Binding} (checked : manifest.openElements files = .ok elements)
    (published : Service.publish files directory manifest.services = (after, .ok bindings)) :
    manifest.assemble files usual id directory = ⟨after, id.next.next,
      .ok ⟨manifest.backing id elements, manifest.wrapper usual id.next bindings⟩⟩ := by
  unfold assemble
  rw [checked]
  simp only [published]

namespace Assembly

/-- Whether a loader hands out a locator for a resource, as the first or as one of all. -/
def HandsOut (files : FileTree) (assembly : Assembly) (name : String) (locator : Locator) : Prop :=
  (assembly.loader.getResource? files name).answer = some locator ∨
    ∃ locators, (assembly.loader.getResources files name).answer = .ok locators ∧
      locator ∈ locators

/-- Whether the locator of an entry leads back to it. In an archive, the locator keeps the path of
the archive and the name of the entry. In a directory, the names on the way from the first directory
that holds the entry are found again; but a file that is a service's descriptor as well is read by
its path, which must not end as a drive letter does. -/
def LeadsBack (assembly : Assembly) (locator : Locator) (key : String) : Element → Prop
  | .archive path _ => Locator.KeepsArchive path.steps ∧ Url.KeepsEntry key.toList
  | .directory root =>
    if assembly.wrapper.services.holds locator = true then
      ∀ last ∈ (root.child key).steps.getLast?, Url.endsAsDrive last = false
    else
      ∀ outer steps, Source.directoryOf? assembly.elements (root.child key) = some (outer, steps) →
        ∀ step ∈ steps, FileName.Restored step.bytes

variable {files : FileTree} {assembly : Assembly} {name : String} {locator : Locator}

/-- What a locator that is handed out was made for: a service in the table, or an entry of an
element. -/
theorem of_handsOut (onPath : assembly.backing.source = .classpath assembly.elements)
    (handedOut : assembly.HandsOut files name locator) :
    (∃ binding ∈ assembly.wrapper.services.bindings,
        Service.interfaceOf? name = some binding.interfaceName ∧ binding.locator = locator) ∨
      ∃ element ∈ assembly.elements, element.contains files (Source.resourceKey name) = true ∧
        element.locator? (Source.resourceKey name) = some locator := by
  have through : (Loader.filtering assembly.wrapper (.root assembly.backing)).HandsOut files name
      locator := handedOut
  rcases Loader.of_handsOut rfl onPath through with service | ⟨-, entry⟩
  · exact .inl service
  · exact .inr entry

private theorem holds_of_mem {table : Service.Table} {binding : Service.Binding}
    (member : binding ∈ table.bindings) : table.holds binding.locator = true :=
  List.any_eq_true.mpr ⟨binding, member, beq_self_eq_true _⟩

/-- What a service's locator leads to is read by its path, unless it ends as a drive letter does. -/
theorem read_held {above : Location} {last : FileName} {content : Bytes}
    (held : assembly.wrapper.services.holds locator = true)
    (toFile : locator.toFile? = some (Url.returned (above ++ [last])))
    (file : files.node? (above ++ [last]) = some (.file content)) :
    (Url.endsAsDrive last = false → assembly.read files locator = .ok content) ∧
      (Url.endsAsDrive last = true → ∃ error, assembly.read files locator = .error error) := by
  obtain ⟨found, lost⟩ := FileTree.read_returned file
  unfold read
  rw [toFile, held]
  constructor
  · intro plain
    simp only [found plain]
    rfl
  · intro drive
    obtain ⟨error, failed⟩ := lost drive
    simp only [failed]
    exact ⟨_, rfl⟩

/-- The descriptor of a published service is read back unless its interface ends as a drive letter
does. -/
theorem read_descriptor {base : Location} {position : Nat} {service : Service.Declaration}
    {binding : Service.Binding} (proper : base.Proper)
    (published : Service.Published files base position service binding)
    (member : binding ∈ assembly.wrapper.services.bindings) :
    assembly.read files binding.locator = .ok (Service.descriptorContent service) ↔
      Url.endsAsDrive (Utf8.ofString service.interfaceName) = false := by
  have place : Service.descriptorLocation base position service =
      (base ++ Utf8.ofString (toString position) :: Service.markerNames) ++
        [Utf8.ofString service.interfaceName] := by
    rw [Service.descriptorLocation, List.append_assoc]
  have written := published.written
  have properPlace := Service.proper_descriptorLocation proper position service
  obtain ⟨made, madeOf, toFile, -⟩ := Locator.exists_fileLocator
    (Path.isAbsolute_path (Service.descriptorLocation base position service))
    (Path.downward_path properPlace)
  obtain rfl := Option.some.inj (published.located.symm.trans madeOf)
  rw [Path.steps_path properPlace, place] at toFile
  rw [place] at written
  obtain ⟨found, lost⟩ := read_held (holds_of_mem member) toFile written
  constructor
  · intro readable
    apply Bool.eq_false_iff.mpr
    intro drive
    obtain ⟨error, failed⟩ := lost drive
    rw [failed] at readable
    cases readable
  · exact found

/-- The locator of an entry is read back if it leads back to it, and else reads another place or
nothing. -/
theorem read_entry {before : FileTree}
    (opened : ∀ element ∈ assembly.elements, element.Opened before)
    (kept : before.KeepsDirectories files) {element : Element}
    (member : element ∈ assembly.elements) {key : String} {bytes : Bytes}
    (readable : element.read files key = .ok bytes)
    (located : element.locator? key = some locator) :
    (assembly.LeadsBack locator key element → assembly.read files locator = .ok bytes) ∧
      (¬assembly.LeadsBack locator key element →
        Strays files assembly.elements (element.place key) (assembly.read files locator)) := by
  cases element with
  | archive path content =>
    obtain ⟨noFile, kept, lost⟩ :=
      Source.readLocator_archive opened member readable located assembly.backing.artifact
    have through : assembly.read files locator = Source.readLocator files assembly.elements
        assembly.backing.artifact locator := by
      unfold read
      rw [noFile]
    rw [through]
    exact ⟨kept, lost⟩
  | directory root =>
    obtain ⟨toFile, file, restored, lost⟩ :=
      Source.readLocator_directory opened kept member readable located assembly.backing.artifact
    by_cases held : assembly.wrapper.services.holds locator = true
    · have below : (root.child key).steps ≠ [] := by
        intro atRoot
        rw [atRoot] at file
        cases file
      obtain ⟨above, last, place⟩ := FileTree.exists_concat below
      have leadsBack : assembly.LeadsBack locator key (.directory root) ↔
          Url.endsAsDrive last = false := by
        rw [LeadsBack, if_pos held, place, List.getLast?_concat]
        exact ⟨fun plain => plain last rfl, fun plain other same => Option.some.inj same ▸ plain⟩
      rw [place] at file toFile
      obtain ⟨found, fails⟩ := read_held held toFile file
      rw [leadsBack]
      exact ⟨found, fun drive => .inl (fails (Bool.of_not_eq_false drive))⟩
    · have through : assembly.read files locator = Source.readLocator files assembly.elements
          assembly.backing.artifact locator := by
        unfold read
        rw [toFile, Bool.eq_false_iff.mpr held]
      rw [through, LeadsBack, if_neg held]
      exact ⟨restored, lost⟩

/-- **What is handed out is read back.** A locator that an assembled artifact hands out for a name
was made for a service whose interface the name asks for, or for the entry of that name in an
element of the classpath. What is read through it is the implementation of that service, unless the
interface ends as a drive letter does, or the content of that entry, if the locator leads back to
it. If it does not, reading fails or reads another entry. -/
theorem read_handedOut {manifest : Manifest} {before : FileTree} {usual : Verbosity}
    {id free : LoaderId} {directory : Path}
    (assembled : manifest.assemble before usual id directory = ⟨files, free, .ok assembly⟩)
    (undamaged : ∀ element ∈ assembly.elements, element.Undamaged files)
    (handedOut : assembly.HandsOut files name locator) :
    (∃ (position : Nat) (service : Service.Declaration) (binding : Service.Binding),
        manifest.services[position]? = some service ∧
        assembly.wrapper.services.bindings[position]? = some binding ∧
        Service.interfaceOf? name = some service.interfaceName ∧ binding.locator = locator ∧
        (assembly.read files locator = .ok (Service.descriptorContent service) ↔
          Url.endsAsDrive (Utf8.ofString service.interfaceName) = false)) ∨
      ∃ element ∈ assembly.elements, ∃ bytes,
        element.read files (Source.resourceKey name) = .ok bytes ∧
        element.locator? (Source.resourceKey name) = some locator ∧
        (assembly.LeadsBack locator (Source.resourceKey name) element →
          assembly.read files locator = .ok bytes) ∧
        (¬assembly.LeadsBack locator (Source.resourceKey name) element →
          Strays files assembly.elements (element.place (Source.resourceKey name))
            (assembly.read files locator)) := by
  obtain ⟨elements, bindings, opens, published, rfl⟩ := Manifest.assemble_eq_ok assembled
  obtain ⟨kept, base, proper, descriptors⟩ := Service.published_of_publish published
  rcases of_handsOut rfl handedOut with
    ⟨binding, member, asked, rfl⟩ | ⟨element, member, has, located⟩
  · obtain ⟨position, found⟩ := List.mem_iff_getElem?.mp member
    obtain ⟨service, declared, there⟩ := descriptors position binding found
    refine .inl ⟨position, service, binding, declared, found, ?_, rfl, ?_⟩
    · rw [asked, there.bound]
    · exact read_descriptor proper there member
  · obtain ⟨bytes, readable⟩ := (undamaged element member).exists_read has
    exact .inr ⟨element, member, bytes, readable, located,
      read_entry (Element.opened_of_openClasspath opens) kept member readable located⟩

/-- An archive with two entries, of which one has a name outside ASCII. -/
def accentedArchive : Bytes :=
  Zip.writeArchive [("a.txt", [0x61]), ("é.txt", [0x62])]

/-- Files of which one is that archive. -/
def accentedFiles : FileTree :=
  ((FileTree.empty.write (.ofString "/x.jar") accentedArchive).toOption).getD .empty

/-- That archive, opened. -/
def accentedContent : OpenArchive :=
  ⟨((Zip.openArchive accentedArchive).toOption).getD default,
    accentedFiles.hold (Path.ofString "/x.jar").steps⟩

/-- An artifact of that archive, which exports its entries and declares a service. -/
def accentedManifest : Manifest where
  artifact := "app"
  name := "app"
  classpath := [.ofString "/x.jar"]
  resources := ["a.txt", "é.txt"]
  services := [⟨"I", "C", by decide, by decide, by decide⟩]

/-- The files, and the bindings, once the service is published. -/
def accentedServices : FileTree × Except AssemblyError (List Service.Binding) :=
  Service.publish accentedFiles (.ofString "/services") accentedManifest.services

/-- The files once the service is published. -/
def accentedAfter : FileTree :=
  accentedServices.1

/-- That artifact, assembled. -/
def accentedAssembly : Assembly where
  backing := accentedManifest.backing ⟨0⟩
    (((accentedManifest.openElements accentedFiles).toOption).getD [])
  wrapper := accentedManifest.wrapper ⟨false⟩ ⟨1⟩ ((accentedServices.2.toOption).getD [])

private theorem assemble_accentedManifest :
    accentedManifest.assemble accentedFiles ⟨false⟩ ⟨0⟩ (.ofString "/services") =
      ⟨accentedAfter, ⟨2⟩, .ok accentedAssembly⟩ := by
  have opens := eq_ok_of_isSome
    (by decide +kernel : (accentedManifest.openElements accentedFiles).toOption.isSome = true) []
  have published : Service.publish accentedFiles (.ofString "/services") accentedManifest.services =
      (accentedAfter, .ok ((accentedServices.2.toOption).getD [])) :=
    Prod.ext rfl
      (eq_ok_of_isSome (by decide +kernel : accentedServices.2.toOption.isSome = true) [])
  exact Manifest.assemble_of_publish opens published

private theorem elements_accentedAssembly :
    accentedAssembly.elements = [.archive (.ofString "/x.jar") accentedContent] := by
  decide +kernel

/-- Publishing the service leaves that archive as it was. -/
theorem reread_accentedContent :
    accentedContent.reread accentedAfter = accentedContent.toArchive := by
  decide +kernel

private theorem undamaged_accentedAssembly :
    ∀ element ∈ accentedAssembly.elements, element.Undamaged accentedAfter := by
  intro element member
  rw [elements_accentedAssembly] at member
  rw [List.mem_singleton.mp member, Element.Undamaged, reread_accentedContent]
  intro entry has
  have readable : ∀ entry ∈ accentedContent.fileNames.names,
      (accentedContent.read entry).toOption.isSome = true := by
    decide +kernel
  exact ⟨_, eq_ok_of_isSome (readable entry (of_decide_eq_true has)) []⟩

/-- Of two entries of one archive the one with the plain name is read back, and the other is not;
the service is. -/
theorem accentedAssembly_reads_back :
    (∃ locator, accentedAssembly.HandsOut accentedAfter "a.txt" locator ∧
        accentedAssembly.read accentedAfter locator = .ok [0x61]) ∧
      (∃ locator, accentedAssembly.HandsOut accentedAfter "é.txt" locator ∧
        Strays accentedAfter accentedAssembly.elements (.entry (.ofString "/x.jar") "é.txt")
          (accentedAssembly.read accentedAfter locator)) ∧
      ∃ locator, accentedAssembly.HandsOut accentedAfter "META-INF/services/I" locator ∧
        accentedAssembly.read accentedAfter locator = .ok (Utf8.ofString "C\n") := by
  refine ⟨?_, ?_, ?_⟩
  · have answers : (accentedAssembly.loader.getResource? accentedAfter
        "a.txt").answer.isSome = true := by
      decide +kernel
    obtain ⟨locator, found⟩ := Option.isSome_iff_exists.mp answers
    refine ⟨locator, .inl found, ?_⟩
    rcases read_handedOut assemble_accentedManifest undamaged_accentedAssembly (.inl found) with
      ⟨_, _, _, _, _, asked, _⟩ | ⟨element, member, bytes, readable, -, back, -⟩
    · exact nomatch ((by decide : Service.interfaceOf? "a.txt" = none).symm.trans asked)
    · rw [elements_accentedAssembly] at member
      obtain rfl := List.mem_singleton.mp member
      have stored : (accentedContent.read "a.txt").toOption = some [0x61] := by decide +kernel
      have key : Source.resourceKey "a.txt" = "a.txt" := by decide
      rw [key, Element.read, reread_accentedContent] at readable
      rw [readable] at stored
      rw [← Option.some.inj stored]
      refine back ⟨⟨by unfold Url.keepsMark; decide, by decide⟩, ?_⟩
      rw [key]
      have tail : Url.Tail.ofChars "a.txt".toList = ⟨"a.txt".toList, none, none⟩ := rfl
      refine ⟨by decide, by decide, ?_, ?_, ?_⟩
      · rw [tail]
        simp [Url.isControl]
      · rw [tail]
        simp
      · rw [tail]
        simp
  · have answers : (accentedAssembly.loader.getResource? accentedAfter
        "é.txt").answer.isSome = true := by
      decide +kernel
    obtain ⟨locator, found⟩ := Option.isSome_iff_exists.mp answers
    refine ⟨locator, .inl found, ?_⟩
    rcases read_handedOut assemble_accentedManifest undamaged_accentedAssembly (.inl found) with
      ⟨_, _, _, _, _, asked, _⟩ | ⟨element, member, bytes, -, -, -, lost⟩
    · exact nomatch ((by decide : Service.interfaceOf? "é.txt" = none).symm.trans asked)
    · have key : Source.resourceKey "é.txt" = "é.txt" := by decide
      rw [elements_accentedAssembly] at member
      obtain rfl := List.mem_singleton.mp member
      rw [key] at lost
      refine lost fun leadsBack => ?_
      have ascii := (leadsBack.2.path 'é' (by decide)).1
      simp at ascii
  · have answers : (accentedAssembly.loader.getResource? accentedAfter
        "META-INF/services/I").answer.isSome = true := by
      decide +kernel
    obtain ⟨locator, found⟩ := Option.isSome_iff_exists.mp answers
    refine ⟨locator, .inl found, ?_⟩
    rcases read_handedOut assemble_accentedManifest undamaged_accentedAssembly (.inl found) with
      ⟨_, service, _, declared, _, _, _, back⟩ | ⟨element, member, bytes, readable, -⟩
    · have only := List.mem_singleton.mp (List.mem_of_getElem? declared)
      rw [only] at back
      exact back.mpr (by decide)
    · rw [elements_accentedAssembly] at member
      obtain rfl := List.mem_singleton.mp member
      have nothing : (accentedContent.read (Source.resourceKey "META-INF/services/I")).toOption =
          none := by decide +kernel
      rw [Element.read, reread_accentedContent] at readable
      rw [readable] at nothing
      cases nothing

/-- Not everything that is handed out can be read. -/
theorem exists_handedOut_unread :
    ¬ ∀ (manifest : Manifest) (before files : FileTree) (usual : Verbosity) (id free : LoaderId)
        (directory : Path) (assembly : Assembly) (name : String) (locator : Locator),
      manifest.assemble before usual id directory = ⟨files, free, .ok assembly⟩ →
      (∀ element ∈ assembly.elements, element.Undamaged files) →
      assembly.HandsOut files name locator → ∃ bytes, assembly.read files locator = .ok bytes := by
  intro readable
  have lost : ((accentedAssembly.loader.getResource? accentedAfter "é.txt").answer.any
      fun locator => (accentedAssembly.read accentedAfter locator).toOption.isNone) = true := by
    decide +kernel
  obtain ⟨locator, found, unread⟩ := (Option.any_eq_true ..).mp lost
  obtain ⟨bytes, read⟩ := readable _ _ _ _ _ _ _ _ _ locator assemble_accentedManifest
    undamaged_accentedAssembly (.inl found)
  rw [read] at unread
  cases unread

end Assembly

end Isolation
