import Isolation.CommandLine.Report
import Isolation.Proofs.Classpath.Listed
import Isolation.Proofs.Loader.Registered
import Isolation.Proofs.Loader.Stack

/-!
# What a listing says of the entries of an artifact

A listing calls an entry exported by its name alone. Lookups by the name of its class, or by its own
name, search the whole classpath; they come to the same
(`Isolation.Assembly.listing_agrees_with_lookups`).
-/

namespace Isolation

open Classpath

/-- A name of a class file without further dots is the one that its class is looked up by. -/
theorem ClassName.classFile_of_ofClassFile? {entry className : String}
    (dotless : ∀ stem, entry.toList = stem ++ fileSuffix → '.' ∉ stem)
    (named : ofClassFile? entry = some className) : classFile className = entry := by
  have listed : Listing.className? entry = some className := by
    unfold Listing.className?
    refine (if_neg fun dot => ?_).trans named
    unfold ofClassFile? at named
    simp only at named
    split at named
    · rename_i ends
      obtain ⟨stem, shape⟩ := List.isSuffixOf_iff_suffix.mp ends
      rw [← shape, Listing.take_append_fileSuffix] at dot
      exact dotless stem shape.symm dot
    · cases named
  exact (Listing.className?_eq_some_iff.mp listed).2.symm

/-- A listing judges a class file by its class, and any other entry by itself. -/
theorem CommandLine.EntryReport.exported_of (exports : Exports) (entry : String) :
    (of exports entry).exported =
      match ClassName.ofClassFile? entry with
      | some className => exports.admitsClass className
      | none => exports.admitsResource entry := by
  unfold of
  cases ClassName.ofClassFile? entry <;> rfl

namespace Backing

variable {files : FileTree} {own : Backing} {elements : List Element} {element : Element}
  {className : String}

/-- Whether looking up a class comes to its file: to the class, or to a failure on the file. -/
def ReachesFile (className : String) (answer : Except LoadError ClassObject) : Prop :=
  (∃ object, answer = .ok object) ∨ ∃ error, error.Unusable className ∧ answer = .error error

private theorem ReachesFile.not_missed {answer : Except LoadError ClassObject}
    (reaches : ReachesFile className answer) {error : LoadError} (failed : answer = .error error) :
    error.isNotFound = false := by
  rcases reaches with ⟨object, found⟩ | ⟨other, unusable, stopped⟩
  · rw [found] at failed
    cases failed
  · obtain rfl := Except.error.inj (stopped.symm.trans failed)
    exact unusable.isNotFound_eq_false

/-- A class whose file is on the classpath of a loader is not missed. -/
theorem reachesFile_findClass (onPath : own.source = .classpath elements)
    (member : element ∈ elements)
    (has : element.contains files (ClassName.classFile className) = true) (state : State) :
    ReachesFile className (own.findClass files state className).2 := by
  unfold findClass define
  cases state.defined? own.id className with
  | some object => exact .inl ⟨object, rfl⟩
  | none =>
    rw [onPath]
    rcases Source.classOnPath_of_contains member has own.artifact with
      ⟨record, found⟩ | ⟨error, unusable, failed⟩
    · have searched : (Source.classpath elements).findClass files className own.artifact =
          .ok record := found
      rw [searched]
      exact .inl ⟨_, rfl⟩
    · have searched : (Source.classpath elements).findClass files className own.artifact =
          .error error := failed
      rw [searched]
      exact .inr ⟨error, unusable, rfl⟩

end Backing

namespace Loader

variable {files : FileTree} {wrapper : Wrapper} {own : Backing} {elements : List Element}
  {element : Element}

/-- A class whose file is there reaches its file through a wrapper that exports it, and is refused
by any other. -/
theorem admitsClass_iff_loadClass (wrapper : Wrapper) {className : String}
    (onPath : own.source = .classpath elements) (member : element ∈ elements)
    (has : element.contains files (ClassName.classFile className) = true) (state : State) :
    let answer := ((filtering wrapper (.root own)).loadClass files state className).2.answer
    (wrapper.exports.admitsClass className = true ↔
      ∀ error, answer = .error error → error.isNotFound = false) ∧
    (wrapper.exports.admitsClass className = true ↔ Backing.ReachesFile className answer) ∧
    (wrapper.exports.admitsClass className = false ↔ ∃ name artifact exports,
      answer = .error (.notExported name artifact exports)) := by
  intro answer
  have answered : answer = if wrapper.exports.admitsClass className
      then (own.findClass files state className).2
      else .error (.notExported className own.artifact wrapper.exports) := by
    have through := congrArg Prod.snd
      (loadClass_filtering files state className wrapper (.root own))
    rw [apply_ite Prod.snd] at through
    exact through
  by_cases admitted : wrapper.exports.admitsClass className = true
  · rw [if_pos admitted] at answered
    have reaches := Backing.reachesFile_findClass onPath member has state
    rw [← answered] at reaches
    refine ⟨iff_of_true admitted fun error => reaches.not_missed, iff_of_true admitted reaches,
      iff_of_false (Bool.not_eq_false _ ▸ admitted) ?_⟩
    rintro ⟨name, artifact, exports, refused⟩
    cases reaches.not_missed refused
  · rw [if_neg admitted] at answered
    refine ⟨iff_of_false admitted fun all => ?_, iff_of_false admitted fun reaches => ?_,
      iff_of_true (Bool.eq_false_iff.mpr admitted) ⟨_, _, _, answered⟩⟩
    · cases all _ answered
    · cases reaches.not_missed answered

/-- A resource that is there, under a name that is no service of the wrapper, is found if and only
if the wrapper exports it. -/
theorem admitsResource_iff_getResource? {name : String} {before : FileTree}
    (onPath : own.source = .classpath elements)
    (opened : ∀ element ∈ elements, element.Opened before) (member : element ∈ elements)
    (has : element.contains files name = true) (relative : name.toList.head? ≠ some '/')
    (unbound : ∀ binding ∈ wrapper.services.bindings,
      Service.interfaceOf? name ≠ some binding.interfaceName) :
    wrapper.exports.admitsResource name = true ↔
      ((filtering wrapper (.root own)).getResource? files name).answer.isSome = true := by
  have noService : (wrapper.serviceLocator? own.artifact name).answer = none := by
    rw [Wrapper.serviceLocator?_eq_head?, List.head?_eq_none_iff, List.eq_nil_iff_forall_not_mem]
    intro locator bound
    obtain ⟨binding, inside, asked, -⟩ := wrapper.exists_binding_of_mem own.artifact bound
    exact unbound binding inside asked
  have found : (own.source.findResource? files name).isSome = true := by
    have hit : (Source.elementWith? files elements name).isSome = true :=
      List.find?_isSome.mpr ⟨element, member, has⟩
    obtain ⟨first, isFirst⟩ := Option.isSome_iff_exists.mp hit
    obtain ⟨locator, located⟩ :=
      (opened first (List.mem_of_find?_eq_some isFirst)).exists_locator name
    rw [onPath, Source.findResource?, Source.resourceKey_eq_self relative]
    simp only [isFirst, Option.bind_some, located, Option.isSome_some]
  rw [answer_getResource?_filtering]
  change _ ↔ ((wrapper.serviceLocator? own.artifact name).answer.or (if _ then
    own.source.findResource? files name else none)).isSome = true
  rw [noService, Option.none_or]
  by_cases admitted : wrapper.exports.admitsResource name = true
  · rw [if_pos admitted]
    exact iff_of_true admitted found
  · rw [if_neg admitted]
    exact iff_of_false admitted Bool.false_ne_true

end Loader

namespace Assembly

/-- Whether the name of an entry is one that lookups take as it stands: it has no slash in front,
none of its segments leads upwards, whichever separator is used, and before the suffix of a class
file it has no dot. -/
structure PlainEntry (entry : String) : Prop where
  relative : entry.toList.head? ≠ some '/'
  noUp : ['.', '.'] ∉ entry.toList.splitOnP fun c => c == '/' || c == '\\'
  dotless : ∀ stem, entry.toList = stem ++ ClassName.fileSuffix → '.' ∉ stem

variable {manifest : Manifest} {before files : FileTree} {usual : Verbosity} {id free : LoaderId}
  {directory : Path} {assembly : Assembly} {entry : String}

/-- What an assembled artifact lists is an entry of one of its elements. -/
theorem exists_element_of_listed
    (assembled : manifest.assemble before usual id directory = ⟨files, free, .ok assembly⟩)
    (textNames : ∀ element ∈ assembly.elements, element.HasTextNames files)
    (listed : entry ∈ assembly.entries files) (plain : PlainEntry entry) :
    ∃ element ∈ assembly.elements, element.contains files entry = true := by
  obtain ⟨elements, bindings, opens, published, rfl⟩ := Manifest.assemble_eq_ok assembled
  obtain ⟨kept, -⟩ := Service.published_of_publish published
  obtain ⟨element, member, here⟩ := List.mem_flatMap.mp listed
  have opened := Element.opened_of_openClasspath opens element member
  exact ⟨element, member,
    Element.contains_of_mem_entryNames opened kept (textNames element member) here plain.noUp⟩

/-- **A listing says what lookups do.** A class file that an assembled artifact lists is called
exported if and only if a lookup of its class, in any state, does not miss it, and so gives the
class or fails on a file that cannot be used; and it is called hidden if and only if the lookup
fails because the class is not exported. Any other entry whose name asks for no service of the
artifact is called exported if and only if it is found as a resource. -/
theorem listing_agrees_with_lookups
    (assembled : manifest.assemble before usual id directory = ⟨files, free, .ok assembly⟩)
    (textNames : ∀ element ∈ assembly.elements, element.HasTextNames files)
    (listed : entry ∈ assembly.entries files) (plain : PlainEntry entry) :
    let report := CommandLine.EntryReport.of assembly.wrapper.exports entry
    (∀ className, ClassName.ofClassFile? entry = some className → ∀ state,
      let answer := (assembly.loader.loadClass files state className).2.answer
      (report.exported = true ↔ ∀ error, answer = .error error → error.isNotFound = false) ∧
      (report.exported = true ↔ (∃ object, answer = .ok object) ∨
        ∃ error, error.Unusable className ∧ answer = .error error) ∧
      (report.exported = false ↔ ∃ name artifact exports,
        answer = .error (.notExported name artifact exports))) ∧
    (ClassName.ofClassFile? entry = none →
      (∀ binding ∈ assembly.wrapper.services.bindings,
        Service.interfaceOf? entry ≠ some binding.interfaceName) →
      (report.exported = true ↔
        (assembly.loader.getResource? files entry).answer.isSome = true)) := by
  obtain ⟨element, member, has⟩ := exists_element_of_listed assembled textNames listed plain
  obtain ⟨elements, bindings, opens, -, rfl⟩ := Manifest.assemble_eq_ok assembled
  constructor
  · intro className named state
    obtain rfl := ClassName.classFile_of_ofClassFile? plain.dotless named
    rw [CommandLine.EntryReport.exported_of, named]
    exact Loader.admitsClass_iff_loadClass _ rfl member has state
  · intro named unbound
    rw [CommandLine.EntryReport.exported_of, named]
    exact Loader.admitsResource_iff_getResource? rfl (Element.opened_of_openClasspath opens) member
      has plain.relative unbound

/-- A directory with a class file, and an archive beside it. -/
def listedFiles : FileTree :=
  let directories := (FileTree.empty.ensureDirectory (.ofString "/d/pub")).1
  let files := do
    let first ← directories.write (.ofString "/d/pub/A.class") ClassFile.magic
    first.write (.ofString "/x.jar") accentedArchive
  files.toOption.getD .empty

/-- An artifact of both, which exports the package of the class and one entry of the archive. -/
def listedManifest : Manifest where
  artifact := "app"
  name := "app"
  classpath := [.ofString "/d", .ofString "/x.jar"]
  packages := ["pub"]
  resources := ["é.txt"]

/-- The files once the directory of the services is there. -/
def listedAfter : FileTree :=
  (listedFiles.ensureDirectory (.ofString "/services")).1

/-- That artifact, assembled. -/
def listedAssembly : Assembly where
  backing := listedManifest.backing ⟨0⟩
    (((listedManifest.openElements listedFiles).toOption).getD [])
  wrapper := listedManifest.wrapper ⟨false⟩ ⟨1⟩ []

private theorem assemble_listedManifest :
    listedManifest.assemble listedFiles ⟨false⟩ ⟨0⟩ (.ofString "/services") =
      ⟨listedAfter, ⟨2⟩, .ok listedAssembly⟩ := by
  have opens := eq_ok_of_isSome
    (by decide +kernel : (listedManifest.openElements listedFiles).toOption.isSome = true) []
  have published : Service.publish listedFiles (.ofString "/services")
      listedManifest.services = (listedAfter, .ok []) :=
    Prod.ext rfl <| eq_ok_of_isSome (by decide +kernel :
      (Service.publish listedFiles (.ofString "/services") []).2.toOption.isSome = true) []
  exact Manifest.assemble_of_publish opens published

private theorem elements_listedAssembly :
    listedAssembly.elements =
      [.directory (Location.path [Utf8.ofString "d"]),
        .archive (.ofString "/x.jar") accentedContent] := by
  decide +kernel

private theorem class_listed : "pub/A.class" ∈ listedAssembly.entries listedAfter := by
  rw [entries, elements_listedAssembly]
  refine List.mem_flatMap.mpr ⟨_, List.mem_cons_self, ?_⟩
  have stands : listedAfter.node? [Utf8.ofString "d"] = some .directory := by
    decide +kernel
  refine (Element.mem_entryNames_directory stands).mpr
    ⟨[Utf8.ofString "pub", Utf8.ofString "A.class"], ClassFile.magic, ?_, ?_⟩
  · decide +kernel
  · decide +kernel

private theorem text_listed : "a.txt" ∈ listedAssembly.entries listedAfter := by
  rw [entries, elements_listedAssembly]
  refine List.mem_flatMap.mpr ⟨_, List.mem_cons_of_mem _ List.mem_cons_self, ?_⟩
  change "a.txt" ∈ accentedContent.fileNames.names
  decide +kernel

private theorem textNames_listedAssembly :
    ∀ element ∈ listedAssembly.elements, element.HasTextNames listedAfter :=
  fun element _ => Element.hasTextNames_of_nodes (by decide +kernel) element

private theorem plainEntry_class : PlainEntry "pub/A.class" where
  relative := by decide
  noUp := by decide +kernel
  dotless := by
    intro stem shape
    rw [← Listing.take_append_fileSuffix stem, ← shape]
    decide

private theorem plainEntry_text : PlainEntry "a.txt" where
  relative := by decide
  noUp := by decide +kernel
  dotless := by
    intro stem shape
    rw [← Listing.take_append_fileSuffix stem, ← shape]
    decide

/-- The class in the directory is exported, and no lookup misses it; the entry of the archive is
hidden, and not found. -/
theorem listedAssembly_agrees :
    "pub/A.class" ∈ listedAssembly.entries listedAfter ∧
      "a.txt" ∈ listedAssembly.entries listedAfter ∧
      (∀ state error, (listedAssembly.loader.loadClass listedAfter state "pub.A").2.answer =
        .error error → error.isNotFound = false) ∧
      (listedAssembly.loader.getResource? listedAfter "a.txt").answer.isSome = false := by
  obtain ⟨classes, -⟩ := listing_agrees_with_lookups assemble_listedManifest
    textNames_listedAssembly class_listed plainEntry_class
  obtain ⟨-, resources⟩ := listing_agrees_with_lookups assemble_listedManifest
    textNames_listedAssembly text_listed plainEntry_text
  refine ⟨class_listed, text_listed, fun state => ?_, Bool.eq_false_iff.mpr fun found => ?_⟩
  · obtain ⟨exported, -, -⟩ := classes "pub.A" (by decide +kernel) state
    exact exported.mp (by decide +kernel)
  · have exported := (resources (by decide +kernel) nofun).mpr found
    revert exported
    decide +kernel

end Assembly

end Isolation
