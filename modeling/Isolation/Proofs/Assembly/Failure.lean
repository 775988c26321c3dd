import Isolation.Proofs.Loader.ResourceIsolation
import Isolation.Proofs.Service.Publish

/-!
# What a failed assembly leaves behind

An artifact is assembled in three phases: its manifest is checked, its classpath is opened, and the
descriptors of its services are written. Each phase fails in its own way
(`Isolation.Manifest.Fails`), and only the last one writes. So an assembly that fails leaves the
files as they were, unless it is the file system that failed the writing
(`Isolation.Manifest.failed_assembly_leaves_no_trace`).
-/

namespace Isolation

namespace Manifest

/-- How an assembly fails, with the files that it leaves. -/
inductive Fails (manifest : Manifest) (files : FileTree) (directory : Path) :
    FileTree → AssemblyError → Prop
  | invalid {fault : ManifestFault} (faulty : manifest.validate = .error fault) :
      Fails manifest files directory files (.manifest fault)
  | unopened {reason : FileError} (valid : manifest.validate = .ok ())
      (failed : openClasspath files manifest.classpath = .error reason) :
      Fails manifest files directory files (.loading (.file reason))
  | unwritten {elements : List Classpath.Element} {after : FileTree} {reason : FileError}
      (opened : manifest.openElements files = .ok elements)
      (failed : Service.publish files directory manifest.services =
        (after, .error (.file reason))) :
      Fails manifest files directory after (.file reason)

variable {manifest : Manifest} {files after : FileTree} {usual : Verbosity} {id free : LoaderId}
  {directory : Path} {error : AssemblyError}

/-- Checking a manifest and opening its classpath fail in one of two ways. -/
theorem fails_of_openElements (failed : manifest.openElements files = .error error) :
    manifest.Fails files directory files error := by
  unfold openElements at failed
  cases valid : manifest.validate with
  | error fault =>
    rw [valid] at failed
    obtain rfl := Except.error.inj failed
    exact .invalid valid
  | ok checks =>
    cases opened : openClasspath files manifest.classpath with
    | error reason =>
      rw [valid, opened] at failed
      obtain rfl := Except.error.inj failed
      exact .unopened valid opened
    | ok elements =>
      rw [valid, opened] at failed
      exact nomatch failed

/-- **An assembly fails in one of three ways.** -/
theorem fails_of_assemble
    (failed : manifest.assemble files usual id directory = ⟨after, free, .error error⟩) :
    manifest.Fails files directory after error := by
  unfold assemble at failed
  cases opened : manifest.openElements files with
  | error other =>
    rw [opened] at failed
    obtain ⟨rfl, -, same⟩ := Attempt.mk.inj failed
    obtain rfl := Except.error.inj same
    exact fails_of_openElements opened
  | ok elements =>
    rw [opened] at failed
    simp only at failed
    split at failed
    · rename_i written
      obtain ⟨rfl, -, same⟩ := Attempt.mk.inj failed
      obtain rfl := Except.error.inj same
      obtain ⟨reason, rfl⟩ := Service.eq_file_of_publish written
      exact .unwritten opened written
    · exact nomatch failed

/-- That a path has no locator is no fault of a manifest. -/
theorem validate_ne_noLocator (manifest : Manifest) (path : Path) :
    manifest.validate ≠ .error (.noLocator path) := by
  unfold validate
  split
  · exact nofun
  · split
    · exact nofun
    · split
      · exact nofun
      · split
        · exact nofun
        · split
          · exact nofun
          · exact nofun

/-- **A failed assembly leaves no trace, unless the writing itself has failed.** When the manifest
is not valid, or an element of the classpath cannot be opened, the files are as they were. If they
may differ, then the manifest was valid, the whole classpath was open, and the file system has
failed the writing of the descriptors; no other failure comes from there, for every descriptor has
a locator and every interface can be bound. -/
theorem failed_assembly_leaves_no_trace
    (failed : manifest.assemble files usual id directory = ⟨after, free, .error error⟩) :
    ((∃ fault, error = .manifest fault) ∨ (∃ failure, error = .loading failure) → after = files) ∧
      (after ≠ files → ∃ reason elements, error = .file reason ∧
        manifest.openElements files = .ok elements ∧
          Service.publish files directory manifest.services = (after, .error (.file reason))) ∧
      (∀ path, error ≠ .manifest (.noLocator path)) ∧
      ∀ rejection, error ≠ .loading (.rejected rejection) := by
  cases fails_of_assemble failed with
  | @invalid fault faulty =>
    refine ⟨fun _ => rfl, fun differs => absurd rfl differs, ?_, fun _ => nofun⟩
    intro path same
    rw [AssemblyError.manifest.inj same] at faulty
    exact manifest.validate_ne_noLocator path faulty
  | unopened =>
    exact ⟨fun _ => rfl, fun differs => absurd rfl differs, fun _ => nofun, fun _ => nofun⟩
  | unwritten opened unwritten =>
    refine ⟨?_, fun _ => ⟨_, _, rfl, opened, unwritten⟩, fun _ => nofun, fun _ => nofun⟩
    rintro (⟨fault, same⟩ | ⟨failure, same⟩)
    · cases same
    · cases same

/-- An artifact of a directory, and of a second element that is not there. -/
def halfMissing : Manifest where
  artifact := "app"
  name := "app"
  classpath := [.ofString "/d", .ofString "/missing.jar"]

/-- An artifact of that directory alone, with two services. -/
def twoServices : Manifest where
  artifact := "app"
  name := "app"
  classpath := [.ofString "/d"]
  services := [⟨"Codec", "Fast", by decide, by decide, by decide⟩,
    ⟨"Codec", "Small", by decide, by decide, by decide⟩]

/-- Files among which one stands where the second service has its directory. -/
def blockedFiles : FileTree :=
  let directories := (Loader.publicFiles.ensureDirectory (.ofString "/services")).1
  ((directories.write (.ofString "/services/1") []).toOption).getD .empty

/-- An element that is missing leaves the files alone, though the first one could be opened; a file
in the way of the second descriptor leaves the first one behind. -/
theorem blockedFiles_keep_first_descriptor :
    (∃ after free failure,
        halfMissing.assemble blockedFiles ⟨false⟩ ⟨0⟩ (.ofString "/new") =
          ⟨after, free, .error (.loading failure)⟩ ∧ after = blockedFiles) ∧
      ∃ after free error,
        twoServices.assemble blockedFiles ⟨false⟩ ⟨0⟩ (.ofString "/services") =
          ⟨after, free, .error error⟩ ∧ after ≠ blockedFiles ∧ ∃ reason, error = .file reason := by
  constructor
  · have unopened : halfMissing.openElements blockedFiles = .error (.loading (.file .missing)) := by
      decide +kernel
    have failed : halfMissing.assemble blockedFiles ⟨false⟩ ⟨0⟩ (.ofString "/new") =
        ⟨blockedFiles, ⟨0⟩, .error (.loading (.file .missing))⟩ := by
      unfold assemble
      rw [unopened]
    refine ⟨_, _, _, failed, ?_⟩
    exact (failed_assembly_leaves_no_trace failed).1 (.inr ⟨_, rfl⟩)
  · have opened : twoServices.openElements blockedFiles = .ok Loader.publicElements := by
      decide +kernel
    have stops : (Service.publish blockedFiles (.ofString "/services")
        twoServices.services).2.toOption.isSome = false := by
      decide +kernel
    have first : (Service.publish blockedFiles (.ofString "/services") twoServices.services).1.node?
        (["services", "0", "META-INF", "services", "Codec"].map Utf8.ofString) ≠
          blockedFiles.node?
            (["services", "0", "META-INF", "services", "Codec"].map Utf8.ofString) := by
      decide +kernel
    generalize published : Service.publish blockedFiles (.ofString "/services")
      twoServices.services = outcome at stops first
    obtain ⟨after, error | bindings⟩ := outcome
    · have failed : twoServices.assemble blockedFiles ⟨false⟩ ⟨0⟩ (.ofString "/services") =
          ⟨after, ⟨1⟩, .error error⟩ := by
        unfold assemble
        rw [opened]
        simp only [published]
        rfl
      have differs : after ≠ blockedFiles := fun same => first (by rw [same])
      obtain ⟨reason, -, rfl, -⟩ := (failed_assembly_leaves_no_trace failed).2.1 differs
      exact ⟨_, _, _, failed, differs, reason, rfl⟩
    · cases stops

end Manifest

end Isolation
