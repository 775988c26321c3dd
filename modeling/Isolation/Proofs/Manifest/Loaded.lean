import Isolation.Manifest.Load
import Isolation.Proofs.FileTree.Holder
import Isolation.Proofs.Json.Draft
import Isolation.Proofs.Manifest.Written
import Mathlib.Data.List.Nodup
import Mathlib.Data.Set.List

/-!
# What a manifest is loaded as

A manifest that is loaded is the one in the file with its relative paths joined to the directory of
the file, and no two of its paths name one place. A file with the joined paths in it instead of the
relative ones is loaded alike. A path is reported as listed twice exactly when it is the first one,
after joining, that names the place of an earlier one (`Isolation.Manifest.load_joined`).
-/

namespace Isolation.Manifest

open Json

/-- A manifest with its relative paths joined to a directory. -/
def joinedTo (base : Path) (manifest : Manifest) : Manifest :=
  { manifest with
    classpath := manifest.classpath.map fun element =>
      if element.isAbsolute = true then element else base.join element }

/-- Whether a path is the first of a list that names the place of an earlier one. -/
def FirstRepeated (paths : List Path) (repeated : Path) : Prop :=
  ∃ before after, paths = before ++ repeated :: after ∧
    repeated.components ∈ before.map Path.components ∧ (before.map Path.components).Nodup

section Repeated

variable {seen paths : List Path} {path : Path}

private theorem any_samePlace_iff :
    seen.any path.samePlace = true ↔ path.components ∈ seen.map Path.components := by
  rw [List.any_eq_true, List.mem_map]
  exact exists_congr fun other => and_congr_right fun _ => beq_iff_eq.trans eq_comm

private theorem firstRepeated?_cons_of_mem (again : path.components ∈ seen.map Path.components) :
    firstRepeated? seen (path :: paths) = some path :=
  if_pos (any_samePlace_iff.mpr again)

private theorem firstRepeated?_cons_of_notMem (fresh : path.components ∉ seen.map Path.components) :
    firstRepeated? seen (path :: paths) = firstRepeated? (seen ++ [path]) paths :=
  if_neg fun met => fresh (any_samePlace_iff.mp met)

private theorem nodup_map_concat (apart : (seen.map Path.components).Nodup)
    (fresh : path.components ∉ seen.map Path.components) :
    ((seen ++ [path]).map Path.components).Nodup := by
  rw [List.map_append, List.map_singleton, ← List.concat_eq_append]
  exact apart.concat fresh

/-- A path that names the place of an earlier one cannot follow without being a repetition. -/
theorem not_nodup_of_mem (again : path.components ∈ seen.map Path.components) :
    ¬((seen ++ path :: paths).map Path.components).Nodup := by
  rw [List.map_append]
  intro apart
  exact List.disjoint_of_nodup_append apart again (List.mem_map_of_mem List.mem_cons_self)

private theorem firstRepeated?_eq_none_iff (apart : (seen.map Path.components).Nodup) :
    firstRepeated? seen paths = none ↔ ((seen ++ paths).map Path.components).Nodup := by
  induction paths generalizing seen with
  | nil =>
    rw [List.append_nil]
    exact iff_of_true rfl apart
  | cons path paths ih =>
    by_cases again : path.components ∈ seen.map Path.components
    · rw [firstRepeated?_cons_of_mem again]
      exact iff_of_false nofun (not_nodup_of_mem again)
    · rw [firstRepeated?_cons_of_notMem again, ih (nodup_map_concat apart again),
        ← List.append_cons]

private theorem firstRepeated?_eq_some_iff (apart : (seen.map Path.components).Nodup)
    {repeated : Path} :
    firstRepeated? seen paths = some repeated ↔
      ∃ before after, paths = before ++ repeated :: after ∧
        repeated.components ∈ (seen ++ before).map Path.components ∧
        ((seen ++ before).map Path.components).Nodup := by
  induction paths generalizing seen with
  | nil => exact iff_of_false nofun fun ⟨before, after, shape, _⟩ => by cases before <;> cases shape
  | cons path paths ih =>
    by_cases again : path.components ∈ seen.map Path.components
    · rw [firstRepeated?_cons_of_mem again, Option.some.injEq]
      constructor
      · rintro rfl
        rw [← List.append_nil seen] at again apart
        exact ⟨[], paths, rfl, again, apart⟩
      · rintro ⟨before, after, shape, -, distinct⟩
        cases before with
        | nil => exact (List.cons.inj shape).1
        | cons first before =>
          obtain ⟨rfl, -⟩ := List.cons.inj shape
          exact absurd distinct (not_nodup_of_mem again)
    · rw [firstRepeated?_cons_of_notMem again, ih (nodup_map_concat apart again)]
      constructor
      · rintro ⟨before, after, rfl, met, distinct⟩
        rw [← List.append_cons] at met distinct
        exact ⟨path :: before, after, rfl, met, distinct⟩
      · rintro ⟨before, after, shape, met, distinct⟩
        cases before with
        | nil =>
          obtain ⟨rfl, -⟩ := List.cons.inj shape
          rw [List.append_nil] at met
          exact absurd met again
        | cons first before =>
          obtain ⟨rfl, rfl⟩ := List.cons.inj shape
          rw [List.append_cons] at met distinct
          exact ⟨before, after, rfl, met, distinct⟩

end Repeated

section Checks

variable {manifest : Manifest}

/-- When a path is reported as listed twice. -/
theorem validate_eq_repeated_iff {repeated : Path} :
    manifest.validate = .error (.repeatedElement repeated) ↔
      Text.isAllBlank manifest.artifact = false ∧ Text.isAllBlank manifest.name = false ∧
        FirstRepeated manifest.classpath repeated := by
  have found : firstRepeated? [] manifest.classpath = some repeated ↔
      FirstRepeated manifest.classpath repeated :=
    @firstRepeated?_eq_some_iff [] _ List.nodup_nil repeated
  rw [← found]
  unfold validate
  cases blankArtifact : Text.isAllBlank manifest.artifact with
  | true => simp
  | false =>
    cases blankName : Text.isAllBlank manifest.name with
    | true => simp
    | false =>
      by_cases empty : manifest.classpath = []
      · simp [empty, firstRepeated?]
      · cases first : firstRepeated? [] manifest.classpath with
        | some path => simp [empty]
        | none => cases manifest.packages.find? isBadPackage <;> simp [empty]

/-- No two paths of a valid manifest name one place. -/
theorem nodup_of_validate (valid : manifest.validate = .ok ()) :
    (manifest.classpath.map Path.components).Nodup := by
  cases first : firstRepeated? [] manifest.classpath with
  | none => exact (@firstRepeated?_eq_none_iff [] _ List.nodup_nil).mp first
  | some path =>
    unfold validate at valid
    rw [first] at valid
    grind

end Checks

section Joining

variable {base : Path}

private theorem resolveAgainst_eq_joinedTo (base : Path) (manifest : Manifest) :
    manifest.resolveAgainst base = manifest.joinedTo base := by
  have same : (fun element => if element.isAbsolute = true then element else base.join element) =
      base.join := by
    funext element
    by_cases absolute : element.isAbsolute = true
    · rw [if_pos absolute, Path.join, if_pos absolute]
    · rw [if_neg absolute]
  rw [joinedTo, same]
  rfl

/-- After joining to an absolute directory nothing is left to join. -/
theorem joinedTo_joinedTo (absolute : base.isAbsolute = true) (manifest : Manifest) :
    (manifest.joinedTo base).joinedTo base = manifest.joinedTo base := by
  rw [← resolveAgainst_eq_joinedTo, ← resolveAgainst_eq_joinedTo]
  unfold resolveAgainst
  rw [List.map_map]
  exact congrArg (fun classpath => { manifest with classpath })
    (List.map_congr_left fun element _ => Path.join_join absolute element)

end Joining

section Loading

variable {files : FileTree} {path base : Path} {text : String} {written : Manifest}

/-- A manifest is joined to the directory of its file, and then checked. -/
theorem load_of_parsed (isParent : path.parent? = some base)
    (readable : readText files path = .ok text) (parsed : readAll read text = .ok written) :
    load files path =
      match (written.joinedTo base).validate with
      | .ok () => .ok (written.joinedTo base)
      | .error fault => .error (.manifest fault) := by
  unfold load
  rw [readable, isParent]
  change ((readAll read text).mapError AssemblyError.document >>= _) = _
  rw [parsed, ← resolveAgainst_eq_joinedTo]
  change ((written.resolveAgainst base).validate.mapError AssemblyError.manifest >>= _) = _
  cases (written.resolveAgainst base).validate <;> rfl

private theorem load_of_unparsed (readable : readText files path = .ok text) {error : ReadError}
    (refused : readAll read text = .error error) :
    load files path = .error (.document error) := by
  unfold load
  rw [readable]
  change ((readAll read text).mapError AssemblyError.document >>= _) = _
  rw [refused]
  rfl

/-- What is loaded, if something is. -/
theorem load_eq_ok_iff (isParent : path.parent? = some base)
    (readable : readText files path = .ok text) {loaded : Manifest} :
    load files path = .ok loaded ↔
      ∃ written, readAll read text = .ok written ∧ loaded = written.joinedTo base ∧
        loaded.validate = .ok () := by
  cases parsed : readAll read text with
  | error error => simp [load_of_unparsed readable parsed]
  | ok written =>
    rw [load_of_parsed isParent readable parsed]
    cases checked : (written.joinedTo base).validate with
    | error fault => simp +contextual [checked]
    | ok fine => simp +contextual [checked, eq_comm]

/-- Faults are found in what is to be loaded. -/
theorem load_eq_fault_iff (isParent : path.parent? = some base)
    (readable : readText files path = .ok text) {fault : ManifestFault} :
    load files path = .error (.manifest fault) ↔
      ∃ written, readAll read text = .ok written ∧
        (written.joinedTo base).validate = .error fault := by
  cases parsed : readAll read text with
  | error error => simp [load_of_unparsed readable parsed]
  | ok written =>
    rw [load_of_parsed isParent readable parsed]
    cases checked : (written.joinedTo base).validate <;> simp [checked]

/-- Whichever field is read into a draft, its paths stay texts. -/
theorem keeps_ofString {field : Member Draft} (known : field ∈ fields) :
    field.Keeps fun draft =>
      ∀ element ∈ draft.manifest.classpath, ∃ spelled, element = Path.ofString spelled := by
  have anything {α : Type} (read : Reader α) : Yields read fun _ => True := fun _ _ _ _ => trivial
  revert field
  simp only [fields, List.forall_mem_cons, List.not_mem_nil, false_implies, implies_true, and_true]
  refine ⟨?_, ?_, ?_, ?_, ?_, ?_, ?_, ?_, ?_⟩
  case refine_4 =>
    exact Member.keeps_of yields_readPath.list (fun _ _ spelled _ => spelled) _ _ _
  all_goals
    refine Member.keeps_of (anything _) ?_ _ _ _
    exact fun _ _ _ before => before

/-- The paths of a manifest that is read are texts. -/
theorem exists_ofString_of_parsed (parsed : readAll read text = .ok written) :
    ∀ element ∈ written.classpath, ∃ spelled, element = Path.ofString spelled := by
  obtain ⟨⟨manifest, rest⟩, taken, parsed⟩ := exists_of_bind_eq_ok parsed
  obtain ⟨⟨draft, more⟩, filled, made⟩ := exists_of_bind_eq_ok taken
  obtain ⟨rfl, -⟩ := Prod.mk.inj (Except.ok.inj made)
  simp only at parsed
  split at parsed
  · obtain rfl := Except.ok.inj parsed
    exact yields_readDraft (fun field known => keeps_ofString known) _
      (fun element member => absurd member List.not_mem_nil) filled
  · cases parsed

/-- Whether a document can give the joined paths: they must be texts. -/
theorem exists_parsed_joinedTo_iff (parsed : readAll read text = .ok written) :
    (∃ other, readAll read other = .ok (written.joinedTo base)) ↔
      ∀ element ∈ written.classpath, element.isAbsolute = false →
        ∃ spelled, base.join element = .ofString spelled := by
  constructor
  · rintro ⟨other, joined⟩ element member relative
    refine exists_ofString_of_parsed joined _ (List.mem_map.mpr ⟨element, member, ?_⟩)
    exact if_neg (Bool.eq_false_iff.mp relative)
  · intro spelled
    have texts : (written.joinedTo base).classpath ∈ Set.range (List.map Path.ofString) := by
      rw [Set.range_list_map]
      refine List.forall_mem_map.mpr fun element member => ?_
      by_cases absolute : element.isAbsolute = true
      · rw [if_pos absolute]
        exact (exists_ofString_of_parsed parsed element member).imp fun _ => Eq.symm
      · rw [if_neg absolute]
        exact (spelled element member (Bool.eq_false_iff.mpr absolute)).imp fun _ => Eq.symm
    obtain ⟨texts, shape⟩ := texts
    obtain ⟨document, -, reads⟩ := reads_toJson? shape.symm
    exact ⟨document.compact, reads.readAll⟩

/-- **A manifest is loaded with its relative paths joined to the directory of the file, and checked
after that.** Whatever is loaded is the manifest of the document but for the joined paths, is valid,
and has no two paths with the same components. A document with the joined paths is loaded as the one
with the relative paths is, and there is such a document whenever the joined paths are texts. A path
is reported as listed twice when it is the first that has the components of an earlier one and the
texts that are checked before are not blank. -/
theorem load_joined (absolute : path.isAbsolute = true)
    (readable : readText files path = .ok text) :
    ∃ base, path.parent? = some base ∧
      (∃ directory name, files.resolve base = .ok directory ∧
        files.resolve path = .ok (directory ++ [name])) ∧
      (∀ loaded, load files path = .ok loaded →
        ∃ written, readAll read text = .ok written ∧ loaded = written.joinedTo base ∧
          (loaded.classpath.map Path.components).Nodup ∧ loaded.validate = .ok ()) ∧
      (∀ written, readAll read text = .ok written →
        (∀ others other, readText others path = .ok other →
          readAll read other = .ok (written.joinedTo base) →
            load others path = load files path) ∧
        ((∃ other, readAll read other = .ok (written.joinedTo base)) ↔
          ∀ element ∈ written.classpath, element.isAbsolute = false →
            ∃ spelled, base.join element = .ofString spelled)) ∧
      ∀ repeated, load files path = .error (.manifest (.repeatedElement repeated)) ↔
        ∃ written, readAll read text = .ok written ∧
          Text.isAllBlank written.artifact = false ∧ Text.isAllBlank written.name = false ∧
            FirstRepeated (written.joinedTo base).classpath repeated := by
  obtain ⟨content, read⟩ : ∃ content, files.read path = .ok content :=
    (exists_of_bind_eq_ok readable).imp fun _ given => given.1
  obtain ⟨base, directory, name, isParent, rooted, above, leads⟩ :=
    FileTree.exists_parent_of_read absolute read
  refine ⟨base, isParent, ⟨directory, name, above, leads⟩, ?_, ?_, ?_⟩
  · intro loaded given
    obtain ⟨written, parsed, joined, valid⟩ := (load_eq_ok_iff isParent readable).mp given
    exact ⟨written, parsed, joined, nodup_of_validate valid, valid⟩
  · intro written parsed
    refine ⟨fun others other readOther parsedOther => ?_, exists_parsed_joinedTo_iff parsed⟩
    rw [load_of_parsed isParent readOther parsedOther, load_of_parsed isParent readable parsed,
      joinedTo_joinedTo rooted]
  · intro repeated
    rw [load_eq_fault_iff isParent readable]
    exact exists_congr fun written => and_congr_right fun _ => validate_eq_repeated_iff

/-- A manifest whose two paths are spelled differently, as a list of its fields. -/
def spelledTwice : String :=
  "[\"plugin\",\"app\",null,[\"lib/./x.jar\",\"/app//lib/x.jar\"]]"

/-- A directory that holds that manifest. -/
def spelledTwiceFiles : FileTree :=
  let directories := (FileTree.empty.ensureDirectory (.ofString "/app")).1
  ((directories.write (.ofString "/app/plugin.json") (Utf8.ofString spelledTwice)).toOption).getD
    .empty

/-- The two paths name one place after joining, and the second is reported as it is spelled. -/
theorem spelledTwice_is_reported :
    (Path.ofString "/app/plugin.json").isAbsolute = true ∧
      readText spelledTwiceFiles (.ofString "/app/plugin.json") = .ok spelledTwice ∧
      load spelledTwiceFiles (.ofString "/app/plugin.json") =
        .error (.manifest (.repeatedElement (.ofString "/app//lib/x.jar"))) := by
  have readable : readText spelledTwiceFiles (.ofString "/app/plugin.json") = .ok spelledTwice := by
    decide +kernel
  have isParent : (Path.ofString "/app/plugin.json").parent? = some (.ofString "/app") := by
    decide +kernel
  have parsed : readAll read spelledTwice = .ok
      { artifact := "plugin", name := "app",
        classpath := [.ofString "lib/./x.jar", .ofString "/app//lib/x.jar"] } := by
    decide +kernel
  obtain ⟨base, above, -, -, -, reported⟩ := load_joined (by decide +kernel) readable
  obtain rfl := Option.some.inj (isParent.symm.trans above)
  exact ⟨by decide +kernel, readable, (reported _).mpr ⟨_, parsed, by decide +kernel,
    by decide +kernel, [.ofString "/app/lib/./x.jar"], [], by decide +kernel, by decide +kernel,
    List.nodup_singleton _⟩⟩

end Loading

end Isolation.Manifest
