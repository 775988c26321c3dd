import Isolation.Proofs.CommandLine.Log
import Isolation.Proofs.Service.Confined

/-!
# The directory for the descriptors of an artifact

Unless another directory is asked for, a run keeps the descriptors of an artifact in a directory
that is named after the artifact, next to those of all other artifacts. Whatever stands in the name
of an artifact, this directory is a child of the one for all artifacts, and but for its log a run
writes below it and nowhere else (`Isolation.CommandLine.descriptors_stay_below`). There are two
names that the replacement of characters leaves as they are, though they name no child: `.` and `..`
(`Isolation.CommandLine.exists_descriptor_beside`).
-/

namespace Isolation

namespace Service

variable {files after : FileTree} {place : Location}

/-- An altered place lies below the directory that the descriptors are written in, if that directory
stood before. -/
theorem Alters.liesBelow {base : Location} {position : Nat} {service : Declaration}
    (proper : base.Proper) (stands : (files.node? base).isSome)
    (alters : Alters files after (descriptorPath (Location.path base) position service) service
      place) : base.LiesBelow place := by
  rw [descriptorPath_eq proper] at alters
  have properPlace := proper_descriptorLocation proper position service
  rcases alters with makes | ⟨-, -, leads⟩
  · exact makes.liesBelow properPlace stands (List.prefix_append base _)
  · have here := FileTree.eq_steps_of_resolve (Path.isAbsolute_path _)
      (Path.downward_path properPlace) leads
    rw [here, Path.steps_path properPlace]
    exact Location.liesBelow_append base (List.cons_ne_nil _ _)

/-- Publishing takes nothing away, also if it fails. -/
theorem extends_publish (files : FileTree) (directory : Path) (services : List Declaration) :
    files.Extends (publish files directory services).1 := by
  have made := FileTree.extends_ensureDirectory files directory
  generalize published : publish files directory services = outcome
  obtain ⟨after, result⟩ := outcome
  rcases publish_cases published with ⟨error, -, rfl⟩ | ⟨base, -, -, written⟩
  · exact made
  · have onward := extends_writeDescriptors (files.ensureDirectory directory).1
      (Location.path base) 0 services
    rw [written] at onward
    exact made.trans onward

/-- **Whatever publishing changes** is a directory made on the way to the one that it publishes in,
or lies below that one. -/
theorem makes_or_liesBelow_of_publish {directory : Path} {services : List Declaration}
    {result : Except AssemblyError (List Binding)}
    (published : publish files directory services = (after, result))
    (changed : after.node? place ≠ files.node? place) :
    files.Makes after directory place ∨
      ∃ base : Location, after.resolve directory = .ok base ∧ base.LiesBelow place := by
  obtain ⟨-, same_or_makes⟩ := FileTree.makesOnly_ensureDirectory files directory
  rcases publish_cases published with ⟨error, rfl, rfl⟩ | ⟨base, proper, followed, written⟩
  · exact .inl ((same_or_makes place).resolve_left changed)
  · have onward := extends_writeDescriptors (files.ensureDirectory directory).1
      (Location.path base) 0 services
    rw [written] at onward
    obtain ⟨resolved, stands⟩ := FileTree.resolve_of_canonical proper followed
    rcases same_or_alters_writeDescriptors proper written place with
      same | ⟨k, service, -, alters⟩
    · rw [same] at changed
      exact .inl (((same_or_makes place).resolve_left changed).later onward)
    · exact .inr ⟨base, onward.resolve resolved, alters.liesBelow proper stands⟩

end Service

/-- What is published when an artifact is assembled, if anything is. -/
theorem Manifest.files_assemble (files : FileTree) (usual : Verbosity) (id : LoaderId)
    (manifest : Manifest) (directory : Path) :
    (manifest.assemble files usual id directory).files = files ∨
      (manifest.assemble files usual id directory).files =
        (Service.publish files directory manifest.services).1 := by
  unfold assemble
  split
  · exact .inl rfl
  · split
    · rename_i published
      rw [published]
      exact .inr rfl
    · rename_i published
      rw [published]
      exact .inr rfl

namespace CommandLine

/-- The name of the directory for the descriptors of an artifact. -/
def directoryName (artifact : String) : String :=
  .ofList (artifact.toList.map directoryChar)

/-- The directory that has the directories for the descriptors of all artifacts. -/
def Surroundings.serviceRoot (surroundings : Surroundings) : Path :=
  surroundings.stateDirectory.child "services"

private theorem Surroundings.serviceDirectory_eq_child (surroundings : Surroundings)
    (artifact : String) :
    surroundings.serviceDirectory artifact =
      surroundings.serviceRoot.child (directoryName artifact) :=
  rfl

private theorem Surroundings.open_serviceRoot (surroundings : Surroundings) :
    surroundings.serviceRoot.Open :=
  Path.open_child _ (by decide) (by decide)

section Names

variable {artifact : String}

private theorem directoryChar_ne_slash (c : Char) : directoryChar c ≠ '/' := by
  unfold directoryChar
  split
  · rename_i kept
    rintro rfl
    exact absurd kept (by decide)
  · decide

private theorem directoryChar_eq_dot_iff {c : Char} : directoryChar c = '.' ↔ c = '.' := by
  constructor
  · unfold directoryChar
    split
    · exact id
    · exact fun same => absurd same (by decide)
  · rintro rfl
    decide

private theorem map_directoryChar_eq_replicate_iff {text : List Char} {count : Nat} :
    text.map directoryChar = List.replicate count '.' ↔ text = List.replicate count '.' := by
  rw [List.eq_replicate_iff, List.eq_replicate_iff, List.length_map, List.forall_mem_map]
  simp only [directoryChar_eq_dot_iff]

/-- No slash is left in the name of a directory. -/
theorem slash_notMem_directoryName (artifact : String) :
    Path.slash ∉ Utf8.ofString (directoryName artifact) := by
  apply Utf8.slash_notMem_encode
  rw [directoryName, String.toList_ofList]
  intro slash
  obtain ⟨c, -, same⟩ := List.mem_map.mp slash
  exact directoryChar_ne_slash c same

/-- A name of dots alone comes from no other name. -/
theorem directoryName_eq_dots_iff {count : Nat} :
    directoryName artifact = .ofList (List.replicate count '.') ↔
      artifact = .ofList (List.replicate count '.') := by
  rw [← String.toList_inj, ← String.toList_inj, directoryName, String.toList_ofList,
    String.toList_ofList]
  exact map_directoryChar_eq_replicate_iff

/-- The name of a directory is one step of a path, unless that of the artifact is empty or one of
the names of dots. -/
theorem proper_directoryName (nonempty : artifact ≠ "") (noDot : artifact ≠ ".")
    (notUp : artifact ≠ "..") : FileName.Proper (Utf8.ofString (directoryName artifact)) := by
  have differs : ∀ count, artifact ≠ .ofList (List.replicate count '.') →
      Utf8.ofString (directoryName artifact) ≠ Utf8.encode (List.replicate count '.') := by
    intro count apart same
    refine apart (directoryName_eq_dots_iff.mp (String.toList_inj.mp ?_))
    rw [String.toList_ofList]
    exact Utf8.encode_injective same
  exact ⟨differs 0 nonempty, differs 1 noDot, differs 2 notUp, slash_notMem_directoryName artifact⟩

end Names

namespace Surroundings

variable (surroundings : Surroundings)

private theorem normalized_serviceRoot :
    surroundings.serviceRoot.normalized =
      surroundings.stateDirectory.normalized ++ [.name (Utf8.ofString "services")] :=
  Path.normalized_child_of_proper (Path.open_child _ (by decide) (by decide))
    (Utf8.proper_ofString (by decide) (by decide) (by decide) (by decide))

/-- The directory of an artifact whose name is a dot is that of all artifacts. -/
theorem normalized_dot :
    (surroundings.serviceDirectory ".").normalized = surroundings.serviceRoot.normalized :=
  Path.normalized_child surroundings.open_serviceRoot (slash_notMem_directoryName ".")

/-- The directory of an artifact whose name is two dots is above that of all artifacts. -/
theorem normalized_up :
    (surroundings.serviceDirectory "..").normalized = surroundings.stateDirectory.normalized := by
  have here := Path.normalized_child surroundings.open_serviceRoot (slash_notMem_directoryName "..")
  have goesUp : (Path.Component.ofPart? (Utf8.ofString (directoryName ".."))).toList = [.up] := by
    decide
  rw [goesUp, normalized_serviceRoot] at here
  rw [serviceDirectory_eq_child, here, List.foldl_cons, List.foldl_nil, Path.Component.settle,
    List.getLast?_concat]
  exact List.dropLast_concat

/-- The directory of any other artifact is a child of that. -/
theorem normalized_serviceDirectory {artifact : String} (nonempty : artifact ≠ "")
    (noDot : artifact ≠ ".") (notUp : artifact ≠ "..") :
    (surroundings.serviceDirectory artifact).normalized =
      surroundings.serviceRoot.normalized ++ [.name (Utf8.ofString (directoryName artifact))] :=
  Path.normalized_child_of_proper surroundings.open_serviceRoot
    (proper_directoryName nonempty noDot notUp)

end Surroundings

/-- An artifact of a valid manifest has a name. -/
theorem artifact_ne_empty {manifest : Manifest} (valid : manifest.validate = .ok ()) :
    manifest.artifact ≠ "" := by
  intro empty
  rw [Manifest.validate, empty, if_pos (by decide)] at valid
  cases valid

/-- The directory of an artifact is a child of that of all artifacts, unless the name of the
artifact is one of dots. -/
theorem exists_child_iff (surroundings : Surroundings) {artifact : String}
    (nonempty : artifact ≠ "") :
    (∃ name, (surroundings.serviceDirectory artifact).normalized =
        surroundings.serviceRoot.normalized ++ [.name name]) ↔
      artifact ≠ "." ∧ artifact ≠ ".." := by
  constructor
  · rintro ⟨name, child⟩
    refine ⟨?_, ?_⟩
    · rintro rfl
      rw [surroundings.normalized_dot] at child
      exact nomatch List.append_right_eq_self.mp child.symm
    · rintro rfl
      rw [surroundings.normalized_up, surroundings.normalized_serviceRoot] at child
      have longer := congrArg List.length child
      simp only [List.length_append, List.length_singleton] at longer
      omega
  · rintro ⟨noDot, notUp⟩
    exact ⟨_, surroundings.normalized_serviceDirectory nonempty noDot notUp⟩

private theorem run_eq {surroundings : Surroundings} {files : FileTree} {arguments : List String}
    {request : Request} {log : Log} (asked : Request.ofArguments arguments = .ok request) :
    run surroundings files arguments log = request.run surroundings files log := by
  rw [run, asked]

section Run

variable {surroundings : Surroundings} {files : FileTree} {request : Request} {manifest : Manifest}
  {log : Log} {place : Location}

/-- A request leaves the files that assembling the artifact leaves. -/
theorem Request.files_carryOut
    (loaded : Manifest.load files request.manifestPath = .ok manifest) :
    (request.carryOut surroundings files).files =
      (manifest.assemble files (.ofVariable surroundings.verbose) ⟨1⟩
        (request.serviceDirectory surroundings manifest)).files := by
  unfold carryOut
  simp only [loaded]
  split
  · rfl
  · unfold ask
    simp only
    split
    · rfl
    · rfl

/-- Carrying a request out takes nothing away. -/
theorem Request.extends_carryOut
    (loaded : Manifest.load files request.manifestPath = .ok manifest) :
    files.Extends (request.carryOut surroundings files).files := by
  rw [files_carryOut loaded]
  rcases manifest.files_assemble files (.ofVariable surroundings.verbose) ⟨1⟩
    (request.serviceDirectory surroundings manifest) with unwritten | published
  · rw [unwritten]
    exact .refl files
  · rw [published]
    exact Service.extends_publish _ _ _

/-- Whatever carrying a request out changes is a directory made on the way to the one for
descriptors, or lies below that one. -/
theorem Request.makes_or_liesBelow_of_carryOut
    (loaded : Manifest.load files request.manifestPath = .ok manifest)
    (changed : (request.carryOut surroundings files).files.node? place ≠ files.node? place) :
    files.Makes (request.carryOut surroundings files).files
        (request.serviceDirectory surroundings manifest) place ∨
      ∃ base : Location, (request.carryOut surroundings files).files.resolve
          (request.serviceDirectory surroundings manifest) = .ok base ∧ base.LiesBelow place := by
  rw [files_carryOut loaded] at changed ⊢
  rcases manifest.files_assemble files (.ofVariable surroundings.verbose) ⟨1⟩
    (request.serviceDirectory surroundings manifest) with unwritten | published
  · rw [unwritten] at changed
    exact absurd rfl changed
  · rw [published] at changed ⊢
    exact Service.makes_or_liesBelow_of_publish rfl changed

/-- A run leaves what carrying its request out leaves, with the lines in its log. -/
theorem Request.files_run (request : Request) (surroundings : Surroundings) (files : FileTree)
    (log : Log) :
    (request.run surroundings files log).files =
      surroundings.writeLog
        (request.carryOut surroundings (surroundings.openLog files log.day)).files log.day
        (log.lines
          (request.carryOut surroundings (surroundings.openLog files log.day)).events) := by
  rw [run]

/-- **Whatever a run changes** is its log, a directory made on the way to the one for logs or to the
one for descriptors, or lies below the one for descriptors. -/
theorem Request.makes_or_liesBelow_of_run
    (loaded : Manifest.load (surroundings.openLog files log.day) request.manifestPath =
      .ok manifest)
    (changed : (request.run surroundings files log).files.node? place ≠ files.node? place) :
    surroundings.IsLogAt (request.run surroundings files log).files log.day place ∨
      files.Makes (request.run surroundings files log).files surroundings.logDirectory place ∨
      files.Makes (request.run surroundings files log).files
        (request.serviceDirectory surroundings manifest) place ∨
      ∃ base : Location, (request.run surroundings files log).files.resolve
          (request.serviceDirectory surroundings manifest) = .ok base ∧ base.LiesBelow place := by
  have opened := surroundings.extends_openLog files log.day
  have carried : (surroundings.openLog files log.day).Extends
      (request.carryOut surroundings (surroundings.openLog files log.day)).files :=
    extends_carryOut loaded
  have runs := request.files_run surroundings files log
  generalize log.lines _ = lines at runs
  have last := surroundings.same_or_isLogAt_writeLog
    (request.carryOut surroundings (surroundings.openLog files log.day)).files log.day lines place
  have closed := surroundings.extends_writeLog
    (request.carryOut surroundings (surroundings.openLog files log.day)).files log.day lines
  rw [← runs] at last closed
  -- A place is changed by the last of three steps, or else by the second, or else by the first.
  rcases last with unwritten | isLog
  · rw [unwritten] at changed
    by_cases early : (surroundings.openLog files log.day).node? place = files.node? place
    · rw [← early] at changed
      rcases makes_or_liesBelow_of_carryOut loaded changed with makes | ⟨base, leads, below⟩
      · exact .inr (.inr (.inl ((makes.earlier opened).later closed)))
      · exact .inr (.inr (.inr ⟨base, closed.resolve leads, below⟩))
    · rcases Surroundings.makes_or_isLogAt_of_openLog early with makes | isLog
      · exact .inr (.inl (makes.later (carried.trans closed)))
      · exact .inl (isLog.later (carried.trans closed))
  · exact .inl (isLog.later closed)

end Run

/-- **The descriptors of an artifact stay below a directory of its own.** Without another directory
to keep them in, a run keeps the descriptors of an artifact in a directory that is a child of the
one for all artifacts as it is written, whatever the name of the artifact is, if it is not a name of
dots. All that a run changes then is its log, a directory made on the way to the one for logs or to
that child, or lies below the child. -/
theorem descriptors_stay_below (surroundings : Surroundings) {manifest : Manifest}
    (valid : manifest.validate = .ok ()) :
    let child := surroundings.serviceDirectory manifest.artifact
    ((∃ name, child.normalized = surroundings.serviceRoot.normalized ++ [.name name]) ↔
        manifest.artifact ≠ "." ∧ manifest.artifact ≠ "..") ∧
      ∀ name, child.normalized = surroundings.serviceRoot.normalized ++ [.name name] →
        ∀ files arguments log request, Request.ofArguments arguments = .ok request →
          request.options.services = none →
          Manifest.load (surroundings.openLog files log.day) request.manifestPath = .ok manifest →
          let after := (run surroundings files arguments log).files
          ∀ place, after.node? place ≠ files.node? place →
            surroundings.IsLogAt after log.day place ∨
              files.Makes after surroundings.logDirectory place ∨ files.Makes after child place ∨
              ∃ root, after.resolve surroundings.serviceRoot = .ok root ∧
                Location.LiesBelow (root ++ [name]) place := by
  intro child
  have nonempty := artifact_ne_empty valid
  have direct := exists_child_iff surroundings nonempty
  refine ⟨direct, ?_⟩
  intro name isChild files arguments log request asked usual loaded after place changed
  obtain ⟨noDot, notUp⟩ := direct.mp ⟨name, isChild⟩
  have spelled := surroundings.normalized_serviceDirectory nonempty noDot notUp
  obtain rfl : Utf8.ofString (directoryName manifest.artifact) = name := by
    have same := List.append_cancel_left (spelled.symm.trans isChild)
    exact Path.Component.name.inj (List.singleton_inj.mp same)
  have runs : after = (request.run surroundings files log).files :=
    congrArg Outcome.files (run_eq asked)
  have kept : request.serviceDirectory surroundings manifest = child := by
    rw [Request.serviceDirectory, usual]
  rw [runs] at changed ⊢
  have anywhere := Request.makes_or_liesBelow_of_run loaded changed
  rw [kept] at anywhere
  refine anywhere.imp id fun here => here.imp id fun here => here.imp id ?_
  rintro ⟨base, leads, below⟩
  obtain ⟨root, through, rfl⟩ := FileTree.exists_above_of_resolve_child
    surroundings.open_serviceRoot (proper_directoryName nonempty noDot notUp) leads
  exact ⟨root, through, below⟩

/-- The home directory of a user. -/
def homeOnly : Surroundings :=
  ⟨.ofString "/home", none⟩

/-- An artifact of a directory, with one service. -/
def timerManifest (artifact : String) : Manifest where
  artifact := artifact
  name := "app"
  classpath := [.ofString "d"]
  services := [⟨"Timer", "Steady", by decide, by decide, by decide⟩]

/-- That directory, and the manifest as a list of its fields in a file. -/
def timerFiles (artifact : String) : FileTree :=
  let directories := (FileTree.empty.ensureDirectory (.ofString "/d")).1
  let text := "[\"" ++ artifact ++ "\",\"app\",null,[\"d\"],[],[],[[\"Timer\",\"Steady\"]]]"
  ((directories.write (.ofString "/artifact.json") (Utf8.ofString text)).toOption).getD .empty

/-- The location of the descriptor of that service, below the names that lead to a directory. -/
def timerPlace (names : List String) : Location :=
  (names ++ ["0", "META-INF", "services", "Timer"]).map Utf8.ofString

/-- A run that lists what an artifact has. -/
def listing : Request :=
  ⟨{}, .list false⟩

private theorem ofArguments_list : Request.ofArguments ["list"] = .ok listing := by
  decide +kernel

/-- What a run leaves that lists what such an artifact has. -/
theorem files_listing {artifact : String}
    (loaded : Manifest.load (homeOnly.openLog (timerFiles artifact) {}) listing.manifestPath =
      .ok (timerManifest artifact)) :
    (run homeOnly (timerFiles artifact) ["list"]).files =
      homeOnly.writeLog ((timerManifest artifact).assemble
        (homeOnly.openLog (timerFiles artifact) {}) ⟨false⟩ ⟨1⟩
        (homeOnly.serviceDirectory artifact)).files {} [] := by
  have quiet : Verbosity.ofVariable homeOnly.verbose = ⟨false⟩ := rfl
  have usual : listing.serviceDirectory homeOnly (timerManifest artifact) =
      homeOnly.serviceDirectory artifact :=
    rfl
  rw [run_eq ofArguments_list, Request.files_run, Request.files_carryOut loaded, quiet, usual]

/-- The descriptor of an artifact whose name has a slash lies below a child of the directory for all
artifacts, where the slash is replaced. -/
theorem slashed_stays_below :
    ∃ root,
      (run homeOnly (timerFiles "a/b") ["list"]).files.resolve homeOnly.serviceRoot = .ok root ∧
        Location.LiesBelow (root ++ [Utf8.ofString "a_b"])
          (timerPlace ["home", ".artiscope", "services", "a_b"]) ∧
        (run homeOnly (timerFiles "a/b") ["list"]).files.node?
            (timerPlace ["home", ".artiscope", "services", "a_b"]) =
          some (.file (Utf8.ofString "Steady\n")) := by
  have valid : (timerManifest "a/b").validate = .ok () := by decide +kernel
  have isChild : (homeOnly.serviceDirectory "a/b").normalized =
      homeOnly.serviceRoot.normalized ++ [.name (Utf8.ofString "a_b")] := by
    decide +kernel
  have loaded : Manifest.load (homeOnly.openLog (timerFiles "a/b") {}) listing.manifestPath =
      .ok (timerManifest "a/b") := by
    decide +kernel
  have stood : (timerFiles "a/b").node? (timerPlace ["home", ".artiscope", "services", "a_b"]) =
      none := by
    decide +kernel
  have stands : (run homeOnly (timerFiles "a/b") ["list"]).files.node?
      (timerPlace ["home", ".artiscope", "services", "a_b"]) =
        some (.file (Utf8.ofString "Steady\n")) := by
    rw [files_listing loaded]
    decide +kernel
  have changed : (run homeOnly (timerFiles "a/b") ["list"]).files.node?
      (timerPlace ["home", ".artiscope", "services", "a_b"]) ≠
        (timerFiles "a/b").node? (timerPlace ["home", ".artiscope", "services", "a_b"]) := by
    rw [stands, stood]
    exact Option.some_ne_none _
  obtain ⟨-, confined⟩ := descriptors_stay_below homeOnly valid
  rcases confined _ isChild _ _ {} listing ofArguments_list rfl loaded _ changed with
    ⟨logs, leads, here⟩ | logs | made | ⟨root, leads, below⟩
  · have other : (timerPlace ["home", ".artiscope", "services", "a_b"]).getLast? ≠
        some (Utf8.ofString (Day.logName {})) := by
      decide +kernel
    rw [here, List.getLast?_concat] at other
    exact absurd rfl other
  · cases stands.symm.trans logs.directory
  · cases stands.symm.trans made.directory
  · exact ⟨root, leads, below, stands⟩

/-- A name of two dots is kept as it is: the directory of a valid artifact is no child of that of
all artifacts, and a run puts the descriptor beside it. -/
theorem exists_descriptor_beside :
    ∃ surroundings manifest files arguments log request place content root,
      manifest.validate = .ok () ∧
        (∀ name, (Surroundings.serviceDirectory surroundings manifest.artifact).normalized ≠
          surroundings.serviceRoot.normalized ++ [.name name]) ∧
        Request.ofArguments arguments = .ok request ∧ request.options.services = none ∧
        Manifest.load (surroundings.openLog files (Log.day log)) request.manifestPath =
          .ok manifest ∧
        (run surroundings files arguments log).files.resolve surroundings.serviceRoot = .ok root ∧
        ¬surroundings.IsLogAt (run surroundings files arguments log).files log.day place ∧
        files.node? place = none ∧
        (run surroundings files arguments log).files.node? place = some (.file content) ∧
        ¬root <+: place := by
  have valid : (timerManifest "..").validate = .ok () := by decide +kernel
  have loaded : Manifest.load (homeOnly.openLog (timerFiles "..") {}) listing.manifestPath =
      .ok (timerManifest "..") := by
    decide +kernel
  refine ⟨homeOnly, timerManifest "..", timerFiles "..", ["list"], {}, listing,
    timerPlace ["home", ".artiscope"], Utf8.ofString "Steady\n",
    ["home", ".artiscope", "services"].map Utf8.ofString, valid, fun name child => ?_,
    ofArguments_list, rfl, loaded, ?_, ?_, by decide +kernel, ?_, by decide +kernel⟩
  · exact ((exists_child_iff homeOnly (artifact_ne_empty valid)).mp ⟨name, child⟩).2 rfl
  · rw [files_listing loaded]
    decide +kernel
  · rintro ⟨logs, -, here⟩
    have other : (timerPlace ["home", ".artiscope"]).getLast? ≠
        some (Utf8.ofString (Day.logName {})) := by
      decide +kernel
    rw [here, List.getLast?_concat] at other
    exact absurd rfl other
  · rw [files_listing loaded]
    decide +kernel

end CommandLine

end Isolation
