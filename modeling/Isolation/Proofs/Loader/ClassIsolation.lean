import Isolation.Proofs.ClassName.FilePackage
import Isolation.Proofs.Classpath.Opened
import Isolation.Proofs.Loader.Run
import Isolation.Proofs.Loader.Source
import Isolation.Zip.Writer

/-!
# The packages of class files that are handed out

A wrapper judges a class by the text before the last dot of its name, while the file of the class is
found with every dot read as a slash. The package of that file is therefore the one of the name with
every slash read as a dot, and in a directory, where doubled slashes do not count, the one without
empty parts. So a wrapper keeps class files of other packages back exactly when these packages are
exported too (`Isolation.Graph.Front.loadClass_lies_in`).
-/

namespace Isolation

namespace Classpath.Element

/-- The package of the class file that an element finds under the package part of a class name. -/
def packageFor : Element → String → String
  | archive _ _, package => package
  | directory _, package => ClassName.withoutGaps package

/-- The class file that an element finds for a class lies in the package of the name with every
slash read as a dot; in a directory, without empty parts. -/
theorem filePackage_entryFor (element : Element) (name : String) :
    ClassName.filePackage (element.entryFor (ClassName.classFile name)) =
      element.packageFor (ClassName.package (ClassName.dotted name)) := by
  cases element with
  | archive path content => exact ClassName.filePackage_classFile name
  | directory root => exact ClassName.filePackage_steps_classFile name

private theorem packageFor_of_isPlain (element : Element) {name : String}
    (plain : ClassName.IsPlain name) :
    element.packageFor (ClassName.package (ClassName.dotted name)) = ClassName.package name := by
  rw [ClassName.dotted_of_isPlain plain]
  cases element with
  | archive path content => rfl
  | directory root => exact ClassName.withoutGaps_of_isPlain plain

end Classpath.Element

namespace Graph

/-- A wrapper in front of a loader of a classpath that asks nobody else. -/
structure Front (graph : Graph) where
  wrapper : Wrapper
  own : Backing
  elements : List Classpath.Element
  member : Loader.filtering wrapper (.root own) ∈ graph.loaders
  onPath : own.source = .classpath elements
  opened : ∃ files paths, openClasspath files paths = .ok elements

variable {graph : Graph}

/-- What the wrapper answers when it is asked for a class, after a run and with these files. -/
def Front.answer (front : graph.Front) (history : List graph.Moment) (files : FileTree)
    (name : String) : Answer :=
  graph.answer history (files, .ask ⟨_, front.member⟩ (.loadClass name))

variable {history : List graph.Moment} {files : FileTree} {name : String} {object : ClassObject}

/-- What the wrapper hands out is exported, as far as its name goes, and was defined by the loader
behind it, from the files as they are or as they were. -/
theorem Front.define_eq_ok (front : graph.Front)
    (handed : (front.answer history files name).object? = some object) :
    front.wrapper.exports.admitsClass name = true ∧
      ∃ seen ∈ files :: history.map Prod.fst,
        front.own.define seen name = .ok object.definition := by
  change (((Loader.filtering front.wrapper (.root front.own)).loadClass files (graph.run history)
    name).2.answer).toOption = some object at handed
  rw [Loader.loadClass_eq_settled] at handed
  unfold Loader.resolveClass at handed
  by_cases admitted : front.wrapper.exports.admitsClass name = true
  · refine ⟨admitted, ?_⟩
    rw [if_pos admitted] at handed
    change ((graph.run history).settleAnswer
      (front.own.resolve files (graph.run history) name)).2.toOption = some object at handed
    have owned : graph.Owns front.own :=
      owns_of_mem_owners front.member (List.mem_singleton_self front.own)
    unfold Backing.resolve at handed
    cases kept : (graph.run history).defined? front.own.id name with
    | some other =>
      rw [kept] at handed
      obtain rfl := Option.some.inj handed
      obtain ⟨own, seen, ownedToo, numbered, earlier, made⟩ := graph.faithful_run history kept
      obtain rfl := owned.eq_of_id_eq ownedToo numbered.symm
      obtain ⟨-, named⟩ := (graph.faithful_run history).names kept
      exact ⟨seen, List.mem_cons_of_mem files earlier, named ▸ made⟩
    | none =>
      rw [kept] at handed
      cases made : front.own.define files name with
      | error error =>
        rw [made] at handed
        cases handed
      | ok definition =>
        rw [made] at handed
        obtain rfl := Option.some.inj handed
        exact ⟨files, List.mem_cons_self, made⟩
  · rw [if_neg admitted] at handed
    cases handed

/-- **The class files that a wrapper hands out, and their packages.** What is handed out for a class
name is the class file that the first element with one holds, and it lies in an exported package
exactly when the name is exported with every slash read as a dot (and in a directory without empty
parts). A name that single dots keep apart is exported only with its class file. -/
theorem Front.loadClass_lies_in (front : graph.Front)
    (handed : (front.answer history files name).object? = some object) :
    front.wrapper.exports.admitsClass name = true ∧
      ∃ seen ∈ files :: history.map Prod.fst, ∃ element ∈ front.elements,
        Source.elementWith? seen front.elements (ClassName.classFile name) = some element ∧
          element.Holds seen (element.entryFor (ClassName.classFile name))
            object.definition.bytes ∧
          (front.wrapper.exports.packages.contains
              (ClassName.filePackage (element.entryFor (ClassName.classFile name))) = true ↔
            front.wrapper.exports.packages.contains
              (element.packageFor (ClassName.package (ClassName.dotted name))) = true) ∧
          (ClassName.IsPlain name →
            front.wrapper.exports.packages.contains
              (ClassName.filePackage (element.entryFor (ClassName.classFile name))) = true) := by
  obtain ⟨admitted, seen, earlier, made⟩ := front.define_eq_ok handed
  refine ⟨admitted, seen, earlier, ?_⟩
  obtain ⟨-, -, found⟩ := Backing.define_eq_ok made
  rw [front.onPath] at found
  obtain ⟨element, first, readable, -⟩ := Source.exists_element_of_classOnPath found
  have member : element ∈ front.elements := List.mem_of_find?_eq_some first
  obtain ⟨past, paths, opened⟩ := front.opened
  have holds := Classpath.Element.holds_of_read
    (Classpath.Element.opened_of_openClasspath opened element member) readable
  have located := element.filePackage_entryFor name
  refine ⟨element, member, first, holds, by rw [located], fun plain => ?_⟩
  rw [located, element.packageFor_of_isPlain plain]
  exact admitted

/-- An archive with one class, two packages down. -/
def nestedArchive : Bytes :=
  Zip.writeArchive [("a/b/C.class", ClassFile.magic)]

/-- Files of which one is that archive. -/
def nestedFiles : FileTree :=
  ((FileTree.empty.write (.ofString "/x.jar") nestedArchive).toOption).getD .empty

/-- That archive, opened. -/
def nestedContent : Classpath.OpenArchive :=
  ⟨((Zip.openArchive nestedArchive).toOption).getD default,
    nestedFiles.hold (Path.ofString "/x.jar").steps⟩

/-- The classpath of that archive. -/
def nestedElements : List Classpath.Element :=
  ((openClasspath nestedFiles [.ofString "/x.jar"]).toOption).getD []

/-- The classpath of that archive can be opened. -/
theorem openClasspath_nestedFiles :
    openClasspath nestedFiles [.ofString "/x.jar"] = .ok nestedElements := by
  have opens : (openClasspath nestedFiles [.ofString "/x.jar"]).toOption.isSome = true := by
    decide +kernel
  exact eq_ok_of_isSome opens []

/-- The loader of that archive. -/
def nestedBacking : Backing where
  id := ⟨0⟩
  artifact := "app"
  identity := ⟨"app", none⟩
  rules := {}
  source := .classpath nestedElements

/-- A wrapper that exports the upper one of the two packages. -/
def upperPackage : Wrapper where
  id := ⟨1⟩
  exports := .ofLists ["a"] []
  services := {}
  verbosity := ⟨false⟩

/-- The wrapper in front of that loader. -/
def nestedFront : (wrapped upperPackage nestedBacking (by decide)).Front where
  wrapper := upperPackage
  own := nestedBacking
  elements := nestedElements
  member := List.mem_cons_self
  onPath := rfl
  opened := ⟨_, _, openClasspath_nestedFiles⟩

/-- The class of a name in which a slash hides a package is handed out from that package. -/
theorem nestedFront_hands_out :
    ∃ object, (nestedFront.answer [] nestedFiles "a.b/C").object? = some object ∧
      ∃ element ∈ nestedFront.elements,
        element.Holds nestedFiles (element.entryFor "a/b/C.class") object.definition.bytes ∧
          upperPackage.exports.packages.contains
            (ClassName.filePackage (element.entryFor "a/b/C.class")) = false := by
  obtain ⟨object, handed⟩ := Option.isSome_iff_exists.mp
    (by decide +kernel : (nestedFront.answer [] nestedFiles "a.b/C").object?.isSome = true)
  obtain ⟨-, seen, earlier, element, member, first, holds, -⟩ :=
    nestedFront.loadClass_lies_in handed
  have now : seen = nestedFiles := by simpa using earlier
  have file : ClassName.classFile "a.b/C" = "a/b/C.class" := by decide
  rw [now, file] at holds
  have hidden : ∀ element ∈ nestedFront.elements, upperPackage.exports.packages.contains
      (ClassName.filePackage (element.entryFor "a/b/C.class")) = false := by
    decide +kernel
  exact ⟨object, handed, element, member, holds, hidden element member⟩

/-- Wrappers do not keep back every class file of a package that is not exported. -/
theorem exists_class_handed_out_unexported :
    ¬ ∀ (graph : Graph) (front : graph.Front) (history : List graph.Moment) (files : FileTree)
        (name : String) (object : ClassObject),
      (front.answer history files name).object? = some object →
        ∃ element ∈ front.elements, ∃ seen entry, element.Holds seen entry object.definition.bytes ∧
          front.wrapper.exports.packages.contains (ClassName.filePackage entry) = true := by
  intro isolated
  obtain ⟨object, handed⟩ := Option.isSome_iff_exists.mp
    (by decide +kernel : (nestedFront.answer [] nestedFiles "a.b/C").object?.isSome = true)
  obtain ⟨element, member, seen, entry, holds, exported⟩ :=
    isolated _ nestedFront [] nestedFiles "a.b/C" object handed
  have shape : nestedFront.elements = [.archive (.ofString "/x.jar") nestedContent] := by
    decide +kernel
  have names : nestedContent.entries.map (·.name) = ["a/b/C.class"] := by
    decide +kernel
  rw [shape] at member
  have only := List.mem_singleton.mp member
  subst only
  cases holds with
  | archive stored =>
    obtain ⟨inside, listed, rfl, -⟩ := Zip.Archive.exists_entry_of_read stored
    rw [Classpath.OpenArchive.entries_reread] at listed
    have named : inside.name ∈ nestedContent.entries.map (·.name) := List.mem_map_of_mem listed
    rw [names, List.mem_singleton] at named
    rw [named] at exported
    exact absurd exported (by decide)

end Graph

end Isolation
