import Isolation.Loader.Source

/-!
# Classes in a source

A source either does not have a class, and says so in the words of the artifact that asks; or it has
the class, with bytes and a place; or it fails on the class in a way that is not a miss. On a
classpath the first element with the class file decides.
-/

namespace Isolation

/-- Whether a failure says that the file of a class is there but cannot be used. -/
inductive LoadError.Unusable (className : String) : LoadError → Prop
  | file (error : FileError) : Unusable className (.file error)
  | invalidClass (defect : ClassDefect) : Unusable className (.invalidClass className defect)

/-- A file that cannot be used is no miss. -/
theorem LoadError.Unusable.isNotFound_eq_false {className : String} {error : LoadError}
    (unusable : error.Unusable className) : error.isNotFound = false := by
  cases unusable <;> rfl

namespace Source

variable {files : FileTree} {className artifact : String}

/-- What looking for a class on a classpath comes to. -/
theorem classOnPath_cases (files : FileTree) (elements : List Classpath.Element)
    (className artifact : String) :
    (elementWith? files elements (ClassName.classFile className) = none ∧
        classOnPath files elements className artifact =
          .error (.classNotFound className artifact)) ∨
      ∃ element, elementWith? files elements (ClassName.classFile className) = some element ∧
        ((∃ bytes origin, element.read files (ClassName.classFile className) = .ok bytes ∧
            element.locator? (ClassName.classFile className) = some origin ∧
            classOnPath files elements className artifact = .ok ⟨origin, bytes⟩) ∨
          ∃ error, error.Unusable className ∧
            classOnPath files elements className artifact = .error error) := by
  unfold classOnPath
  cases first : elementWith? files elements (ClassName.classFile className) with
  | none => exact .inl ⟨rfl, by simp only [first]; rfl⟩
  | some element =>
    refine .inr ⟨element, rfl, ?_⟩
    cases content : element.read files (ClassName.classFile className) with
    | error error => exact .inr ⟨.file error, .file error, by simp only [first, content]; rfl⟩
    | ok bytes =>
      have read : (element.read files (ClassName.classFile className)).mapError .file =
          .ok (ε := LoadError) bytes := congrArg (·.mapError LoadError.file) content
      by_cases marked : ClassFile.magic.isPrefixOf bytes = true
      · have checked : ClassFile.checkMagic className bytes = .ok () := if_pos marked
        cases place : element.locator? (ClassName.classFile className) with
        | none =>
          refine .inr ⟨.file (.noLocator (ClassName.classFile className) element.path.display),
            .file _, ?_⟩
          simp only [first, read, place, bind, Except.bind, checked]
          rfl
        | some origin =>
          refine .inl ⟨bytes, origin, rfl, rfl, ?_⟩
          simp only [first, read, place, bind, Except.bind, checked]
          rfl
      · have refused : ClassFile.checkMagic className bytes =
            .error (.invalidClass className .missingMagic) := if_neg marked
        refine .inr ⟨.invalidClass className .missingMagic, .invalidClass _, ?_⟩
        simp only [first, read, bind, Except.bind, refused]

/-- A class file that can be read, starts as one does and has a place is found. -/
theorem classOnPath_eq_ok {elements : List Classpath.Element} {element : Classpath.Element}
    {bytes : Bytes} {origin : Locator}
    (first : elementWith? files elements (ClassName.classFile className) = some element)
    (readable : element.read files (ClassName.classFile className) = .ok bytes)
    (marked : ClassFile.magic.isPrefixOf bytes = true)
    (place : element.locator? (ClassName.classFile className) = some origin) (artifact : String) :
    classOnPath files elements className artifact = .ok ⟨origin, bytes⟩ := by
  have read : (element.read files (ClassName.classFile className)).mapError .file =
      .ok (ε := LoadError) bytes := congrArg (·.mapError LoadError.file) readable
  have checked : ClassFile.checkMagic className bytes = .ok () := if_pos marked
  unfold classOnPath
  simp only [first, read, place, bind, Except.bind, checked]
  rfl

/-- A class on a classpath was read from the first element that has its class file. -/
theorem exists_element_of_classOnPath {elements : List Classpath.Element} {record : ClassRecord}
    (found : classOnPath files elements className artifact = .ok record) :
    ∃ element, elementWith? files elements (ClassName.classFile className) = some element ∧
      element.read files (ClassName.classFile className) = .ok record.bytes ∧
      element.locator? (ClassName.classFile className) = some record.origin := by
  rcases classOnPath_cases files elements className artifact with
    ⟨-, missed⟩ | ⟨element, first, came⟩
  · rw [missed] at found
    cases found
  · rcases came with ⟨bytes, origin, content, place, answered⟩ | ⟨error, -, failed⟩
    · obtain rfl := Except.ok.inj (answered.symm.trans found)
      exact ⟨element, first, content, place⟩
    · rw [failed] at found
      cases found

/-- That nothing was found is said in the words of the artifact that asks. -/
theorem eq_classNotFound_of_findClass {source : Source} {error : LoadError}
    (failed : source.findClass files className artifact = .error error)
    (notFound : error.isNotFound = true) : error = .classNotFound className artifact := by
  cases source with
  | tables classes resources =>
    unfold findClass at failed
    cases found : classes.find? className with
    | some record =>
      simp only [found] at failed
      cases failed
    | none =>
      simp only [found] at failed
      exact (Except.error.inj failed).symm
  | classpath elements =>
    change classOnPath files elements className artifact = .error error at failed
    rcases classOnPath_cases files elements className artifact with ⟨-, missed⟩ | ⟨element, -, came⟩
    · exact Except.error.inj (failed.symm.trans missed)
    · rcases came with ⟨bytes, origin, -, -, answered⟩ | ⟨other, unusable, answered⟩
      · rw [answered] at failed
        cases failed
      · obtain rfl := Except.error.inj (answered.symm.trans failed)
        rw [unusable.isNotFound_eq_false] at notFound
        cases notFound

/-- A class whose file is on the classpath is found, unless the file cannot be used. -/
theorem classOnPath_of_contains {elements : List Classpath.Element} {element : Classpath.Element}
    (member : element ∈ elements)
    (has : element.contains files (ClassName.classFile className) = true) (artifact : String) :
    (∃ record, classOnPath files elements className artifact = .ok record) ∨
      ∃ error, error.Unusable className ∧
        classOnPath files elements className artifact = .error error := by
  rcases classOnPath_cases files elements className artifact with ⟨missed, -⟩ | ⟨first, -, came⟩
  · exact absurd has (List.find?_eq_none.mp missed element member)
  · rcases came with ⟨bytes, origin, -, -, answered⟩ | failed
    · exact .inl ⟨_, answered⟩
    · exact .inr failed

end Source

end Isolation
