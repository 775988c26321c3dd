import Isolation.ClassName
import Isolation.Proofs.Classpath.EntryName
import Isolation.Proofs.Text.Separated

/-!
# The packages of class files

The file of a class is found with every dot of its name read as a slash. Its package is therefore
that of the name with every slash read as a dot (`Isolation.ClassName.filePackage_classFile`), and
where doubled slashes do not count, the same without empty parts
(`Isolation.ClassName.filePackage_steps_classFile`).
-/

namespace Isolation

open Text

namespace ClassName

/-- To replace a character that does not occur changes nothing. -/
theorem map_eq_self_of_notMem {mark other : Char} {text : List Char} (absent : mark ∉ text) :
    (text.map fun c => if c = mark then other else c) = text := by
  refine (List.map_congr_left fun c member => ?_).trans (List.map_id text)
  have differs : c ≠ mark := fun same => absent (same ▸ member)
  exact if_neg differs

/-- The package of a class file by the name of its entry: its directory, with dots for slashes. -/
def filePackage (entry : String) : String :=
  .ofList (slashesToDots (((cutLast '/' entry.toList).map (·.1)).getD []))

/-- A class name with every slash read as a dot. -/
def dotted (name : String) : String :=
  .ofList (slashesToDots name.toList)

/-- A package without its empty parts. -/
def withoutGaps (package : String) : String :=
  .ofList (['.'].intercalate ((package.toList.splitOn '.').filter (· ≠ [])))

/-- Whether the parts of a class name are kept apart by single dots, and by nothing else. -/
def IsPlain (name : String) : Prop :=
  '/' ∉ name.toList ∧ ((package name).toList = [] ∨ [] ∉ (package name).toList.splitOn '.')

/-- A name without slashes reads as it stands. -/
theorem dotted_of_slashless {name : String} (slashless : '/' ∉ name.toList) :
    dotted name = name := by
  have same : slashesToDots name.toList = name.toList := map_eq_self_of_notMem slashless
  rw [dotted, same, String.ofList_toList]

/-- A plain name reads as it stands. -/
theorem dotted_of_isPlain {name : String} (plain : IsPlain name) : dotted name = name :=
  dotted_of_slashless plain.1

/-- There are no gaps in the package of a plain name. -/
theorem withoutGaps_of_isPlain {name : String} (plain : IsPlain name) :
    withoutGaps (package name) = package name := by
  rcases plain.2 with empty | gapless
  · rw [withoutGaps, empty]
    exact (String.ofList_toList.symm.trans (congrArg String.ofList empty)).symm
  · have kept : ((package name).toList.splitOn '.').filter (· ≠ []) =
        (package name).toList.splitOn '.' :=
      List.filter_eq_self.mpr fun part member =>
        decide_eq_true fun empty => gapless (empty ▸ member)
    rw [withoutGaps, kept, List.intercalate_splitOn, String.ofList_toList]

/-- Parts without slashes that are joined by slashes become joined by dots. -/
theorem slashesToDots_intercalate {parts : List (List Char)}
    (plain : ∀ part ∈ parts, slashesToDots part = part) :
    slashesToDots (['/'].intercalate parts) = ['.'].intercalate parts := by
  have mapped : parts.map slashesToDots = parts :=
    (List.map_congr_left plain).trans (List.map_id parts)
  rw [slashesToDots, intercalate_map]
  exact congrArg _ mapped

private theorem dotsToSlashes_intercalate {parts : List (List Char)}
    (plain : ∀ part ∈ parts, dotsToSlashes part = part) :
    dotsToSlashes (['.'].intercalate parts) = ['/'].intercalate parts := by
  have mapped : parts.map dotsToSlashes = parts :=
    (List.map_congr_left plain).trans (List.map_id parts)
  rw [dotsToSlashes, intercalate_map]
  exact congrArg _ mapped

/-- Reading slashes as dots does not change where the class file is. -/
theorem dotsToSlashes_slashesToDots (name : List Char) :
    dotsToSlashes (slashesToDots name) = dotsToSlashes name := by
  rw [dotsToSlashes, slashesToDots, dotsToSlashes, List.map_map]
  apply List.map_congr_left
  intro c _
  by_cases slash : c = '/'
  · subst slash
    rfl
  · simp only [Function.comp_apply, if_neg slash]

private theorem notMem_map_of_ne {mark other : Char} (differs : other ≠ mark) (text : List Char) :
    mark ∉ text.map fun c => if c = mark then other else c := by
  intro member
  obtain ⟨c, -, written⟩ := List.mem_map.mp member
  by_cases marked : c = mark
  · rw [if_pos marked] at written
    exact differs written
  · rw [if_neg marked] at written
    exact marked written

/-- No slash is left once slashes are dots. -/
theorem slash_notMem_slashesToDots (name : List Char) : '/' ∉ slashesToDots name :=
  notMem_map_of_ne (by decide) name

/-- No dot is left once dots are slashes. -/
theorem dot_notMem_dotsToSlashes (name : List Char) : '.' ∉ dotsToSlashes name :=
  notMem_map_of_ne (by decide) name

/-- A name without slashes is read back from the path of its class file. -/
theorem slashesToDots_dotsToSlashes {name : List Char} (slashless : '/' ∉ name) :
    slashesToDots (dotsToSlashes name) = name := by
  rw [slashesToDots, dotsToSlashes, List.map_map]
  refine (List.map_congr_left fun c member => ?_).trans (List.map_id name)
  have noSlash : c ≠ '/' := fun slash => slashless (slash ▸ member)
  by_cases dot : c = '.'
  · subst dot
    rfl
  · simp only [Function.comp_apply, if_neg dot, if_neg noSlash, id]

/-- The parts of a class name with every slash read as a dot: those of its package, and the last
one, which names the file. -/
theorem exists_parts (name : String) :
    ∃ parts last, (∀ part ∈ parts ++ [last], '.' ∉ part ∧ '/' ∉ part) ∧
      slashesToDots name.toList = ['.'].intercalate (parts ++ [last]) := by
  have nonempty := List.splitOn_ne_nil '.' (slashesToDots name.toList)
  refine ⟨((slashesToDots name.toList).splitOn '.').dropLast,
    ((slashesToDots name.toList).splitOn '.').getLast nonempty, ?_, ?_⟩
  · rw [List.dropLast_concat_getLast]
    intro part member
    refine ⟨notMem_of_mem_splitOn member, fun slash => ?_⟩
    exact slash_notMem_slashesToDots name.toList (mem_of_mem_splitOn member slash)
  · rw [List.dropLast_concat_getLast, List.intercalate_splitOn]

/-- The file of a class has a name that leads down. -/
theorem leadsOn_append_fileSuffix (last : List Char) :
    Path.leadsOn (last ++ fileSuffix) = true := by
  have long : (last ++ fileSuffix).length = last.length + 6 := List.length_append
  rw [Path.leadsOn, Bool.and_eq_true, decide_eq_true_eq, decide_eq_true_eq]
  constructor
  · intro empty
    rw [empty] at long
    simp at long
  · intro dot
    rw [dot, List.length_singleton] at long
    omega

section Parts

variable {name : String} {parts : List (List Char)} {last : List Char}
  (plain : ∀ part ∈ parts ++ [last], '.' ∉ part ∧ '/' ∉ part)
  (shape : slashesToDots name.toList = ['.'].intercalate (parts ++ [last]))

include plain shape

private theorem package_dotted : package (dotted name) = .ofList (['.'].intercalate parts) := by
  have absent : '.' ∉ last :=
    (plain last (List.mem_append_right parts (List.mem_singleton_self last))).1
  rw [package, dotted, String.toList_ofList, packageChars, shape, cutLast_intercalate parts absent]

private theorem toList_classFile :
    (classFile name).toList = ['/'].intercalate (parts ++ [last ++ fileSuffix]) := by
  rw [classFile, String.toList_ofList, ← dotsToSlashes_slashesToDots, shape,
    dotsToSlashes_intercalate fun part member => map_eq_self_of_notMem (plain part member).1,
    intercalate_concat_append]

omit shape in
private theorem slash_notMem_last : '/' ∉ last ++ fileSuffix := by
  intro slash
  rcases List.mem_append.mp slash with inside | suffix
  · exact (plain last (List.mem_append_right parts (List.mem_singleton_self last))).2 inside
  · exact absurd suffix (by decide)

omit shape in
private theorem filePackage_intercalate {kept : List (List Char)}
    (among : ∀ part ∈ kept, part ∈ parts) :
    filePackage (.ofList (['/'].intercalate (kept ++ [last ++ fileSuffix]))) =
      .ofList (['.'].intercalate kept) := by
  rw [filePackage, String.toList_ofList, cutLast_intercalate kept (slash_notMem_last plain),
    slashesToDots_intercalate]
  intro part member
  exact map_eq_self_of_notMem (plain part (List.mem_append_left _ (among part member))).2

/-- The steps to the file of a class are the parts of its package that are not empty, and the
file. -/
theorem filter_leadsOn_classFile :
    ((classFile name).toList.splitOn '/').filter Path.leadsOn =
      parts.filter (· ≠ []) ++ [last ++ fileSuffix] := by
  have split : (classFile name).toList.splitOn '/' = parts ++ [last ++ fileSuffix] := by
    rw [toList_classFile plain shape]
    refine List.splitOn_intercalate '/' (fun part member => ?_) (by simp)
    rcases List.mem_append.mp member with inside | here
    · exact (plain part (List.mem_append_left _ inside)).2
    · rw [List.mem_singleton.mp here]
      exact slash_notMem_last plain
  rw [split, List.filter_append, List.filter_cons_of_pos (leadsOn_append_fileSuffix last),
    List.filter_nil]
  congr 1
  apply List.filter_congr
  intro part member
  have noDot : part ≠ ['.'] := by
    rintro rfl
    exact (plain _ (List.mem_append_left _ member)).1 (List.mem_singleton_self '.')
  simp [Path.leadsOn, noDot]

end Parts

/-- The file of a class lies in the package of the name with every slash read as a dot. -/
theorem filePackage_classFile (name : String) :
    filePackage (classFile name) = package (dotted name) := by
  obtain ⟨parts, last, plain, shape⟩ := exists_parts name
  rw [package_dotted plain shape, ← filePackage_intercalate plain fun part member => member,
    ← toList_classFile plain shape, String.ofList_toList]

/-- Where doubled slashes do not count, the file of a class lies in that package without its empty
parts. -/
theorem filePackage_steps_classFile (name : String) :
    filePackage (Classpath.Element.entryName (Path.ofString (classFile name)).steps) =
      withoutGaps (package (dotted name)) := by
  obtain ⟨parts, last, plain, shape⟩ := exists_parts name
  have gapless : (['.'].intercalate parts).splitOn '.' = parts ∨ parts = [] := by
    by_cases empty : parts = []
    · exact .inr empty
    · refine .inl (List.splitOn_intercalate '.' (fun part member => ?_) empty)
      exact (plain part (List.mem_append_left _ member)).1
  rw [Path.steps_ofString, Classpath.Element.entryName_map_encode,
    filter_leadsOn_classFile plain shape,
    filePackage_intercalate plain fun part member => (List.mem_filter.mp member).1,
    package_dotted plain shape, withoutGaps, String.toList_ofList]
  rcases gapless with split | rfl
  · rw [split]
  · rfl

end ClassName

end Isolation
