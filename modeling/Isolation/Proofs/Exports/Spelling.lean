import Isolation.Proofs.ClassName.FilePackage
import Isolation.Proofs.Exports.Rules

/-!
# Exports and the spellings of a name

Exports are compared with a name as it is written, while the file system passes over segments that
are empty or a dot. If the exports are written without such segments, a name that is admitted is
admitted as the file system reads it, provided that it ends in a segment that leads on
(`Isolation.Exports.Plain.admits_withoutIdle`).
-/

namespace Isolation

open Text ClassName

namespace Path

/-- A name without the segments that do not lead on. -/
def withoutIdle (name : List Char) : List Char :=
  ['/'].intercalate ((name.splitOn '/').filter leadsOn)

private theorem withoutIdle_eq_self {name : List Char}
    (plain : ∀ segment ∈ name.splitOn '/', leadsOn segment = true) : withoutIdle name = name := by
  rw [withoutIdle, List.filter_eq_self.mpr plain, List.intercalate_splitOn]

/-- Segments that lead on stay in front of the others. -/
theorem withoutIdle_append {stem rest : List Char}
    (plain : ∀ segment ∈ stem.splitOn '/', leadsOn segment = true)
    (onward : (rest.splitOn '/').filter leadsOn ≠ []) :
    withoutIdle (stem ++ '/' :: rest) = stem ++ '/' :: withoutIdle rest := by
  rw [withoutIdle, List.splitOn_append_cons_self, List.filter_append, List.filter_eq_self.mpr plain,
    intercalate_append _ (List.splitOn_ne_nil '/' stem) onward, List.intercalate_splitOn]
  simp [withoutIdle]

private theorem ne_slash_of_leadsOn {name : List Char}
    (plain : ∀ segment ∈ (name.splitOn '/').head?, leadsOn segment = true) :
    name.head? ≠ some '/' := by
  intro slash
  obtain ⟨tail, rfl⟩ := List.head?_eq_some_iff.mp slash
  have split := List.splitOn_append_cons_self (a := '/') [] tail
  rw [List.nil_append] at split
  have empty := plain [] (by simp [split])
  exact absurd empty (by decide)

end Path

namespace Exports

open Isolation.Path

/-- A text without one trailing `mark`, if it ends with one. -/
def dropLastOne (mark : Char) (text : List Char) : List Char :=
  (dropOne mark text.reverse).reverse

private theorem dropLastOne_concat (mark : Char) (text : List Char) :
    dropLastOne mark (text ++ [mark]) = text := by
  simp [dropLastOne, dropOne]

private theorem dropLastOne_eq_self {mark : Char} {text : List Char}
    (open' : text.getLast? ≠ some mark) :
    dropLastOne mark text = text := by
  rw [← List.head?_reverse] at open'
  unfold dropLastOne
  cases shape : text.reverse with
  | nil => rw [List.reverse_eq_nil_iff.mp shape]; rfl
  | cons head rest =>
    have differs : head ≠ mark := fun same => open' (by rw [shape, same, List.head?_cons])
    rw [dropOne, if_neg differs, ← shape, List.reverse_reverse]

/-- The stem of an exported resource: the text without one slash at either end. -/
def stem (resource : String) : List Char :=
  dropLastOne '/' (relativeName resource.toList)

/-- Whether exports are written plainly: no package has an empty part between its dots, and the stem
of no resource has a segment that is empty or a dot. -/
structure Plain (packages resources : List String) : Prop where
  packages : ∀ package ∈ packages, [] ∉ package.toList.splitOn '.'
  resources : ∀ resource ∈ resources,
    [] ∉ (stem resource).splitOn '/' ∧ ['.'] ∉ (stem resource).splitOn '/'

/-- The segments of a directory whose package has no empty part all lead on. -/
theorem leadsOn_of_slashesToDots {directory : List Char}
    (gapless : [] ∉ (slashesToDots directory).splitOn '.') :
    ∀ segment ∈ directory.splitOn '/', leadsOn segment = true := by
  have dotted : (slashesToDots directory).splitOn '.' =
      (directory.splitOn '/').flatMap (·.splitOn '.') := by
    have plain : ∀ segment ∈ directory.splitOn '/', slashesToDots segment = segment :=
      fun segment member => map_eq_self_of_notMem (notMem_of_mem_splitOn member)
    have joined := slashesToDots_intercalate plain
    rw [List.intercalate_splitOn] at joined
    rw [joined]
    exact @splitOnP_intercalate Char '.' (· == '.') rfl _ (List.splitOn_ne_nil '/' directory)
  rw [dotted] at gapless
  intro segment member
  rw [leadsOn, Bool.and_eq_true, decide_eq_true_eq, decide_eq_true_eq]
  constructor
  · rintro rfl
    exact gapless (List.mem_flatMap.mpr ⟨_, member, by simp⟩)
  · rintro rfl
    exact gapless (List.mem_flatMap.mpr ⟨_, member, by decide⟩)

namespace Plain

variable {packages resources : List String} (plain : Plain packages resources)

include plain

private theorem leadsOn_stem {resource : String} (listed : resource ∈ resources) :
    ∀ segment ∈ (stem resource).splitOn '/', leadsOn segment = true := by
  obtain ⟨noGap, noDot⟩ := plain.resources resource listed
  intro segment member
  rw [leadsOn, Bool.and_eq_true, decide_eq_true_eq, decide_eq_true_eq]
  exact ⟨fun empty => noGap (empty ▸ member), fun dot => noDot (dot ▸ member)⟩

/-- How a name comes to be admitted: all of its segments but the last lead on, or it lies under a
listed directory, all of whose segments do. -/
theorem admitsRelative_cases {name : List Char}
    (admitted : (ofLists packages resources).AdmitsRelative name) :
    (∀ segment ∈ (name.splitOn '/').dropLast, leadsOn segment = true) ∨
      ∃ directory rest, name = directory ++ '/' :: rest ∧
        (∀ segment ∈ directory.splitOn '/', leadsOn segment = true) ∧
        String.ofList (directory ++ ['/']) ∈ (ofLists packages resources).resources := by
  rcases admitted with listed | under | inPackage
  · left
    have member := NameSet.mem_ofList.mp (of_decide_eq_true listed)
    obtain ⟨resource, given, same⟩ := List.mem_map.mp member
    have shape : relativeName resource.toList = name := String.ofList_injective same
    have leads := plain.leadsOn_stem given
    rw [stem, shape] at leads
    by_cases closed : name.getLast? = some '/'
    · obtain ⟨before, rfl⟩ := List.getLast?_eq_some_iff.mp closed
      rw [dropLastOne_concat] at leads
      simpa [List.splitOn_append_cons_self] using leads
    · rw [dropLastOne_eq_self closed] at leads
      exact fun segment member => leads segment (List.dropLast_subset _ member)
  · right
    obtain ⟨entry, listed, ⟨directory, ends⟩, rest, rfl⟩ := underListedDirectory_iff.mp under
    obtain ⟨resource, given, same⟩ := List.mem_map.mp (NameSet.mem_ofList.mp listed)
    have leads := plain.leadsOn_stem given
    have shape : relativeName resource.toList = directory ++ ['/'] := by
      rw [ends, ← same, String.toList_ofList]
    rw [stem, shape, dropLastOne_concat] at leads
    refine ⟨directory, rest, ?_, leads, ?_⟩
    · rw [← ends, List.append_assoc, List.singleton_append]
    · rw [ends, String.ofList_toList]
      exact listed
  · left
    obtain ⟨directory, last, cut, exported⟩ := inExportedPackage_iff.mp inPackage
    have gapless := plain.packages _ (NameSet.mem_ofList.mp exported)
    rw [String.toList_ofList] at gapless
    have single : last.splitOn '/' = [last] := List.splitOn_eq_singleton (notMem_of_cutLast cut)
    rw [eq_append_of_cutLast cut, List.splitOn_append_cons_self, single, List.dropLast_concat]
    exact leadsOn_of_slashesToDots gapless

/-- No name that starts with a slash is admitted once a slash too many has been left out. -/
theorem ne_slash {name : List Char} (admitted : (ofLists packages resources).AdmitsRelative name) :
    name.head? ≠ some '/' := by
  intro slash
  obtain ⟨tail, rfl⟩ := List.head?_eq_some_iff.mp slash
  have split := List.splitOn_append_cons_self (a := '/') [] tail
  rw [List.nil_append, List.splitOn_nil, List.singleton_append] at split
  rcases plain.admitsRelative_cases admitted with leads | ⟨directory, rest, shape, leads, -⟩
  · rw [split, List.dropLast_cons_of_ne_nil (List.splitOn_ne_nil '/' tail)] at leads
    exact absurd (leads [] List.mem_cons_self) (by decide)
  · have relative := ne_slash_of_leadsOn fun segment first =>
      leads segment (List.mem_of_mem_head? first)
    cases directory with
    | nil => exact absurd (leads [] (by simp)) (by decide)
    | cons head directory => exact relative (congrArg List.head? shape.symm)

/-- **What is admitted is admitted as the file system reads it**, if it ends in a segment that leads
on. -/
theorem admits_withoutIdle {name : List Char}
    (admitted : (ofLists packages resources).AdmitsRelative name)
    (ends : ∀ segment ∈ (name.splitOn '/').getLast?, leadsOn segment = true) :
    (ofLists packages resources).AdmitsRelative (withoutIdle name) := by
  rcases plain.admitsRelative_cases admitted with leads | ⟨directory, rest, rfl, leads, listed⟩
  · rw [withoutIdle_eq_self]
    · exact admitted
    · intro segment member
      have nonempty := List.splitOn_ne_nil '/' name
      rw [← List.dropLast_concat_getLast nonempty] at member
      rcases List.mem_append.mp member with before | last
      · exact leads segment before
      · apply ends
        rw [List.mem_singleton.mp last]
        exact List.getLast_mem_getLast? nonempty
  · have nonempty := List.splitOn_ne_nil '/' rest
    have onward : (rest.splitOn '/').filter leadsOn ≠ [] := by
      have last := List.getLast_mem nonempty
      refine List.ne_nil_of_mem (List.mem_filter.mpr ⟨last, ends _ ?_⟩)
      rw [List.splitOn_append_cons_self, List.getLast?_append,
        List.getLast?_eq_some_getLast nonempty, Option.some_or]
      exact rfl
    rw [withoutIdle_append leads onward]
    refine .inr (.inl (List.any_eq_true.mpr ⟨_, listed, ?_⟩))
    simp [String.toList_ofList]

end Plain

end Exports

end Isolation
