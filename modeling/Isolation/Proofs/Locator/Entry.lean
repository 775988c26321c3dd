import Isolation.Proofs.Locator.Returned

/-!
# Entries behind their locators

A visible name is written into the locator of an entry as it is (`Isolation.Url.entryText_eq_self`).
So such a locator is taken apart into the archive and the entry that it was made of, the root
included, as long as it keeps the path of the archive (`Isolation.Locator.toEntry?_ofEntry?`).
-/

namespace Isolation

namespace Path

/-- An absolute path without a component upwards never leads upwards. -/
theorem downward_of_components {path : Path} (absolute : path.isAbsolute = true)
    (level : .up ∉ path.components) : path.Downward := by
  obtain ⟨rest, shape⟩ := parts_eq_cons_of_isAbsolute absolute
  intro up
  rw [shape] at up
  apply level
  unfold components
  rw [shape]
  simp only [absolute, if_true]
  apply List.mem_append_right
  refine List.mem_filterMap.mpr ⟨[dot, dot], ?_, by decide⟩
  exact (List.mem_cons.mp up).resolve_left (by decide)

/-- The steps of a path that never leads upwards are names. -/
theorem proper_steps {path : Path} (downward : path.Downward) : Location.Proper path.steps := by
  intro step member
  obtain ⟨inside, leads⟩ := List.mem_filter.mp member
  obtain ⟨nonempty, noDot⟩ := not_or.mp (leads_eq_true_iff.mp leads)
  refine ⟨nonempty, noDot, ?_, Text.notMem_of_mem_splitOn inside⟩
  rintro rfl
  exact downward inside

end Path

namespace Url

/-- A visible name without a question mark and a number sign is written as it is. -/
theorem entryText_eq_self {name : List Char}
    (visible : ∀ c ∈ name, 0x20 < c.toNat ∧ c.toNat < 0x7F ∧ endsPath c = false) :
    entryText name = name := by
  have kept : cleaned name = name := by
    refine (cleaned_eq_self_iff fun c member => Nat.le_of_lt (visible c member).1).mpr ?_
    intro space
    have large := (visible ' ' (List.mem_of_getLast? space)).1
    exact absurd large (by decide)
  have whole : Tail.ofChars name = ⟨name, none, none⟩ :=
    ofChars_eq fun c member => (visible c member).2.2
  rw [entryText_eq, kept, whole]
  change encodeText isControl name ++ [] ++ [] = name
  rw [List.append_nil, List.append_nil]
  apply encodeText_eq_self
  intro c member
  obtain ⟨large, small, -⟩ := visible c member
  exact ⟨by omega, isControl_eq_false_iff.mpr ⟨by omega, by omega⟩⟩

section Names

variable {location : Location}

private theorem namesOf_ne_nil (location : Location) : namesOf location ≠ [] := by
  unfold namesOf
  split
  · exact List.cons_ne_nil [] []
  · assumption

private theorem slash_notMem_namesOf (proper : location.Proper) :
    ∀ name ∈ namesOf location, Path.slash ∉ name := by
  intro name member
  unfold namesOf at member
  split at member
  · rw [List.mem_singleton.mp member]
    exact List.not_mem_nil
  · exact proper.slash_notMem member

private theorem keepsMark_namesOf (keeps : keepsMark location) : keepsMark (namesOf location) := by
  unfold namesOf
  split
  · exact fun name member => absurd member List.not_mem_nil
  · exact keeps

/-- Where the text of a file's URL leads, the root included. -/
theorem toFilePath?_parse_namesOf (proper : location.Proper) :
    ((parse (ofNames (namesOf location)).chars).toOption.bind (·.toFilePath?)) =
      some (returned (colonFirst location)) := by
  by_cases atRoot : location = []
  · subst atRoot
    decide
  · rw [namesOf, if_neg atRoot]
    exact toFilePath?_parse atRoot proper

end Names

end Url

namespace Locator

/-- What keeps the path of an archive, said of its components. -/
theorem keepsArchive_of_components {archive : Path} (absolute : archive.isAbsolute = true)
    (downward : archive.Downward)
    (marks : ∀ name, .name name ∈ archive.components.dropLast → name.getLast? ≠ some 0x21)
    (noBar : ∀ letter, archive.components[1]? = some (.name [letter, 0x7C]) →
      (Char.ofNat letter.toNat).isAlpha = false) : KeepsArchive archive.steps := by
  have components := Path.components_eq absolute downward
  constructor
  · intro name member
    have below : archive.steps.map Path.Component.name ≠ [] := by
      intro none
      rw [List.map_eq_nil_iff.mp none] at member
      exact absurd member List.not_mem_nil
    apply marks
    rw [components, List.dropLast_cons_of_ne_nil below, ← List.map_dropLast]
    exact List.mem_cons_of_mem _ (List.mem_map_of_mem member)
  · intro name first
    apply Bool.eq_false_iff.mpr
    intro barred
    obtain ⟨letter, rfl, alpha⟩ := Url.isBarredDrive_iff.mp barred
    have second : archive.components[1]? = some (.name [letter, 0x7C]) := by
      rw [components, List.getElem?_cons_succ, List.getElem?_map, ← List.head?_eq_getElem?, first]
      rfl
    rw [noBar letter second] at alpha
    cases alpha

/-- **The locator of an entry is taken apart into what it was made of.** The archive is an absolute
path without steps upwards, none of whose names but the last ends in an exclamation mark, and whose
first name is no letter with a bar after it; the name of the entry is visible and has no question
mark and no number sign. The archive comes back as it was, component by component, and the entry
without the slashes at its start. -/
theorem toEntry?_ofEntry? {archive : Path} (absolute : archive.isAbsolute = true)
    (level : .up ∉ archive.components)
    (marks : ∀ name, .name name ∈ archive.components.dropLast → name.getLast? ≠ some 0x21)
    (noBar : ∀ letter, archive.components[1]? = some (.name [letter, 0x7C]) →
      (Char.ofNat letter.toNat).isAlpha = false)
    {entry : String}
    (visible : ∀ c ∈ entry.toList, 0x21 ≤ c.toNat ∧ c.toNat ≤ 0x7E ∧ c ≠ '?' ∧ c ≠ '#') :
    ∃ locator returned, ofEntry? archive entry = some locator ∧ locator.scheme = "jar" ∧
      locator.toFile? = none ∧
      locator.toEntry? = some (returned, .ofList (entry.toList.dropWhile (· == '/'))) ∧
      returned.components = archive.components := by
  have downward := Path.downward_of_components absolute level
  have proper := Path.proper_steps downward
  obtain ⟨keepsMark, noDrive⟩ := keepsArchive_of_components absolute downward marks noBar
  have written : Url.entryText (entry.toList.dropWhile (· == '/')) =
      entry.toList.dropWhile (· == '/') := by
    apply Url.entryText_eq_self
    intro c member
    obtain ⟨large, small, noQuery, noFragment⟩ :=
      visible c ((List.dropWhile_suffix _).subset member)
    exact ⟨large, by omega, by simp [Url.endsPath, noQuery, noFragment]⟩
  obtain ⟨url, made, scheme, text⟩ := exists_ofEntry absolute downward entry
  rw [written] at text
  obtain ⟨names, key, -, taken, -, ⟨-, rfl, rfl⟩ | ⟨cutEarly, -⟩⟩ := exists_takenApart
    (Url.namesOf_ne_nil archive.steps) (Url.slash_notMem_namesOf proper) scheme text
  · rw [Url.toFilePath?_parse_namesOf proper, Url.colonFirst_eq_self_iff.mpr noDrive] at taken
    have otherScheme : url.scheme ≠ "file".toList := by
      rw [scheme]
      decide
    refine ⟨⟨url⟩, Url.returned archive.steps, made, congrArg String.ofList scheme,
      if_neg otherScheme, taken, ?_⟩
    rw [Url.components_returned proper, Path.components_eq absolute downward]
  · exact absurd (Url.keepsMark_namesOf keepsMark) cutEarly

/-- The path `/C:/./%2e%2e/ \xFF!`: a drive letter, escaped dots, and a last name that ends in an
exclamation mark and is no text. -/
def oddArchive : Path :=
  ⟨[0x2F, 0x43, 0x3A, 0x2F, 0x2E, 0x2F, 0x25, 0x32, 0x65, 0x25, 0x32, 0x65, 0x2F, 0x20, 0xFF, 0x21]⟩

/-- An entry whose name has the mark in it is taken out of such an archive. -/
theorem oddArchive_comes_back :
    ∃ locator returned, ofEntry? oddArchive "//../a%20!/b" = some locator ∧
      locator.scheme = "jar" ∧ locator.toFile? = none ∧
      locator.toEntry? = some (returned, "../a%20!/b") ∧
      returned.components = oddArchive.components := by
  have components : oddArchive.components = [.root, .name [0x43, 0x3A],
      .name [0x25, 0x32, 0x65, 0x25, 0x32, 0x65], .name [0x20, 0xFF, 0x21]] := by
    decide
  have entry : String.ofList ("//../a%20!/b".toList.dropWhile (· == '/')) = "../a%20!/b" := by
    decide
  rw [← entry]
  apply toEntry?_ofEntry?
  · decide
  · rw [components]
    simp
  · rw [components]
    simp
  · rw [components]
    simp
  · simp

end Locator

end Isolation
