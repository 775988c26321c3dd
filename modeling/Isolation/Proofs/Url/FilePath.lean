import Isolation.Proofs.Path.Steps
import Isolation.Proofs.Url.Percent
import Isolation.Url.FilePath

/-!
# Names as the segments of URLs

The URL of a file has the names on the way to it as its segments, and stands for the path of its
location again (`Isolation.Url.toFilePath?_namesOf`), except that a path that ends as a drive letter
does gets a slash at its end.
-/

namespace Isolation

namespace Url

/-- Whether bytes end as a drive letter does: in a letter and a colon or a bar. -/
def endsAsDrive (bytes : Bytes) : Bool :=
  match bytes.reverse with
  | mark :: letter :: _ => (mark == 0x3A || mark == 0x7C) && (Char.ofNat letter.toNat).isAlpha
  | _ => false

/-- Nothing is added to a path that does not end as a drive letter does. -/
theorem closeDrive_of_not_endsAsDrive {bytes : Bytes} (plain : endsAsDrive bytes = false) :
    closeDrive bytes = bytes := by
  unfold closeDrive
  unfold endsAsDrive at plain
  split
  · rename_i mark letter first before shape
    simp only [shape] at plain
    exact if_neg (Bool.eq_false_iff.mp plain)
  · rfl

/-- An absolute path that ends as a drive letter does gets a slash at its end. -/
theorem closeDrive_of_endsAsDrive {bytes : Bytes}
    (drive : endsAsDrive (Path.slash :: bytes) = true) :
    closeDrive (Path.slash :: bytes) = Path.slash :: bytes ++ [Path.slash] := by
  unfold endsAsDrive at drive
  cases shape : (Path.slash :: bytes).reverse with
  | nil =>
    rw [shape] at drive
    cases drive
  | cons mark before =>
    cases before with
    | nil =>
      rw [shape] at drive
      cases drive
    | cons letter before =>
      rw [shape] at drive
      cases before with
      | nil =>
        have same : Path.slash :: bytes = [letter, mark] := by
          rw [← List.reverse_reverse (Path.slash :: bytes), shape]
          rfl
        obtain ⟨rfl, -⟩ := List.cons.inj same
        have noLetter : (Char.ofNat Path.slash.toNat).isAlpha = false := by decide
        simp only [noLetter, Bool.and_false] at drive
        cases drive
      | cons first before =>
        unfold closeDrive
        simp only [shape]
        exact if_pos drive

/-- How a path ends, its last name tells. -/
theorem endsAsDrive_append_slash (before name : Bytes) :
    endsAsDrive (before ++ Path.slash :: name) = endsAsDrive name := by
  have reversed : (before ++ Path.slash :: name).reverse =
      name.reverse ++ Path.slash :: before.reverse := by simp
  unfold endsAsDrive
  rw [reversed]
  cases name.reverse with
  | nil =>
    cases before.reverse with
    | nil => rfl
    | cons letter rest => rfl
  | cons mark rest =>
    cases rest with
    | nil =>
      have noLetter : (Char.ofNat Path.slash.toNat).isAlpha = false := by decide
      simp only [List.cons_append, List.nil_append, noLetter, Bool.and_false]
    | cons letter rest => rfl

/-- The path that the locator of a location leads back to. -/
def returned (location : Location) : Path :=
  ⟨closeDrive (Location.path location).bytes⟩

/-- Names written as the segments of a `file` URL. -/
def fileSegments (names : List Bytes) : List (List Char) :=
  names.map (encodeBytes escapedInFileName)

private theorem flatMap_fileSegments (names : List Bytes) :
    (fileSegments names).flatMap (fun segment => Path.slash :: decodeBytes segment) =
      names.flatMap (Path.slash :: ·) := by
  have decoded : ∀ name, Path.slash :: decodeBytes (encodeBytes escapedInFileName name) =
      Path.slash :: name :=
    fun name => congrArg (Path.slash :: ·) (decodeBytes_encodeBytes rfl name)
  rw [fileSegments, List.flatMap_map]
  simp only [decoded]

/-- The `file` URL with these names as its segments. -/
def ofNames (names : List Bytes) : Url where
  scheme := "file".toList
  authority := some {}
  path := .segments (fileSegments names)

/-- The path that comes back for names has them after slashes, and one more slash after a drive
letter. -/
theorem toFilePath?_ofNames {names : List Bytes} (nonempty : names ≠ []) :
    (ofNames names).toFilePath? = some ⟨closeDrive (names.flatMap (Path.slash :: ·))⟩ := by
  rw [← flatMap_fileSegments]
  cases names with
  | nil => exact absurd rfl nonempty
  | cons name names => rfl

/-- The root has one empty segment. -/
def namesOf (location : Location) : List Bytes :=
  if location = [] then [[]] else location

/-- The locator of a file is written with the steps of its path. -/
theorem ofFilePath?_eq {path : Path} (absolute : path.isAbsolute = true)
    (downward : path.Downward) : ofFilePath? path = some (ofNames (namesOf path.steps)) := by
  have names : (path.components.drop 1).map
        (fun step => encodeBytes escapedInFileName step.bytes) = fileSegments path.steps := by
    rw [Path.components_eq absolute downward, List.drop_one, List.tail_cons, List.map_map]
    rfl
  rw [ofFilePath?, if_pos absolute, names, ofNames, namesOf]
  by_cases atRoot : path.steps = []
  · rw [atRoot]
    rfl
  · have segments : fileSegments path.steps ≠ [] :=
      fun empty => atRoot (List.map_eq_nil_iff.mp empty)
    simp only [if_neg atRoot, if_neg segments]

/-- The path that comes back for a location is the one that is returned for it. -/
theorem toFilePath?_namesOf (location : Location) :
    (ofNames (namesOf location)).toFilePath? = some (returned location) := by
  by_cases atRoot : location = []
  · rw [atRoot]
    rfl
  · rw [namesOf, if_neg atRoot, toFilePath?_ofNames atRoot, returned, Location.path, if_neg atRoot]

end Url

end Isolation
