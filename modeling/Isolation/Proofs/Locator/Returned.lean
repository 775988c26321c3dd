import Isolation.Proofs.Url.Spelling

/-!
# Where locators lead back to

The locator of a file leads back to the path of its location
(`Isolation.Locator.exists_fileLocator`). The locator of an entry leads back to the path of the
archive and to the rewritten name of the entry, if the path of the archive is one that such a
locator keeps; if not, it leads to another place (`Isolation.Locator.exists_entryLocator`).
-/

namespace Isolation

namespace Path

/-- A slash at the end adds an empty part. -/
theorem parts_append_slash (bytes : Bytes) :
    (Path.mk (bytes ++ [slash])).parts = (Path.mk bytes).parts ++ [[]] := by
  have split := List.splitOn_append_cons_self (a := slash) bytes []
  rw [List.splitOn_nil] at split
  exact split

private theorem isAbsolute_append_slash {bytes : Bytes}
    (absolute : (Path.mk bytes).isAbsolute = true) :
    (Path.mk (bytes ++ [slash])).isAbsolute = true := by
  cases bytes with
  | nil => cases absolute
  | cons head bytes => exact absolute

/-- A slash at the end of an absolute path does not change its components. -/
theorem components_append_slash {bytes : Bytes} (absolute : (Path.mk bytes).isAbsolute = true) :
    (Path.mk (bytes ++ [slash])).components = (Path.mk bytes).components := by
  obtain ⟨rest, shape⟩ := parts_eq_cons_of_isAbsolute absolute
  have longer : (Path.mk (bytes ++ [slash])).parts = [] :: (rest ++ [[]]) := by
    rw [parts_append_slash, shape]
    rfl
  unfold components
  rw [shape, longer]
  simp only [absolute, isAbsolute_append_slash absolute, if_true, List.filterMap_append]
  exact congrArg _ (List.append_nil _)

/-- A path has at most one component for each of its names, and one for the root. -/
theorem length_components_le {names : List Bytes} (plain : ∀ name ∈ names, slash ∉ name) :
    (Path.mk (names.flatMap (slash :: ·))).components.length ≤ names.length + 1 := by
  have shape : (Path.mk (names.flatMap (slash :: ·))).parts = [] :: names := splitOn_flatMap plain
  unfold components
  rw [shape]
  cases names with
  | nil => exact Nat.zero_le _
  | cons name names =>
    have absolute : (Path.mk ((name :: names).flatMap (slash :: ·))).isAbsolute = true := rfl
    simp only [absolute, if_true]
    have fewer := List.length_filterMap_le Component.ofPart? (name :: names)
    exact Nat.succ_le_succ fewer

/-- The steps of the path of a location are its names, from the root. -/
theorem components_path {location : Location} (proper : location.Proper) :
    (Location.path location).components = .root :: location.map .name := by
  rw [components_eq (isAbsolute_path location) (downward_path proper), steps_path proper]

end Path

namespace Url

/-- A slash after a drive letter at the end does not change where a path leads. -/
theorem components_closeDrive {bytes : Bytes} (absolute : (Path.mk bytes).isAbsolute = true) :
    (Path.mk (closeDrive bytes)).components = (Path.mk bytes).components := by
  unfold closeDrive
  split
  · split
    · exact Path.components_append_slash absolute
    · rfl
  · rfl

/-- The path that comes back for a location takes the steps of the location. -/
theorem components_returned {location : Location} (proper : location.Proper) :
    (returned location).components = .root :: location.map .name :=
  (components_closeDrive (Path.isAbsolute_path location)).trans (Path.components_path proper)

end Url

/-- Whether the locator of an entry keeps the path of its archive: no name but the last ends in an
exclamation mark, and the first is no drive letter with a bar after it. -/
structure Locator.KeepsArchive (location : Location) : Prop where
  mark : Url.keepsMark location
  noBar : ∀ name ∈ location.head?, Url.isBarredDrive name = false

namespace Url

private theorem colonFirst_proper {location : Location} (proper : location.Proper) :
    Location.Proper (colonFirst location) := by
  cases location with
  | nil => exact proper
  | cons name location =>
    intro other member
    rcases List.mem_cons.mp member with rfl | later
    · by_cases barred : isBarredDrive name = true
      · obtain ⟨letter, rfl, alpha⟩ := isBarredDrive_iff.mp barred
        have changed : withColon [letter, 0x7C] = [letter, 0x3A] := if_pos alpha
        have noSlash := (proper _ List.mem_cons_self).2.2.2
        rw [changed]
        refine ⟨List.cons_ne_nil _ _, by simp, by simp [Path.dot], ?_⟩
        intro inside
        rcases List.mem_cons.mp inside with same | colon
        · exact noSlash (List.mem_cons.mpr (.inl same))
        · exact absurd (List.mem_singleton.mp colon) (by decide)
      · rw [withColon, if_neg barred]
        exact proper name List.mem_cons_self
    · exact proper other (List.mem_cons_of_mem name later)

/-- The first name is kept unless it reads as a drive with a bar. -/
theorem colonFirst_eq_self_iff {location : Location} :
    colonFirst location = location ↔ ∀ name ∈ location.head?, isBarredDrive name = false := by
  cases location with
  | nil => exact ⟨fun _ name member => (nomatch member), fun _ => rfl⟩
  | cons name location =>
    rw [List.head?_cons, colonFirst, List.cons.injEq, withColon_eq_self_iff]
    constructor
    · rintro ⟨plain, -⟩ other member
      rw [← Option.some.inj member]
      exact plain
    · intro plain
      exact ⟨plain name rfl, rfl⟩

/-- Where the text of a file's URL leads: to its names, with a colon for the bar of a drive. -/
theorem toFilePath?_parse {location : Location} (below : location ≠ []) (proper : location.Proper) :
    ((parse (ofNames location).chars).toOption.bind (·.toFilePath?)) =
      some (returned (colonFirst location)) := by
  have colonBelow : colonFirst location ≠ [] := by
    obtain ⟨name, rest, rfl⟩ := List.exists_cons_of_ne_nil below
    exact List.cons_ne_nil _ _
  have led := toFilePath?_namesOf (colonFirst location)
  rw [namesOf, if_neg colonBelow] at led
  rw [parse_chars_ofNames below proper]
  exact led

/-- The text of a file's URL leads no further down than it has names. -/
theorem length_components_of_parse {names : List Bytes} (nonempty : names ≠ [])
    (plain : ∀ name ∈ names, Path.slash ∉ name) {path : Path}
    (led : (parse (ofNames names).chars).toOption.bind (·.toFilePath?) = some path) :
    path.components.length ≤ names.length + 1 := by
  obtain ⟨others, parsed, plainOthers, fewer⟩ := exists_parse_chars_ofNames nonempty plain
  rw [parsed] at led
  have someNames : others ≠ [] := by
    rintro rfl
    cases led
  obtain rfl := Option.some.inj ((toFilePath?_ofNames someNames).symm.trans led)
  have absolute : (Path.mk (others.flatMap (Path.slash :: ·))).isAbsolute = true := by
    obtain ⟨name, rest, rfl⟩ := List.exists_cons_of_ne_nil someNames
    rfl
  rw [components_closeDrive absolute]
  exact Nat.le_trans (Path.length_components_le plainOthers) (Nat.succ_le_succ fewer)

end Url

namespace Locator

/-- **The locator of a file leads back to the path of its steps.** -/
theorem exists_fileLocator {path : Path} (absolute : path.isAbsolute = true)
    (downward : path.Downward) :
    ∃ locator, ofFile? path = some locator ∧ locator.toFile? = some (Url.returned path.steps) ∧
      locator.toEntry? = none := by
  have otherScheme : "file".toList ≠ "jar".toList := by decide
  refine ⟨⟨Url.ofNames (Url.namesOf path.steps)⟩, ?_, ?_, if_neg otherScheme⟩
  · rw [ofFile?, Url.ofFilePath?_eq absolute downward]
    rfl
  · exact (if_pos rfl).trans (Url.toFilePath?_namesOf path.steps)

/-- How the locator of an entry is taken apart. -/
theorem exists_takenApart {written : List Bytes} (nonempty : written ≠ [])
    (plain : ∀ name ∈ written, Path.slash ∉ name) {url : Url} (scheme : url.scheme = "jar".toList)
    {key : List Char} (text : url.chars = Url.jarText written key) :
    ∃ (names : List Bytes) (entry : List Char), names ≠ [] ∧
      Locator.toEntry? ⟨url⟩ =
        ((Url.parse (Url.ofNames names).chars).toOption.bind (·.toFilePath?)).map
          (·, String.ofList entry) ∧
      (∀ name ∈ names, Path.slash ∉ name) ∧
      (Url.keepsMark written ∧ names = written ∧ entry = key ∨
        ¬Url.keepsMark written ∧ names.length < written.length) := by
  obtain ⟨name, rest, rfl⟩ := List.exists_cons_of_ne_nil nonempty
  obtain ⟨first, others, entry, cut, plain, outcome⟩ := Url.exists_cutFirst_pathText plain key
  have found : Text.cutFirst entryMark (url.chars.drop "jar:".length) =
      some ((Url.ofNames (first :: others)).chars, entry) := by
    have shape : url.chars.drop "jar:".length =
        Url.fileStart ++ '/' :: (Url.encodeBytes Url.escapedInFileName name ++
          (Url.pathText rest ++ '!' :: '/' :: key)) := by
      have dropped : (Url.jarText (name :: rest) key).drop "jar:".length =
          Url.jarStart (name :: rest) ++ key :=
        List.drop_left
      rw [text, dropped, Url.jarStart, Url.chars_ofNames, Url.pathText_cons]
      simp only [List.append_assoc, List.cons_append]
      rfl
    rw [shape, Url.cutFirst_fileStart, cut, Url.chars_ofNames, Url.pathText_cons]
    rfl
  refine ⟨first :: others, entry, List.cons_ne_nil _ _, ?_, plain, ?_⟩
  · unfold Locator.toEntry?
    rw [if_pos scheme, found]
    change ((Url.parse (Url.ofNames (first :: others)).chars).toOption.bind fun archive =>
      archive.toFilePath?.bind fun path => some (path, String.ofList entry)) = _
    cases (Url.parse (Url.ofNames (first :: others)).chars).toOption with
    | none => rfl
    | some archive => exact Option.map_eq_bind.symm
  · rcases outcome with ⟨keeps, rfl, rfl, rfl⟩ | ⟨cutEarly, shorter⟩
    · exact .inl ⟨keeps, rfl, rfl⟩
    · exact .inr ⟨cutEarly, Nat.succ_lt_succ shorter⟩

/-- How the locator of an entry is made. -/
theorem exists_ofEntry {archive : Path} (absolute : archive.isAbsolute = true)
    (downward : archive.Downward) (key : String) :
    ∃ url, ofEntry? archive key = some ⟨url⟩ ∧ url.scheme = "jar".toList ∧
      url.chars = Url.jarText (Url.namesOf archive.steps)
        (Url.entryText (key.toList.dropWhile (· == '/'))) := by
  obtain ⟨url, parsed, scheme, text⟩ := Url.exists_parse_jarText (Url.namesOf archive.steps)
    (key.toList.dropWhile (· == '/'))
  refine ⟨url, ?_, scheme, text⟩
  have written (name : List Char) : "jar:".toList ++
      (Url.ofNames (Url.namesOf archive.steps)).chars ++ entryMark ++ name =
        Url.jarText (Url.namesOf archive.steps) name := by
    simp only [Url.jarText, Url.jarStart, List.append_assoc]
  unfold Locator.ofEntry?
  simp only [Url.ofFilePath?_eq absolute downward, Option.bind_eq_bind, Option.bind_some, written,
    parsed]
  rfl

/-- **Where the locator of an entry leads back to**: to the path of the archive and to the rewritten
name of the entry if it keeps that path, and else to no place or another one. -/
theorem exists_entryLocator {location : Location} (proper : location.Proper) (below : location ≠ [])
    (key : String) :
    ∃ locator, ofEntry? (Location.path location) key = some locator ∧ locator.toFile? = none ∧
      (KeepsArchive location → locator.toEntry? = some (Url.returned location,
        .ofList (Url.entryText (key.toList.dropWhile (· == '/'))))) ∧
      (¬KeepsArchive location → ∀ archive entry, locator.toEntry? = some (archive, entry) →
        (Location.path location).samePlace archive = false) := by
  obtain ⟨url, made, scheme, text⟩ :=
    exists_ofEntry (Path.isAbsolute_path location) (Path.downward_path proper) key
  rw [Path.steps_path proper, Url.namesOf, if_neg below] at text
  obtain ⟨names, entry, nonempty, taken, plain, outcome⟩ :=
    exists_takenApart below (fun _ member => proper.slash_notMem member) scheme text
  have otherScheme : url.scheme ≠ "file".toList := by
    rw [scheme]
    decide
  refine ⟨⟨url⟩, made, if_neg otherScheme, ?_, ?_⟩
  · rintro ⟨keepsMark, noBar⟩
    rcases outcome with ⟨-, sameNames, sameEntry⟩ | ⟨cutEarly, -⟩
    · rw [taken, sameNames, sameEntry, Url.toFilePath?_parse below proper,
        Url.colonFirst_eq_self_iff.mpr noBar]
      rfl
    · exact absurd keepsMark cutEarly
  · intro lost archive rewritten returned
    rw [taken] at returned
    obtain ⟨path, led, same⟩ := Option.map_eq_some_iff.mp returned
    obtain ⟨rfl, rfl⟩ := Prod.mk.inj same
    rw [Path.samePlace, Path.components_path proper, beq_eq_false_iff_ne]
    intro samePlace
    rcases outcome with ⟨keepsMark, unchanged, -⟩ | ⟨-, shorter⟩
    · -- The mark is kept, so the first name is a drive letter with a bar.
      rw [unchanged, Url.toFilePath?_parse below proper] at led
      obtain rfl := Option.some.inj led
      rw [Url.components_returned (Url.colonFirst_proper proper)] at samePlace
      have sameNames : Url.colonFirst location = location :=
        ((List.map_inj_right fun _ _ => Path.Component.name.inj).mp
          (List.cons.inj samePlace).2).symm
      exact lost ⟨keepsMark, Url.colonFirst_eq_self_iff.mp sameNames⟩
    · -- An earlier mark cuts names off.
      have short := Url.length_components_of_parse nonempty plain led
      rw [← samePlace, List.length_cons, List.length_map] at short
      omega

end Locator

end Isolation
