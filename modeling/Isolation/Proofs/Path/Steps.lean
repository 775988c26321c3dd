import Isolation.FileTree

/-!
# Steps of paths

The parts of a path that lead on are its steps. The path of a location has the names of the location
as its steps, and a relative path below it adds its own
(`Isolation.Path.parts_join`, `Isolation.Path.components_eq`).
-/

namespace Isolation

namespace Path

/-- Whether a part of a path leads on: it is neither empty nor a dot. -/
def leads (part : Bytes) : Bool :=
  part ≠ [] && part ≠ [dot]

/-- The parts of a path that lead on. -/
def steps (path : Path) : List Bytes :=
  path.parts.filter leads

/-- Whether a path never leads upwards. -/
def Downward (path : Path) : Prop :=
  [dot, dot] ∉ path.parts

/-- Whether a path is another one without some components at its end, or without any of them left
out. -/
inductive IsAncestor : Path → Path → Prop
  | self (path : Path) : IsAncestor path path
  | above {ancestor parent path : Path} (isParent : path.parent? = some parent)
      (higher : IsAncestor ancestor parent) : IsAncestor ancestor path

/-- What is dropped from the end of a list stood behind what is kept. -/
theorem exists_append_dropped (drop : Bytes → Bool) (parts : List Bytes) :
    ∃ dropped, parts = (parts.reverse.dropWhile drop).reverse ++ dropped ∧
      ∀ part ∈ dropped, drop part = true := by
  refine ⟨(parts.reverse.takeWhile drop).reverse, ?_, fun part member => ?_⟩
  · rw [← List.reverse_append, List.takeWhile_append_dropWhile, List.reverse_reverse]
  · exact List.all_eq_true.mp List.all_takeWhile part (List.mem_reverse.mp member)

/-- A part of a path leads on unless it is empty or a dot. -/
theorem leads_eq_true_iff {part : Bytes} : leads part = true ↔ ¬(part = [] ∨ part = [dot]) := by
  simp [leads, not_or]

end Path

/-- Whether a name is one step of a path: it leads on, not upwards, and no slash splits it. -/
def FileName.Proper (name : FileName) : Prop :=
  name ≠ [] ∧ name ≠ [Path.dot] ∧ name ≠ [Path.dot, Path.dot] ∧ Path.slash ∉ name

/-- Whether every name of a location is one step of a path. -/
def Location.Proper (location : Location) : Prop :=
  ∀ name ∈ location, FileName.Proper name

namespace Location.Proper

variable {location : Location}

/-- The names of a proper location lead on. -/
theorem leads (proper : Proper location) {name : FileName} (member : name ∈ location) :
    Path.leads name = true := by
  obtain ⟨nonempty, noDot, -⟩ := proper name member
  exact Path.leads_eq_true_iff.mpr fun idle => idle.elim nonempty noDot

/-- No name of a proper location leads upwards. -/
theorem not_up (proper : Proper location) : [Path.dot, Path.dot] ∉ location := by
  intro member
  obtain ⟨-, -, notUp, -⟩ := proper _ member
  exact notUp rfl

/-- No name of a proper location has a slash. -/
theorem slash_notMem (proper : Proper location) {name : FileName} (member : name ∈ location) :
    Path.slash ∉ name := by
  obtain ⟨-, -, -, noSlash⟩ := proper name member
  exact noSlash

/-- All names of a proper location lead on. -/
theorem filter_leads (proper : Proper location) : location.filter Path.leads = location :=
  List.filter_eq_self.mpr fun _ member => proper.leads member

/-- Proper locations one after the other are proper. -/
theorem append {more : Location} (proper : Proper location) (properMore : Proper more) :
    Proper (location ++ more) := by
  intro name member
  exact (List.mem_append.mp member).elim (proper name) (properMore name)

end Location.Proper

/-- A location is proper if its two parts are. -/
theorem Location.proper_append {location more : Location} :
    Proper (location ++ more) ↔ Proper location ∧ Proper more := by
  constructor
  · intro proper
    exact ⟨fun name member => proper name (List.mem_append_left more member),
      fun name member => proper name (List.mem_append_right location member)⟩
  · exact fun both => both.1.append both.2

namespace Path

/-- The bytes of a path whose names each follow a slash. -/
theorem intercalate_eq_flatMap (names : List Bytes) :
    [slash].intercalate ([] :: names) = names.flatMap (slash :: ·) := by
  induction names with
  | nil => rfl
  | cons name names ih =>
    rw [List.intercalate_cons_cons, List.nil_append, List.flatMap_cons, ← ih]
    cases names with
    | nil => simp
    | cons next names => simp [List.intercalate_cons_cons]

/-- Names that each follow a slash are found again by splitting at the slashes. -/
theorem splitOn_flatMap {names : List Bytes} (plain : ∀ name ∈ names, slash ∉ name) :
    (names.flatMap (slash :: ·)).splitOn slash = [] :: names := by
  rw [← intercalate_eq_flatMap]
  refine List.splitOn_intercalate slash ?_ (List.cons_ne_nil _ _)
  intro part member
  rcases List.mem_cons.mp member with rfl | inside
  · exact List.not_mem_nil
  · exact plain part inside

/-- The parts of the path of a location are its names, after an empty one for the root. -/
theorem parts_path_cons {name : FileName} {location : Location}
    (proper : Location.Proper (name :: location)) :
    (Location.path (name :: location)).parts = [] :: name :: location := by
  rw [Location.path, if_neg (List.cons_ne_nil _ _)]
  exact splitOn_flatMap fun _ member => proper.slash_notMem member

/-- The path of a location is absolute. -/
theorem isAbsolute_path (location : Location) : (Location.path location).isAbsolute = true := by
  cases location with
  | nil => rfl
  | cons name location => rfl

/-- The path of a location is not empty. -/
theorem bytes_path_ne_nil (location : Location) : (Location.path location).bytes ≠ [] := by
  cases location with
  | nil => exact List.cons_ne_nil _ _
  | cons name location => exact List.cons_ne_nil _ _

/-- No zero stands in the path of a location whose names have none. -/
theorem nul_notMem_path {location : Location} (absent : ∀ name ∈ location, 0 ∉ name) :
    0 ∉ (Location.path location).bytes := by
  intro member
  by_cases atRoot : location = []
  · rw [Location.path, if_pos atRoot] at member
    exact absurd member (by decide)
  · rw [Location.path, if_neg atRoot] at member
    obtain ⟨name, inside, here⟩ := List.mem_flatMap.mp member
    rcases List.mem_cons.mp here with slash | within
    · exact absurd slash (by decide)
    · exact absent name inside within

private theorem getLast?_path {location : Location} (proper : location.Proper)
    (below : location ≠ []) :
    (Location.path location).bytes.getLast? ≠ some slash := by
  intro ends
  obtain ⟨above, last, rfl⟩ : ∃ above last, location = above ++ [last] :=
    ⟨_, _, (List.dropLast_concat_getLast below).symm⟩
  have member : last ∈ above ++ [last] := List.mem_append_right above (List.mem_singleton_self last)
  obtain ⟨nonempty, -⟩ := proper last member
  rw [Location.path, if_neg below] at ends
  change ((above ++ [last]).flatMap (slash :: ·)).getLast? = some slash at ends
  rw [List.flatMap_append, List.flatMap_singleton, List.getLast?_append,
    List.getLast?_cons_of_ne_nil nonempty, List.getLast?_eq_some_getLast nonempty, Option.some_or,
    ← List.getLast?_eq_some_getLast nonempty] at ends
  exact proper.slash_notMem member (List.mem_of_getLast? ends)

/-- A relative path below a location goes through its names first. -/
theorem parts_join {location : Location} (proper : location.Proper) {further : Path}
    (relative : further.isAbsolute = false) :
    ((Location.path location).join further).parts = ([] :: location) ++ further.parts := by
  rw [join, if_neg (by rw [relative]; exact Bool.false_ne_true)]
  cases location with
  | nil =>
    have atRoot : (Location.path []).bytes.getLast? = some slash := rfl
    rw [if_pos (.inr atRoot)]
    exact List.splitOn_append_cons_self [] further.bytes
  | cons name location =>
    have below : name :: location ≠ [] := List.cons_ne_nil name location
    rw [if_neg, ← parts_path_cons proper]
    · exact List.splitOn_append_cons_self _ further.bytes
    · rintro (empty | ends)
      · cases empty
      · exact getLast?_path proper below ends

/-- A relative path is put after the names of a location. -/
theorem join_path {location : Location} (proper : location.Proper) {further : Path}
    (relative : further.isAbsolute = false) :
    (Location.path location).join further =
      ⟨location.flatMap (slash :: ·) ++ slash :: further.bytes⟩ := by
  rw [join, if_neg (by rw [relative]; exact Bool.false_ne_true)]
  by_cases atRoot : location = []
  · rw [atRoot]
    exact if_pos (.inr rfl)
  · have open' : ¬((Location.path location).bytes = [] ∨
        (Location.path location).bytes.getLast? = some slash) :=
      fun closed => closed.elim (bytes_path_ne_nil location) (getLast?_path proper atRoot)
    rw [if_neg open', Location.path, if_neg atRoot]

/-- The path of a location below another one is written after the path of that one. -/
theorem path_concat (location : Location) (names : Location) (below : names ≠ []) :
    Location.path (location ++ names) =
      ⟨location.flatMap (slash :: ·) ++ names.flatMap (slash :: ·)⟩ := by
  rw [Location.path, if_neg (List.append_ne_nil_of_right_ne_nil location below),
    List.flatMap_append]

/-- What is joined to an absolute path is absolute. -/
theorem isAbsolute_join_of_isAbsolute {base : Path} (absolute : base.isAbsolute = true)
    (further : Path) : (base.join further).isAbsolute = true := by
  by_cases itself : further.isAbsolute = true
  · rw [join, if_pos itself]
    exact itself
  · obtain ⟨bytes⟩ := base
    cases bytes with
    | nil => cases absolute
    | cons head rest =>
      rw [join, if_neg itself]
      by_cases closed : head :: rest = [] ∨ (head :: rest).getLast? = some slash
      · rw [if_pos closed]
        exact absolute
      · rw [if_neg closed]
        exact absolute

/-- What is joined to the path of a location is absolute. -/
theorem isAbsolute_join (location : Location) (further : Path) :
    ((Location.path location).join further).isAbsolute = true :=
  isAbsolute_join_of_isAbsolute (isAbsolute_path location) further

/-- Joining a second time changes nothing. -/
theorem join_join {base : Path} (absolute : base.isAbsolute = true) (further : Path) :
    base.join (base.join further) = base.join further :=
  if_pos (isAbsolute_join_of_isAbsolute absolute further)

/-- An absolute path starts with an empty part. -/
theorem parts_eq_cons_of_isAbsolute {path : Path} (absolute : path.isAbsolute = true) :
    ∃ rest, path.parts = [] :: rest := by
  obtain ⟨bytes⟩ := path
  cases bytes with
  | nil => cases absolute
  | cons head rest =>
    obtain rfl : head = slash := by simpa [isAbsolute] using absolute
    exact ⟨_, List.splitOn_append_cons_self [] rest⟩

private theorem filterMap_ofPart? {parts : List Bytes} (downward : [dot, dot] ∉ parts) :
    parts.filterMap Component.ofPart? = (parts.filter leads).map .name := by
  induction parts with
  | nil => rfl
  | cons part parts ih =>
    have onward := ih fun up => downward (List.mem_cons_of_mem part up)
    by_cases idle : part = [] ∨ part = [dot]
    · have skipped : Component.ofPart? part = none := if_pos idle
      rw [List.filterMap_cons_none skipped, onward, List.filter_cons_of_neg]
      exact fun led => leads_eq_true_iff.mp led idle
    · have named : Component.ofPart? part = some (.name part) := by
        rw [Component.ofPart?, if_neg idle, if_neg]
        exact fun up => downward (List.mem_cons.mpr (.inl up.symm))
      rw [List.filterMap_cons_some named, onward,
        List.filter_cons_of_pos (leads_eq_true_iff.mpr idle), List.map_cons]

/-- The components of an absolute path that never leads upwards are its steps. -/
theorem components_eq {path : Path} (absolute : path.isAbsolute = true)
    (downward : path.Downward) : path.components = .root :: path.steps.map .name := by
  obtain ⟨rest, shape⟩ := parts_eq_cons_of_isAbsolute absolute
  have below : [dot, dot] ∉ rest := by
    intro up
    exact downward (shape ▸ List.mem_cons_of_mem [] up)
  unfold components
  rw [shape]
  simp only [absolute, if_true]
  rw [filterMap_ofPart? below, steps, shape, List.filter_cons_of_neg (by decide)]
  rfl

/-- The path of a location takes the steps of the location. -/
theorem steps_path {location : Location} (proper : location.Proper) :
    (Location.path location).steps = location := by
  cases location with
  | nil => rfl
  | cons name location =>
    rw [steps, parts_path_cons proper, List.filter_cons_of_neg (by decide), proper.filter_leads]

/-- The path of a location never leads upwards. -/
theorem downward_path {location : Location} (proper : location.Proper) :
    (Location.path location).Downward := by
  cases location with
  | nil => exact (by decide : [dot, dot] ∉ [[], []])
  | cons name location =>
    rw [Downward, parts_path_cons proper]
    intro up
    exact (List.mem_cons.mp up).elim (fun idle => nomatch idle) proper.not_up

section Join

variable {location : Location} {further : Path}

/-- A relative path takes its steps after those of the location that it is joined to. -/
theorem steps_join (proper : location.Proper) (relative : further.isAbsolute = false) :
    ((Location.path location).join further).steps = location ++ further.steps := by
  rw [steps, parts_join proper relative, List.cons_append, List.filter_cons_of_neg (by decide),
    List.filter_append, proper.filter_leads]
  rfl

/-- A relative path that never leads upwards leads upwards from no location. -/
theorem downward_join (proper : location.Proper) (relative : further.isAbsolute = false)
    (downward : further.Downward) : ((Location.path location).join further).Downward := by
  rw [Downward, parts_join proper relative]
  intro up
  rcases List.mem_append.mp up with above | below
  · exact (List.mem_cons.mp above).elim (fun idle => nomatch idle) proper.not_up
  · exact downward below

end Join

end Path

end Isolation
