import Isolation.Proofs.Path.Steps

/-!
# Paths as they are written

Where a path leads can be read off its components if the dots among them are settled: a name with
two dots after it is as good as none. A child that is named by one step of a path is one component
below it (`Isolation.Path.normalized_child_of_proper`). The ancestors of the path of a location are
the paths of the locations above it (`Isolation.Path.IsAncestor.exists_location`).
-/

namespace Isolation.Path

/-- Settled components with one more. A step upwards takes back the name before it, goes nowhere
from the root, and stays where there is nothing to take back. -/
def Component.settle (settled : List Component) : Component → List Component
  | here => settled
  | up =>
    match settled.getLast? with
    | some (name _) => settled.dropLast
    | some root => settled
    | _ => settled ++ [up]
  | further => settled ++ [further]

/-- The components of a path with all dots settled, without a look at any files. -/
def normalized (path : Path) : List Component :=
  path.components.foldl Component.settle []

/-- Whether a slash is needed between a path and what is put after it. -/
structure Open (path : Path) : Prop where
  nonempty : path.bytes ≠ []
  noSlash : path.bytes.getLast? ≠ some slash

section Child

variable {base : Path} {name : String}

private theorem isAbsolute_of_slash_notMem {bytes : Bytes} (plain : slash ∉ bytes) :
    (Path.mk bytes).isAbsolute = false := by
  rw [isAbsolute, beq_eq_false_iff_ne]
  exact fun absolute => plain (List.mem_of_head? absolute)

/-- The path of a child is that of its directory, a slash and its name. -/
theorem child_of_open (isOpen : base.Open) (plain : slash ∉ Utf8.ofString name) :
    base.child name = ⟨base.bytes ++ slash :: Utf8.ofString name⟩ := by
  have relative : (ofString name).isAbsolute = false := isAbsolute_of_slash_notMem plain
  have gap : ¬(base.bytes = [] ∨ base.bytes.getLast? = some slash) :=
    fun closed => closed.elim isOpen.nonempty isOpen.noSlash
  rw [child, join, relative, if_neg Bool.false_ne_true, if_neg gap, ofString]

/-- A child whose name has no slash is open below. -/
theorem open_child (base : Path) (nonempty : Utf8.ofString name ≠ [])
    (plain : slash ∉ Utf8.ofString name) : (base.child name).Open := by
  have ends : ∃ before, (base.child name).bytes = before ++ Utf8.ofString name := by
    have relative : (ofString name).isAbsolute = false := isAbsolute_of_slash_notMem plain
    rw [child, join, relative, if_neg Bool.false_ne_true]
    by_cases closed : base.bytes = [] ∨ base.bytes.getLast? = some slash
    · rw [if_pos closed]
      exact ⟨base.bytes, rfl⟩
    · rw [if_neg closed]
      exact ⟨base.bytes ++ [slash], (List.append_cons base.bytes slash _)⟩
  obtain ⟨before, shape⟩ := ends
  constructor
  · rw [shape]
    exact List.append_ne_nil_of_right_ne_nil before nonempty
  · rw [shape, List.getLast?_append, List.getLast?_eq_some_getLast nonempty, Option.some_or]
    exact fun slashed => plain (Option.some.inj slashed ▸ List.getLast_mem nonempty)

/-- The path of a child is absolute if that of its directory is. -/
theorem isAbsolute_child (isOpen : base.Open) (plain : slash ∉ Utf8.ofString name) :
    (base.child name).isAbsolute = base.isAbsolute := by
  obtain ⟨first, rest, shape⟩ := List.exists_cons_of_ne_nil isOpen.nonempty
  rw [child_of_open isOpen plain, isAbsolute, isAbsolute, shape, List.cons_append, List.head?_cons,
    List.head?_cons]

/-- The name of a child is the last part of its path. -/
theorem parts_child (isOpen : base.Open) (plain : slash ∉ Utf8.ofString name) :
    (base.child name).parts = base.parts ++ [Utf8.ofString name] := by
  rw [child_of_open isOpen plain, parts, List.splitOn_append_cons_self,
    List.splitOn_eq_singleton plain, parts]

private theorem components_child (isOpen : base.Open) (plain : slash ∉ Utf8.ofString name) :
    (base.child name).components =
      base.components ++ (Component.ofPart? (Utf8.ofString name)).toList := by
  obtain ⟨first, rest, shape⟩ :=
    List.exists_cons_of_ne_nil (List.splitOn_ne_nil slash base.bytes)
  change base.parts = first :: rest at shape
  rw [components, components, parts_child isOpen plain, isAbsolute_child isOpen plain, shape]
  have last : [Utf8.ofString name].filterMap Component.ofPart? =
      (Component.ofPart? (Utf8.ofString name)).toList := by
    cases stands : Component.ofPart? (Utf8.ofString name) with
    | none => exact List.filterMap_cons_none stands
    | some component => exact List.filterMap_cons_some stands
  simp only [List.cons_append, List.filterMap_append, last, List.append_assoc]

/-- The name of a child is settled after the components of its directory. -/
theorem normalized_child (isOpen : base.Open) (plain : slash ∉ Utf8.ofString name) :
    (base.child name).normalized =
      (Component.ofPart? (Utf8.ofString name)).toList.foldl Component.settle base.normalized := by
  rw [normalized, components_child isOpen plain, List.foldl_append, normalized]

/-- A child with a proper name is one component below. -/
theorem normalized_child_of_proper (isOpen : base.Open)
    (proper : FileName.Proper (Utf8.ofString name)) :
    (base.child name).normalized = base.normalized ++ [.name (Utf8.ofString name)] := by
  obtain ⟨nonempty, noDot, notUp, plain⟩ := proper
  have named : Component.ofPart? (Utf8.ofString name) = some (.name (Utf8.ofString name)) := by
    rw [Component.ofPart?, if_neg fun idle => idle.elim nonempty noDot, if_neg notUp]
  rw [normalized_child isOpen plain, named]
  rfl

end Child

section Ancestors

variable {location above : Location}

private theorem dropIdleEnd_concat {above : List Bytes} {last : Bytes}
    (leadsOn : leads last = true) :
    dropIdleEnd (above ++ [last]) = above ++ [last] := by
  have kept : ¬(last == [] || last == [dot]) = true := by
    rw [Bool.or_eq_true, beq_iff_eq, beq_iff_eq]
    exact leads_eq_true_iff.mp leadsOn
  rw [dropIdleEnd, List.reverse_concat, List.dropWhile_cons, if_neg kept, List.reverse_cons,
    List.reverse_reverse]

private theorem dropIdleEnd_of_proper (proper : location.Proper) :
    dropIdleEnd location = location := by
  rcases List.eq_nil_or_concat location with rfl | ⟨above, last, rfl⟩
  · rfl
  · rw [List.concat_eq_append] at *
    exact dropIdleEnd_concat (proper.leads List.mem_concat_self)

/-- The path above an absolute one whose last part leads on. -/
theorem parent?_of_parts {path : Path} (absolute : path.isAbsolute = true) {above : List Bytes}
    {last : Bytes} (parts : path.parts = [] :: (above ++ [last])) (leadsOn : leads last = true) :
    path.parent? = some ⟨slash :: joinParts (dropIdleEnd above)⟩ := by
  unfold parent?
  rw [parts]
  simp only [absolute, if_true]
  rw [dropIdleEnd_concat leadsOn,
    if_neg (List.append_ne_nil_of_right_ne_nil above (List.cons_ne_nil last [])),
    List.dropLast_concat]

/-- The path above that of a location is the path of the location above. -/
theorem parent?_path {last : FileName} (proper : Location.Proper (above ++ [last])) :
    (Location.path (above ++ [last])).parent? = some (Location.path above) := by
  have below : above ++ [last] ≠ [] :=
    List.append_ne_nil_of_right_ne_nil above (List.cons_ne_nil last [])
  have shape : (Location.path (above ++ [last])).parts = [] :: (above ++ [last]) := by
    obtain ⟨first, rest, cut⟩ := List.exists_cons_of_ne_nil below
    rw [cut] at proper ⊢
    exact parts_path_cons proper
  rw [parent?_of_parts (isAbsolute_path _) shape (proper.leads List.mem_concat_self),
    dropIdleEnd_of_proper (Location.proper_append.mp proper).1, joinParts]
  cases above with
  | nil => rfl
  | cons first rest =>
    have joined := intercalate_eq_flatMap (first :: rest)
    rw [List.intercalate_cons_cons, List.nil_append, List.singleton_append] at joined
    rw [joined]
    rfl

/-- **The ancestors of the path of a location are the paths of the locations above.** -/
theorem IsAncestor.exists_location {ancestor : Path} (proper : location.Proper)
    (higher : ancestor.IsAncestor (Location.path location)) :
    ∃ above, above <+: location ∧ ancestor = Location.path above := by
  generalize start : Location.path location = path at higher
  induction higher generalizing location with
  | self => exact ⟨location, List.prefix_rfl, start.symm⟩
  | above isParent _ ih =>
    subst start
    rcases List.eq_nil_or_concat location with rfl | ⟨inner, last, rfl⟩
    · cases isParent
    · rw [List.concat_eq_append] at *
      rw [parent?_path proper] at isParent
      obtain ⟨above, upwards, named⟩ :=
        ih (Location.proper_append.mp proper).1 (Option.some.inj isParent)
      exact ⟨above, upwards.trans (List.prefix_append inner [last]), named⟩

end Ancestors

end Isolation.Path
