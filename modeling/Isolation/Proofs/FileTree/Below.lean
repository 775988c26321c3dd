import Isolation.Proofs.FileTree.Made
import Isolation.Proofs.Path.Lexical

/-!
# What lies below a directory

A child that is named by one step of a path stands below the directory that the path leads to
(`Isolation.FileTree.exists_above_of_resolve_child`), and writing it changes nothing else
(`Isolation.FileTree.exists_above_of_write_child`). What is made on the way to a place below a
directory that stands already lies below that directory (`Isolation.FileTree.Makes.liesBelow`).
-/

namespace Isolation

/-- Whether a place is somewhere below another one. -/
def Location.LiesBelow (base place : Location) : Prop :=
  base <+: place ∧ place ≠ base

/-- Names lead to a place below the one where they start. -/
theorem Location.liesBelow_append (base : Location) {names : Location} (nonempty : names ≠ []) :
    LiesBelow base (base ++ names) :=
  ⟨List.prefix_append base names, fun same => nonempty (List.append_right_eq_self.mp same)⟩

namespace FileTree

variable {tree grown : FileTree} {base location place : Location}

/-- Something stands at every location above one where something stands. -/
theorem isSome_above (above : place <+: location) (stands : (tree.node? location).isSome) :
    (tree.node? place).isSome := by
  obtain ⟨names, rfl⟩ := above
  induction names using List.reverseRecOn with
  | nil => rwa [List.append_nil] at stands
  | append_singleton names last ih =>
    obtain ⟨node, found⟩ := Option.isSome_iff_exists.mp stands
    rw [← List.append_assoc] at found
    obtain ⟨directory, -⟩ := directory_above found
    exact ih (directory ▸ rfl)

section Child

variable {path : Path} {name : String}

/-- A path can be followed as far as that of a child has been followed. -/
theorem resolve_of_child (isOpen : path.Open) (plain : Path.slash ∉ Utf8.ofString name)
    (checked : checkPath (path.child name) = .ok ())
    (followed : path.parts.foldlM tree.follow (tree.startOf (path.child name)) = .ok location) :
    tree.resolve path = .ok location := by
  have start : tree.startOf (path.child name) = tree.startOf path := by
    rw [startOf, startOf, Path.isAbsolute_child isOpen plain]
  have shorter : path.bytes <+: (path.child name).bytes := by
    rw [Path.child_of_open isOpen plain]
    exact List.prefix_append _ _
  exact resolve_eq_ok_iff.mpr
    ⟨checkPath_of_isPrefix shorter isOpen.nonempty checked, start ▸ followed⟩

/-- **A child stands below the directory that its path leads through.** -/
theorem exists_above_of_resolve_child (isOpen : path.Open)
    (proper : FileName.Proper (Utf8.ofString name))
    (resolved : tree.resolve (path.child name) = .ok place) :
    ∃ above, tree.resolve path = .ok above ∧ place = above ++ [Utf8.ofString name] := by
  obtain ⟨nonempty, noDot, notUp, plain⟩ := proper
  obtain ⟨checked, followed⟩ := resolve_eq_ok_iff.mp resolved
  rw [Path.parts_child isOpen plain] at followed
  obtain ⟨above, before, final⟩ := exists_of_foldlM_concat_eq_ok followed
  refine ⟨above, resolve_of_child isOpen plain checked before, ?_⟩
  rcases follow_eq_ok final with ⟨idle, -⟩ | up | ⟨-, here⟩
  · have leads : Path.leads (Utf8.ofString name) = true :=
      Path.leads_eq_true_iff.mpr fun none => none.elim nonempty noDot
    rw [leads] at idle
    cases idle
  · exact absurd up notUp
  · exact here

/-- **Writing a child changes nothing but that child.** -/
theorem exists_above_of_write_child {content : Bytes} (isOpen : path.Open)
    (proper : FileName.Proper (Utf8.ofString name))
    (written : tree.write (path.child name) content = .ok grown) :
    ∃ above, tree.resolve path = .ok above ∧
      grown.node? (above ++ [Utf8.ofString name]) = some (.file content) ∧
      ∀ other, other ≠ above ++ [Utf8.ofString name] → grown.node? other = tree.node? other := by
  obtain ⟨nonempty, -, -, plain⟩ := proper
  obtain ⟨parent, last, target, stands, others⟩ := exists_target_of_write written
  obtain ⟨checked, above, idle, parts, empty, followed⟩ := cutTarget_eq_ok target
  rw [Path.parts_child isOpen plain] at parts
  -- The name of the child is the last part, so no part after it is left out.
  obtain rfl : idle = [] := by
    rcases List.eq_nil_or_concat idle with none | ⟨before, part, rfl⟩
    · exact none
    · rw [List.concat_eq_append] at parts empty
      have idlePart := empty part (List.mem_append_right _ (List.mem_singleton_self part))
      rw [← List.cons_append, ← List.append_assoc] at parts
      exact absurd ((List.append_singleton_inj.mp parts).2.trans idlePart) nonempty
  obtain ⟨rfl, rfl⟩ := List.append_singleton_inj.mp parts
  exact ⟨parent, resolve_of_child isOpen plain checked followed, stands, others⟩

/-- Where the path of a child would put something new, if a file is there already. -/
theorem cutTarget_child_of_read (isOpen : path.Open)
    (proper : FileName.Proper (Utf8.ofString name)) {old : Bytes}
    (readable : tree.read (path.child name) = .ok old) :
    ∃ above, tree.cutTarget (path.child name) = .ok (above, some (Utf8.ofString name)) ∧
      tree.resolve (path.child name) = .ok (above ++ [Utf8.ofString name]) ∧
      tree.node? (above ++ [Utf8.ofString name]) = some (.file old) := by
  obtain ⟨nonempty, -, -, plain⟩ := proper
  have parts := Path.parts_child isOpen plain
  obtain ⟨-, above, followed, resolved⟩ := exists_directory_of_read parts readable
  obtain ⟨location, found⟩ := nodeAt_of_read readable
  obtain ⟨leads, stands⟩ := resolve_of_nodeAt found
  obtain rfl := Except.ok.inj (resolved.symm.trans leads)
  have kept : (((path.parts ++ [Utf8.ofString name]).reverse.dropWhile (· == [])).reverse) =
      path.parts ++ [Utf8.ofString name] := by
    rw [List.reverse_append, List.reverse_singleton, List.singleton_append,
      List.dropWhile_cons_of_neg (by simpa using nonempty), List.reverse_cons,
      List.reverse_reverse]
  refine ⟨above, ?_, resolved, stands⟩
  rw [cutTarget, (resolve_eq_ok_iff.mp resolved).1, parts, kept]
  simp only [bind, Except.bind, List.getLast?_concat, List.dropLast_concat, followed,
    (directory_above stands).1]

/-- A child that is a file can be written, and then is read as it was written. -/
theorem exists_write_child_of_read (isOpen : path.Open)
    (proper : FileName.Proper (Utf8.ofString name)) {old : Bytes}
    (readable : tree.read (path.child name) = .ok old) (content : Bytes) :
    ∃ grown, tree.write (path.child name) content = .ok grown ∧
      grown.read (path.child name) = .ok content := by
  obtain ⟨above, target, resolved, stands⟩ := cutTarget_child_of_read isOpen proper readable
  obtain ⟨nonempty, noDot, notUp, plain⟩ := proper
  have isName : ¬(Utf8.ofString name = [Path.dot] ∨ Utf8.ofString name = [Path.dot, Path.dot] ∨
      (path.child name).bytes.getLast? = some Path.slash) := by
    rintro (dot | up | slashed)
    · exact noDot dot
    · exact notUp up
    · exact (Path.open_child path nonempty plain).noSlash slashed
  refine ⟨tree.overwrite (above ++ [Utf8.ofString name]) content, ?_, ?_⟩
  · rw [write, target]
    simp only [bind, Except.bind, if_neg isName, stands]
  · have leads := (extends_overwrite stands content).resolve resolved
    rw [read, nodeAt_of_resolve leads, node?_overwrite stands]
    rfl

end Child

/-- A place that has an absolute path is where that path leads. -/
theorem resolve_of_canonical {path : Path} (proper : base.Proper)
    (followed : tree.canonical path = .ok (Location.path base)) :
    tree.resolve path = .ok base ∧ (tree.node? base).isSome := by
  obtain ⟨⟨location, node⟩, found, followed⟩ := exists_of_bind_eq_ok followed
  obtain ⟨resolved, stands⟩ := resolve_of_nodeAt found
  have same : location.path = base.path := Except.ok.inj followed
  obtain rfl : location = base := by
    rw [← Path.steps_path (proper_of_node? stands), same, Path.steps_path proper]
  exact ⟨resolved, stands ▸ rfl⟩

/-- What is made on the way to a location stands at the location or above it. -/
theorem Makes.prefix_location (proper : location.Proper)
    (makes : tree.Makes grown (Location.path location) place) : place <+: location := by
  obtain ⟨ancestor, higher, leads⟩ := makes.onTheWay
  obtain ⟨above, upwards, rfl⟩ := higher.exists_location proper
  have properAbove : Location.Proper above :=
    fun name member => proper name (upwards.subset member)
  have here :=
    eq_steps_of_resolve (Path.isAbsolute_path above) (Path.downward_path properAbove) leads
  rw [here, Path.steps_path properAbove]
  exact upwards

/-- **What is made on the way to a place below one that stands lies below that one.** -/
theorem Makes.liesBelow (proper : location.Proper) (stands : (tree.node? base).isSome)
    (below : base <+: location) (makes : tree.Makes grown (Location.path location) place) :
    base.LiesBelow place := by
  have absent : ¬(tree.node? place).isSome := by
    rw [makes.absent]
    exact Bool.false_ne_true
  rcases List.prefix_or_prefix_of_prefix below (makes.prefix_location proper) with onward | upward
  · exact ⟨onward, fun same => absent (same ▸ stands)⟩
  · exact absurd (isSome_above upward stands) absent

end FileTree

end Isolation
