import Isolation.Proofs.FileTree.Extends
import Isolation.Proofs.Service.Marked
import Isolation.Proofs.Service.Publish
import Mathlib.Data.List.Basic

/-!
# Where services are found

Published services of one interface are bound to the locators of their descriptors, in the order of
their positions (`Isolation.Service.all_of_publish`).
-/

namespace Isolation.Service

/-- The path of a descriptor, from the directory that the services are published in. -/
theorem descriptorPath_eq_child {base : Location} (proper : base.Proper) (position : Nat)
    (service : Declaration) :
    descriptorPath (Location.path base) position service =
      (Location.path base).child (toString position ++ "/" ++ marker ++ service.interfaceName) := by
  have spelled : Utf8.ofString (toString position ++ "/" ++ marker ++ service.interfaceName) =
      Utf8.ofString (toString position) ++
        (Path.slash :: Utf8.ofString marker ++ Utf8.ofString service.interfaceName) := by
    have slashBytes : Utf8.encode "/".toList = [Path.slash] := by decide
    simp only [Utf8.ofString, String.toList_append, Utf8.encode_append, slashBytes,
      List.append_assoc, List.cons_append, List.nil_append]
  have markerBytes : Utf8.ofString marker =
      Utf8.ofString "META-INF" ++ Path.slash :: Utf8.ofString "services" ++ [Path.slash] := by
    decide
  obtain ⟨head, digits, number⟩ := List.exists_cons_of_ne_nil (proper_position position).1
  have relative : (Path.ofString
      (toString position ++ "/" ++ marker ++ service.interfaceName)).isAbsolute = false := by
    have leading := (proper_position position).isAbsolute
    rw [number] at leading
    rw [Path.ofString, spelled, number]
    exact leading
  rw [descriptorPath_eq proper, Path.child, Path.join_path proper relative, descriptorLocation,
    Path.path_concat _ _ (List.append_ne_nil_of_left_ne_nil (List.cons_ne_nil _ _) _),
    Path.ofString, spelled, markerBytes, markerNames]
  simp

section Publish

variable {files after : FileTree} {base : Location} {position : Nat}

private theorem extends_ensureParent (files : FileTree) (path : Path) :
    files.Extends (ensureParent files path).1 := by
  unfold ensureParent
  cases path.parent? with
  | none => exact .refl files
  | some parent => exact FileTree.extends_ensureDirectory files parent

/-- Writing one descriptor takes nothing away, also if it fails. -/
theorem extends_writeDescriptor (files : FileTree) (path : Path) (service : Declaration) :
    files.Extends (writeDescriptor files path service).1 := by
  have made := extends_ensureParent files path
  unfold writeDescriptor
  split
  · rename_i failed
    rw [failed] at made
    exact made
  · rename_i ready
    rw [ready] at made
    split
    · exact made
    · rename_i written
      exact made.trans (FileTree.extends_write written)

/-- Writing descriptors takes nothing away, also if it fails. -/
theorem extends_writeDescriptors (files : FileTree) (root : Path) (position : Nat)
    (services : List Declaration) :
    files.Extends (writeDescriptors files root position services).1 := by
  induction services generalizing files position with
  | nil => exact .refl files
  | cons service services ih =>
    have first := extends_writeDescriptor files (descriptorPath root position service) service
    rcases writeDescriptors_cons_cases rfl with
      ⟨error, failed, -⟩ | ⟨between, binding, others, written, later, -⟩
    · rw [failed] at first
      exact first
    · rw [written] at first
      have onward := ih between (position + 1)
      rw [later] at onward
      exact first.trans onward

/-- The bindings of an interface have the locators of the descriptors of its services, in order. -/
theorem all_of_writeDescriptors (proper : base.Proper) {services : List Declaration}
    {bindings : List Binding}
    (written : writeDescriptors files (Location.path base) position services =
      (after, .ok bindings)) (interfaceName : String) :
    ((Table.mk bindings).all interfaceName).map some =
      (services.findIdxs (·.interfaceName == interfaceName) position).map fun k =>
        Locator.ofFile?
          ((Location.path base).child (toString k ++ "/" ++ marker ++ interfaceName)) := by
  induction services generalizing files position bindings with
  | nil =>
    obtain ⟨-, same⟩ := Prod.mk.inj written
    obtain rfl := Except.ok.inj same
    rfl
  | cons service services ih =>
    obtain ⟨between, binding, others, first, later, rfl⟩ := writeDescriptors_cons_eq_ok written
    obtain ⟨published, -⟩ := published_of_writeDescriptor proper first
    have onward := ih later
    have located := published.located
    rw [← descriptorPath_eq proper, descriptorPath_eq_child proper] at located
    unfold Table.all at onward ⊢
    simp only [List.findIdxs_cons, List.filter_cons, published.bound]
    by_cases asked : (service.interfaceName == interfaceName) = true
    · rw [if_pos asked, if_pos asked, List.map_cons, List.map_cons, List.map_cons, ← onward,
        ← located, beq_iff_eq.mp asked]
    · rw [if_neg asked, if_neg asked]
      exact onward

/-- **Published services are found by their interface**, each at the descriptor of its position. -/
theorem all_of_publish {directory : Path} {services : List Declaration} {bindings : List Binding}
    (published : publish files directory services = (after, .ok bindings)) :
    ∃ root, after.canonical directory = .ok root ∧ ∀ interfaceName,
      ((Table.mk bindings).all interfaceName).map some =
        (services.findIdxs (·.interfaceName == interfaceName)).map fun k =>
          Locator.ofFile? (root.child (toString k ++ "/" ++ marker ++ interfaceName)) := by
  rcases publish_cases published with ⟨error, failed, -⟩ | ⟨base, proper, followed, written⟩
  · cases failed
  · have kept := extends_writeDescriptors (files.ensureDirectory directory).1 (Location.path base) 0
      services
    rw [written] at kept
    exact ⟨_, kept.canonical followed, all_of_writeDescriptors proper written⟩

end Publish

end Isolation.Service
