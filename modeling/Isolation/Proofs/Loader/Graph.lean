import Isolation.Loader.Basic

/-!
# Graphs of loaders

Loaders are built one after another, each with a number that no earlier one has, and each asking
only loaders that were built before it. So a number stands for one loader of a graph
(`Isolation.Loader.Built.eq_of_id_eq`), and whatever a loader asks, directly or through others,
belongs to the graph too (`Isolation.Graph.owns_of_mem_owners`).
-/

namespace Isolation

namespace Loader

/-- The loader that a loader asks: its parent, or the one behind it. -/
def asked? : Loader → Option Loader
  | root _ => none
  | child _ parent => some parent
  | filtering _ inner => some inner
  | failing _ => none

/-- What a loader is that defines classes from a source of its own. -/
def own? : Loader → Option Backing
  | root own => some own
  | child own _ => some own
  | filtering _ _ => none
  | failing _ => none

/-- All that define classes among a loader and those that it asks. -/
def owners : Loader → List Backing
  | root own => [own]
  | child own parent => own :: parent.owners
  | filtering _ inner => inner.owners
  | failing _ => []

/-- A loader that defines classes defines them under its own number. -/
theorem id_eq_of_own? {loader : Loader} {own : Backing} (defines : loader.own? = some own) :
    own.id = loader.id := by
  cases loader with
  | root other => exact congrArg Backing.id (Option.some.inj defines).symm
  | child other parent => exact congrArg Backing.id (Option.some.inj defines).symm
  | filtering wrapper inner => cases defines
  | failing loader => cases defines

/-- Whether loaders, the last one first, were built one after another. -/
inductive Built : List Loader → Prop
  | nil : Built []
  | cons {loader : Loader} {loaders : List Loader} (before : Built loaders)
      (fresh : ∀ earlier ∈ loaders, earlier.id ≠ loader.id)
      (asks : ∀ asked, loader.asked? = some asked → asked ∈ loaders) : Built (loader :: loaders)

/-- Loaders that were built one after another have different numbers. -/
theorem Built.eq_of_id_eq {loaders : List Loader} (built : Built loaders) {first second : Loader}
    (memberFirst : first ∈ loaders) (memberSecond : second ∈ loaders)
    (same : first.id = second.id) : first = second := by
  induction built with
  | nil => exact absurd memberFirst List.not_mem_nil
  | cons before fresh asks ih =>
    rcases List.mem_cons.mp memberFirst with rfl | earlierFirst
    · rcases List.mem_cons.mp memberSecond with rfl | earlierSecond
      · rfl
      · exact absurd same.symm (fresh second earlierSecond)
    · rcases List.mem_cons.mp memberSecond with rfl | earlierSecond
      · exact absurd same (fresh first earlierFirst)
      · exact ih earlierFirst earlierSecond

/-- The loader that a loader asks was built with it. -/
theorem Built.mem_of_asked? {loaders : List Loader} (built : Built loaders) {loader asked : Loader}
    (member : loader ∈ loaders) (asks : loader.asked? = some asked) : asked ∈ loaders := by
  induction built with
  | nil => exact absurd member List.not_mem_nil
  | cons before fresh asksEarlier ih =>
    rcases List.mem_cons.mp member with rfl | earlier
    · exact List.mem_cons_of_mem _ (asksEarlier asked asks)
    · exact List.mem_cons_of_mem _ (ih earlier)

end Loader

/-- Loaders that were built one after another. -/
structure Graph where
  loaders : List Loader
  built : Loader.Built loaders

namespace Graph

/-- A loader of a graph. -/
abbrev Member (graph : Graph) :=
  { loader : Loader // loader ∈ graph.loaders }

/-- Whether some loader of a graph defines classes as `own` does. -/
def Owns (graph : Graph) (own : Backing) : Prop :=
  ∃ loader ∈ graph.loaders, loader.own? = some own

variable {graph : Graph}

/-- A number stands for at most one source of classes. -/
theorem Owns.eq_of_id_eq {first second : Backing} (ownsFirst : graph.Owns first)
    (ownsSecond : graph.Owns second) (same : first.id = second.id) : first = second := by
  obtain ⟨left, memberLeft, definesLeft⟩ := ownsFirst
  obtain ⟨right, memberRight, definesRight⟩ := ownsSecond
  have numbers : left.id = right.id := by
    rw [← Loader.id_eq_of_own? definesLeft, ← Loader.id_eq_of_own? definesRight, same]
  obtain rfl := graph.built.eq_of_id_eq memberLeft memberRight numbers
  exact Option.some.inj (definesLeft.symm.trans definesRight)

/-- A graph owns what defines the classes of its loaders. -/
theorem owns_of_mem {loader : Loader} {own : Backing} (member : loader ∈ graph.loaders)
    (defines : loader.own? = some own) : graph.Owns own :=
  ⟨loader, member, defines⟩

/-- Whatever defines classes behind a loader of a graph belongs to the graph. -/
theorem owns_of_mem_owners {loader : Loader} {own : Backing} (member : loader ∈ graph.loaders)
    (owner : own ∈ loader.owners) : graph.Owns own := by
  induction loader with
  | root other =>
    obtain rfl := List.mem_singleton.mp owner
    exact owns_of_mem member rfl
  | child other parent ih =>
    rcases List.mem_cons.mp owner with rfl | behind
    · exact owns_of_mem member rfl
    · exact ih (graph.built.mem_of_asked? member rfl) behind
  | filtering wrapper inner ih => exact ih (graph.built.mem_of_asked? member rfl) owner
  | failing other => exact absurd owner List.not_mem_nil

/-- A loader that asks nobody, and a wrapper in front of it. -/
def wrapped (wrapper : Wrapper) (own : Backing) (apart : own.id ≠ wrapper.id) : Graph where
  loaders := [.filtering wrapper (.root own), .root own]
  built := by
    refine .cons (.cons .nil (fun _ member => nomatch member) fun _ asks => nomatch asks) ?_ ?_
    · intro earlier member
      obtain rfl := List.mem_singleton.mp member
      exact apart
    · intro asked asks
      exact List.mem_singleton.mpr (Option.some.inj asks).symm

end Graph

end Isolation
