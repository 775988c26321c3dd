import Isolation.Proofs.Loader.ClassIsolation
import Isolation.Proofs.Loader.Resources

/-!
# One resource, and all of them

A loader looks for one resource in one way and for all resources of a name in another: it may stop
at the first element of a classpath, at a parent, or at a table of services. Whenever looking for
all succeeds, looking for one finds the first of them
(`Isolation.Graph.one_resource_is_first_of_all`).
-/

namespace Isolation

variable {files : FileTree} {name : String} {locators : List Locator}

namespace Loader

variable {loader : Loader}

private theorem findResource?_eq_head? (opened : ∀ own ∈ loader.owners, own.source.Opened)
    (found : loader.findResources files name = .ok locators) :
    loader.findResource? files name = locators.head? := by
  induction loader with
  | root own =>
    rw [← Except.ok.inj found]
    exact Source.findResource?_eq_head? (opened own (List.mem_singleton_self own)) name
  | child own parent =>
    rw [← Except.ok.inj found]
    exact Source.findResource?_eq_head? (opened own List.mem_cons_self) name
  | filtering wrapper inner ih => exact ih opened found
  | failing other => cases found

private theorem getResource?_eq_head? (opened : ∀ own ∈ loader.owners, own.source.Opened)
    (found : (loader.getResources files name).answer = .ok locators) :
    (loader.getResource? files name).answer = locators.head? := by
  induction loader generalizing locators with
  | root own => exact @findResource?_eq_head? files name locators (.root own) opened found
  | child own parent ih =>
    have here : own.source.findResource? files name =
        (own.source.findResources files name).head? :=
      Source.findResource?_eq_head? (opened own List.mem_cons_self) name
    -- A parent that fails makes the whole lookup fail, so it has answered.
    unfold getResources Reported.map at found
    cases inherited : (parent.getResources files name).answer with
    | error error =>
      rw [inherited] at found
      cases found
    | ok list =>
      have openedAbove : ∀ other ∈ parent.owners, other.source.Opened :=
        fun other member => opened other (List.mem_cons_of_mem own member)
      have above := ih openedAbove inherited
      rw [inherited] at found
      rw [← Except.ok.inj found]
      change Option.or (parent.getResource? files name).answer _ = _
      rw [above, here, List.head?_append]
  | filtering wrapper inner =>
    rw [answer_getResources_filtering] at found
    rw [answer_getResource?_filtering, wrapper.serviceLocator?_eq_head?]
    split at found
    · rename_i noService
      rw [noService, List.head?_nil, Option.none_or]
      by_cases admitted : wrapper.exports.admitsResource name = true
      · rw [if_pos admitted] at found ⊢
        exact findResource?_eq_head? opened found
      · rw [if_neg admitted] at found ⊢
        rw [← Except.ok.inj found, List.head?_nil]
    · rename_i services
      rw [← Except.ok.inj found]
      obtain ⟨first, rest, shape⟩ := List.exists_cons_of_ne_nil services
      rw [shape, List.head?_cons, Option.some_or]
  | failing other => cases found

end Loader

namespace Graph

/-- Whether all loaders of a graph have sources as they are given to loaders: every classpath was
opened. -/
def SourcesOpened (graph : Graph) : Prop :=
  ∀ own, graph.Owns own → own.source.Opened

/-- **Looking for one resource finds the first of all.** Whatever was looked up, registered or
disposed before: when a loader answers with all resources of a name, it answers with the first of
them, or with none if there are none, when it is asked for one; and the same holds of the resources
of its own. -/
theorem one_resource_is_first_of_all (graph : Graph) (opened : graph.SourcesOpened)
    (history : List graph.Moment) (files : FileTree) (loader : graph.Member) (name : String)
    (locators : List Locator) :
    (∀ events, graph.answer history (files, .ask loader (.getResources name)) =
        .resources ⟨.ok locators, events⟩ →
      ∃ events, graph.answer history (files, .ask loader (.getResource name)) =
        .resource ⟨locators.head?, events⟩) ∧
      (∀ events, graph.answer history (files, .ask loader (.findResources name)) =
          .resources ⟨.ok locators, events⟩ →
        graph.answer history (files, .ask loader (.findResource name)) =
            .resource ⟨locators.head?, []⟩ ∧
          loader.val.findLocalResource? files name = locators.head?) := by
  have openedOwners : ∀ own ∈ loader.val.owners, own.source.Opened :=
    fun own owner => opened own (owns_of_mem_owners loader.property owner)
  constructor
  · intro events all
    have found := congrArg Reported.answer (Answer.resources.inj all)
    refine ⟨(loader.val.getResource? files name).events, congrArg Answer.resource ?_⟩
    rw [← Loader.getResource?_eq_head? openedOwners found]
  · intro events all
    have found := congrArg Reported.answer (Answer.resources.inj all)
    have first := Loader.findResource?_eq_head? openedOwners found
    refine ⟨congrArg Answer.resource ?_, loader.val.findLocalResource?_eq.trans first⟩
    rw [← first]

/-- A loader with two resources of one name, in tables. -/
def twoResources : Backing where
  id := ⟨2⟩
  artifact := "base"
  identity := ⟨"base", none⟩
  rules := {}
  source := .ofTables [] <| [['1'], ['2']].map fun text =>
    ("a/b/C.class", ⟨{ scheme := "mem".toList, path := .plain text }⟩)

/-- The loader of an archive with an entry of that name, below the one of the tables, and a wrapper
in front that lets its directory through. -/
def layered : Graph where
  loaders := [
    .filtering { upperPackage with exports := .ofLists [] ["a/"] }
      (.child nestedBacking (.root twoResources)),
    .child nestedBacking (.root twoResources), .root twoResources]
  built := by
    refine .cons (.cons (.cons .nil ?_ ?_) ?_ ?_) ?_ ?_
    · exact fun _ member => nomatch member
    · exact fun _ asks => nomatch asks
    · simp [Loader.id, nestedBacking, twoResources]
    · simp [Loader.asked?]
    · simp [Loader.id, nestedBacking, twoResources, upperPackage]
    · simp [Loader.asked?]

private theorem sourcesOpened_layered : layered.SourcesOpened := by
  rintro own ⟨loader, member, defines⟩
  simp only [layered, List.mem_cons, List.not_mem_nil, or_false] at member
  rcases member with rfl | rfl | rfl
  · cases defines
  · obtain rfl := Option.some.inj defines
    exact ⟨_, _, openClasspath_nestedFiles⟩
  · obtain rfl := Option.some.inj defines
    exact trivial

/-- The loader of the archive finds three resources in all, of which the first is in the tables; the
wrapper in front of it finds the one in the archive. -/
theorem layered_finds_first :
    let front : layered.Member := ⟨_, List.mem_cons_self⟩
    let middle : layered.Member := ⟨_, List.mem_cons_of_mem _ List.mem_cons_self⟩
    (∃ (locators : List Locator) (events : List Event), locators.length = 3 ∧
        layered.answer [] (nestedFiles, .ask middle (.getResource "a/b/C.class")) =
          .resource ⟨locators.head?, events⟩) ∧
      ∃ locators : List Locator, locators.length = 1 ∧
        layered.answer [] (nestedFiles, .ask front (.findResource "a/b/C.class")) =
            .resource ⟨locators.head?, []⟩ := by
  intro front middle
  constructor
  · have all := eq_ok_of_isSome (by decide +kernel : (middle.val.getResources nestedFiles
      "a/b/C.class").answer.toOption.isSome = true) []
    obtain ⟨events, first⟩ := (layered.one_resource_is_first_of_all sourcesOpened_layered []
      nestedFiles middle "a/b/C.class" _).1 _
        (congrArg (fun answer => Answer.resources ⟨answer, _⟩) all)
    exact ⟨_, events, by decide +kernel, first⟩
  · have all := eq_ok_of_isSome (by decide +kernel : (front.val.findResources nestedFiles
      "a/b/C.class").toOption.isSome = true) []
    obtain ⟨first, -⟩ := (layered.one_resource_is_first_of_all sourcesOpened_layered []
      nestedFiles front "a/b/C.class" _).2 []
        (congrArg (fun answer => Answer.resources ⟨answer, []⟩) all)
    exact ⟨_, by decide +kernel, first⟩

end Graph

end Isolation
