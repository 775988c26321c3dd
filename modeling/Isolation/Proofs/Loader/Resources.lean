import Isolation.Assembly
import Isolation.Loader.ResourceLookup
import Isolation.Proofs.Classpath.Opened
import Isolation.Proofs.Locator.Returned

/-!
# What resource lookups find

A loader finds resources in the source behind any wrappers, or a wrapper answers for a service from
its table. What is handed out for a name is therefore the locator of a service whose interface the
name asks for, or that of an entry which the wrapper exports
(`Isolation.Loader.of_handsOut`). On a classpath that was opened every entry has a locator, so the
lookup of one resource finds the first of all (`Isolation.Loader.findResource?_eq_head?`,
`Isolation.Loader.getResource?_eq_head?`).
-/

namespace Isolation

open Classpath

variable {files : FileTree} {name : String} {locator : Locator}

namespace Service.Table

variable {table : Table}

private theorem exists_binding {interfaceName : String}
    (member : locator ∈ table.all interfaceName) :
    ∃ binding ∈ table.bindings,
      interfaceName = binding.interfaceName ∧ binding.locator = locator := by
  obtain ⟨binding, listed, same⟩ := List.mem_map.mp member
  obtain ⟨inside, named⟩ := List.mem_filter.mp listed
  exact ⟨binding, inside, (beq_iff_eq.mp named).symm, same⟩

end Service.Table

namespace Wrapper

variable (wrapper : Wrapper) (artifact : String)

/-- The service that a wrapper finds is the first one of the interface that a name asks for. -/
theorem answer_serviceLocator? :
    (wrapper.serviceLocator? artifact name).answer =
      (Service.interfaceOf? name).bind wrapper.services.first? := by
  unfold serviceLocator?
  cases Service.interfaceOf? name with
  | none => rfl
  | some interfaceName =>
    simp only [Option.bind_some]
    cases wrapper.services.first? interfaceName with
    | none => rfl
    | some locator => rfl

/-- The services that a wrapper finds are those of the interface that a name asks for. -/
theorem answer_serviceLocators :
    (wrapper.serviceLocators artifact name).answer =
      ((Service.interfaceOf? name).map wrapper.services.all).getD [] := by
  unfold serviceLocators
  cases Service.interfaceOf? name with
  | none => rfl
  | some interfaceName =>
    simp only [Option.map_some, Option.getD_some]
    cases wrapper.services.all interfaceName with
    | nil => rfl
    | cons locator locators => rfl

/-- The one service that a wrapper finds is the first of all. -/
theorem serviceLocator?_eq_head? :
    (wrapper.serviceLocator? artifact name).answer =
      (wrapper.serviceLocators artifact name).answer.head? := by
  rw [answer_serviceLocator?, answer_serviceLocators]
  cases Service.interfaceOf? name with
  | none => rfl
  | some interfaceName => exact wrapper.services.first?_eq_head? interfaceName

/-- The locators of services stand in the table. -/
theorem exists_binding_of_mem (member : locator ∈ (wrapper.serviceLocators artifact name).answer) :
    ∃ binding ∈ wrapper.services.bindings,
      Service.interfaceOf? name = some binding.interfaceName ∧ binding.locator = locator := by
  rw [answer_serviceLocators] at member
  cases asked : Service.interfaceOf? name with
  | none =>
    rw [asked] at member
    exact absurd member List.not_mem_nil
  | some interfaceName =>
    rw [asked] at member
    obtain ⟨binding, inside, rfl, same⟩ := Service.Table.exists_binding member
    exact ⟨binding, inside, rfl, same⟩

end Wrapper

/-- An element that was opened has a locator for every entry. -/
theorem Classpath.Element.Opened.exists_locator {before : FileTree} {element : Element}
    (opened : element.Opened before) (key : String) :
    ∃ locator, element.locator? key = some locator := by
  cases opened with
  | @archive location bytes content file wellFormed =>
    obtain ⟨url, made, -⟩ := Locator.exists_ofEntry (Path.isAbsolute_path location)
      (Path.downward_path (FileTree.proper_of_node? file)) key
    exact ⟨⟨url⟩, made⟩
  | @directory location directory =>
    have absolute := Element.isAbsolute_child location key
    simp only [Element.locator?, Locator.ofFile?, Url.ofFilePath?, if_pos absolute]
    exact ⟨_, rfl⟩

/-- Whether a source is one that loaders are given: its classpath, if it has one, was opened. -/
def Source.Opened : Source → Prop
  | tables _ _ => True
  | classpath elements => ∃ files paths, openClasspath files paths = .ok elements

namespace Source

private theorem exists_element {elements : List Element}
    (member : locator ∈ (classpath elements).findResources files name) :
    ∃ element ∈ elements, element.contains files (resourceKey name) = true ∧
      element.locator? (resourceKey name) = some locator := by
  obtain ⟨element, listed, located⟩ := List.mem_filterMap.mp member
  obtain ⟨inside, has⟩ := List.mem_filter.mp listed
  exact ⟨element, inside, has, located⟩

private theorem mem_findResources_of_findResource? {elements : List Element}
    (found : (classpath elements).findResource? files name = some locator) :
    locator ∈ (classpath elements).findResources files name := by
  obtain ⟨element, first, located⟩ := Option.bind_eq_some_iff.mp found
  unfold elementWith? at first
  have has := List.find?_some first
  exact List.mem_filterMap.mpr
    ⟨element, List.mem_filter.mpr ⟨List.mem_of_find?_eq_some first, has⟩, located⟩

/-- The first element that has an entry gives the first of all locators, because it has one. -/
theorem bind_elementWith?_eq_head? {elements : List Element} {key : String}
    (located : ∀ element ∈ elements, ∃ locator, element.locator? key = some locator) :
    (elementWith? files elements key).bind (·.locator? key) =
      ((elements.filter (·.contains files key)).filterMap (·.locator? key)).head? := by
  induction elements with
  | nil => rfl
  | cons element elements ih =>
    have later := ih fun other member => located other (List.mem_cons_of_mem element member)
    unfold elementWith? at later ⊢
    by_cases has : element.contains files key = true
    · obtain ⟨locator, place⟩ := located element List.mem_cons_self
      simp only [List.find?_cons, List.filter_cons, has, ↓reduceIte, Option.bind_some,
        List.filterMap_cons, place, List.head?_cons]
    · simp only [List.find?_cons, List.filter_cons, has, Bool.false_eq_true, ↓reduceIte]
      exact later

/-- The one resource that a source finds is the first of all, if its classpath was opened. -/
theorem findResource?_eq_head? {source : Source} (opened : source.Opened) (name : String) :
    source.findResource? files name = (source.findResources files name).head? := by
  cases source with
  | tables classes resources => rfl
  | classpath elements =>
    obtain ⟨before, paths, opens⟩ := opened
    apply bind_elementWith?_eq_head?
    intro element member
    exact (Element.opened_of_openClasspath opens element member).exists_locator _

end Source

namespace Loader

/-- Whether a loader hands out a locator for a resource, as the first or as one of all. -/
def HandsOut (files : FileTree) (loader : Loader) (name : String) (locator : Locator) : Prop :=
  (loader.getResource? files name).answer = some locator ∨
    ∃ locators, (loader.getResources files name).answer = .ok locators ∧ locator ∈ locators

variable {loader : Loader} {own : Backing}

private theorem findResource?_of_backing? (behind : loader.backing? = some own) :
    loader.findResource? files name = own.source.findResource? files name := by
  induction loader with
  | root other => cases behind; rfl
  | child other parent => cases behind; rfl
  | filtering wrapper inner ih => exact ih behind
  | failing other => cases behind

private theorem findResources_of_backing? (behind : loader.backing? = some own) :
    loader.findResources files name = .ok (own.source.findResources files name) := by
  induction loader with
  | root other => cases behind; rfl
  | child other parent => cases behind; rfl
  | filtering wrapper inner ih => exact ih behind
  | failing other => cases behind

/-- Looking where a loader's own classes are is looking for a resource of its own. -/
theorem findLocalResource?_eq (loader : Loader) :
    loader.findLocalResource? files name = loader.findResource? files name := by
  induction loader with
  | root own => rfl
  | child own parent => rfl
  | filtering wrapper inner ih => exact ih
  | failing other => rfl

section Filtering

variable (wrapper : Wrapper) (inner : Loader)

/-- A wrapper answers with a service, or else with what the inner loader finds if the name is
exported. -/
theorem answer_getResource?_filtering :
    ((filtering wrapper inner).getResource? files name).answer =
      (wrapper.serviceLocator? inner.artifact name).answer.or
        (if wrapper.exports.admitsResource name then inner.findResource? files name else none) := by
  unfold getResource?
  generalize wrapper.serviceLocator? inner.artifact name = service
  obtain ⟨answer, events⟩ := service
  cases answer with
  | some locator => rfl
  | none => by_cases admitted : wrapper.exports.admitsResource name = true <;> simp [admitted]

/-- A wrapper answers with all services, or if there is none with all that the inner loader finds if
the name is exported. -/
theorem answer_getResources_filtering :
    ((filtering wrapper inner).getResources files name).answer =
      if (wrapper.serviceLocators inner.artifact name).answer = [] then
        if wrapper.exports.admitsResource name then inner.findResources files name else .ok []
      else .ok (wrapper.serviceLocators inner.artifact name).answer := by
  unfold getResources
  generalize wrapper.serviceLocators inner.artifact name = service
  obtain ⟨answer, events⟩ := service
  cases answer with
  | cons locator locators => rfl
  | nil =>
    by_cases admitted : wrapper.exports.admitsResource name = true
    · cases found : inner.findResources files name <;> simp [admitted]
    · simp [admitted]

end Filtering

/-- What a locator that is handed out was made for: a service in the table, or an exported entry of
an element of the classpath. -/
theorem of_handsOut {wrapper : Wrapper} {inner : Loader} {elements : List Element}
    (behind : inner.backing? = some own) (onPath : own.source = .classpath elements)
    (handedOut : (filtering wrapper inner).HandsOut files name locator) :
    (∃ binding ∈ wrapper.services.bindings,
        Service.interfaceOf? name = some binding.interfaceName ∧ binding.locator = locator) ∨
      wrapper.exports.admitsResource name = true ∧
        ∃ element ∈ elements, element.contains files (Source.resourceKey name) = true ∧
          element.locator? (Source.resourceKey name) = some locator := by
  rcases handedOut with first | ⟨locators, all, member⟩
  · rw [answer_getResource?_filtering, wrapper.serviceLocator?_eq_head?] at first
    rcases Option.or_eq_some_iff.mp first with service | ⟨-, found⟩
    · exact .inl (wrapper.exists_binding_of_mem inner.artifact (List.mem_of_mem_head? service))
    · by_cases admitted : wrapper.exports.admitsResource name = true
      · rw [if_pos admitted, findResource?_of_backing? behind, onPath] at found
        exact .inr
          ⟨admitted, Source.exists_element (Source.mem_findResources_of_findResource? found)⟩
      · rw [if_neg admitted] at found
        cases found
  · rw [answer_getResources_filtering] at all
    split at all
    · by_cases admitted : wrapper.exports.admitsResource name = true
      · rw [if_pos admitted, findResources_of_backing? behind, onPath] at all
        obtain rfl := Except.ok.inj all
        exact .inr ⟨admitted, Source.exists_element member⟩
      · rw [if_neg admitted] at all
        obtain rfl := Except.ok.inj all
        exact absurd member List.not_mem_nil
    · obtain rfl := Except.ok.inj all
      exact .inl (wrapper.exists_binding_of_mem inner.artifact member)

end Loader

end Isolation
