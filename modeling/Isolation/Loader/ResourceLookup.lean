import Isolation.Loader.Event
import Isolation.Loader.State
import Isolation.Service.Key

/-!
# Looking up resources

A parent's resources come before a loader's own. A wrapper answers for the services in its table,
and otherwise lets through what is exported from the loader behind it, leaving that loader's parents
out.
-/

namespace Isolation

namespace Wrapper

/-- The event that a wrapper reports. -/
def event (wrapper : Wrapper) (artifact : String) (kind : LookupKind) (name : String)
    (decision : Decision) (showsFound : Bool) : Event :=
  .decided wrapper.verbosity artifact kind name decision showsFound

/-- The locators of the service that a resource name asks for. -/
def serviceLocators (wrapper : Wrapper) (artifact name : String) : Reported (List Locator) :=
  match Service.interfaceOf? name with
  | none => ⟨[], []⟩
  | some interfaceName =>
    match wrapper.services.all interfaceName with
    | [] => ⟨[], [wrapper.event artifact .service interfaceName .serviceMissing false]⟩
    | locators => ⟨locators, [wrapper.event artifact .service interfaceName .serviceFound true]⟩

/-- The earliest locator of the service that a resource name asks for. -/
def serviceLocator? (wrapper : Wrapper) (artifact name : String) : Reported (Option Locator) :=
  match Service.interfaceOf? name with
  | none => ⟨none, []⟩
  | some interfaceName =>
    match wrapper.services.first? interfaceName with
    | none => ⟨none, [wrapper.event artifact .service interfaceName .serviceMissing false]⟩
    | some locator =>
      ⟨some locator, [wrapper.event artifact .service interfaceName .serviceFound true]⟩

end Wrapper

namespace Loader

/-- A resource of the loader's own, behind any wrappers. -/
def findResource? (files : FileTree) : Loader → String → Option Locator
  | root own, name => own.source.findResource? files name
  | child own _, name => own.source.findResource? files name
  | filtering _ inner, name => inner.findResource? files name
  | failing _, _ => none

/-- A resource from where the loader's own classes are, behind any wrappers: each loader that has a
source answers for itself. -/
def findLocalResource? (files : FileTree) : Loader → String → Option Locator
  | root own, name => (root own).findResource? files name
  | child own parent, name => (child own parent).findResource? files name
  | filtering _ inner, name => inner.findLocalResource? files name
  | failing _, _ => none

/-- All resources of the loader's own with one name, behind any wrappers. -/
def findResources (files : FileTree) : Loader → String → Except LoadError (List Locator)
  | root own, name => .ok (own.source.findResources files name)
  | child own _, name => .ok (own.source.findResources files name)
  | filtering _ inner, name => inner.findResources files name
  | failing loader, _ => .error (.file (.other loader.reason))

/-- The first resource with a name. -/
def getResource? (files : FileTree) : Loader → String → Reported (Option Locator)
  | root own, name => ⟨own.source.findResource? files name, []⟩
  | child own parent, name =>
    (parent.getResource? files name).map (·.or (own.source.findResource? files name))
  | filtering wrapper inner, name =>
    let service := wrapper.serviceLocator? inner.artifact name
    match service.answer with
    | some locator => ⟨some locator, service.events⟩
    | none =>
      if wrapper.exports.admitsResource name then
        ⟨inner.findResource? files name,
          service.events ++ [wrapper.event inner.artifact .resource name .exported true]⟩
      else
        ⟨none, service.events ++ [wrapper.event inner.artifact .resource name .hidden false]⟩
  | failing _, _ => ⟨none, []⟩

/-- All resources with a name, those of the parent first. -/
def getResources (files : FileTree) : Loader → String → Reported (Except LoadError (List Locator))
  | root own, name => ⟨.ok (own.source.findResources files name), []⟩
  | child own parent, name =>
    (parent.getResources files name).map fun inherited =>
      inherited.map (· ++ own.source.findResources files name)
  | filtering wrapper inner, name =>
    let service := wrapper.serviceLocators inner.artifact name
    match service.answer with
    | _ :: _ => ⟨.ok service.answer, service.events⟩
    | [] =>
      if wrapper.exports.admitsResource name then
        match inner.findResources files name with
        | .error error => ⟨.error error, service.events⟩
        | .ok locators =>
          ⟨.ok locators,
            service.events ++ [wrapper.event inner.artifact .resources name .exported true]⟩
      else
        ⟨.ok [], service.events ++ [wrapper.event inner.artifact .resources name .hidden false]⟩
  | failing loader, _ => ⟨.error (.file (.other loader.reason)), []⟩

end Loader

end Isolation
