import Isolation.Loader.Event
import Isolation.Loader.State

/-!
# Looking up classes

A loader that is asked for a class answers with the one that it has defined under that name, or
defines it now. With a parent it also asks the parent, before or after its own source; only an
answer that nothing was found makes the search go on. A wrapper asks the loader behind it when the
class is exported.
-/

namespace Isolation

/-- What a class lookup does to a state, and what it answers. -/
abbrev ClassLookup := State → State × Reported (Except LoadError ClassObject)

namespace Backing

/-- The class as a loader would define it from its own source. -/
def define (files : FileTree) (own : Backing) (name : String) : Except LoadError Definition :=
  (own.source.findClass files name own.artifact).map fun record =>
    ⟨name, own.id, own.artifact, record.origin, record.bytes⟩

/-- The class that a loader has defined, or that it defines now from its own source. -/
def findClass (files : FileTree) (state : State) (own : Backing) (name : String) :
    State × Except LoadError ClassObject :=
  match state.defined? own.id name with
  | some object => (state, .ok object)
  | none =>
    match own.define files name with
    | .error error => (state, .error error)
    | .ok definition =>
      let (state, object) := state.define definition
      (state, .ok object)

/-- The lookup in a loader's own source, which reports nothing. -/
def lookup (files : FileTree) (own : Backing) (name : String) : ClassLookup := fun state =>
  let (state, answer) := own.findClass files state name
  (state, ⟨answer, []⟩)

end Backing

/-- An answer of a search, put in the words of an artifact when it is that nothing was found. -/
def renameMiss {α : Type} (name artifact : String) (answer : Except LoadError α) :
    Except LoadError α :=
  answer.mapError fun error => if error.isNotFound then .classNotFound name artifact else error

/-- A lookup, followed by a second one if the first has found nothing. -/
def firstFound (name artifact : String) (first second : ClassLookup) : ClassLookup := fun state =>
  let (state, found) := first state
  match found.answer with
  | .ok _ => (state, found)
  | .error error =>
    if error.isNotFound then
      let (state, next) := second state
      (state, ⟨renameMiss name artifact next.answer, found.events ++ next.events⟩)
    else (state, found)

namespace Loader

/-- The lookup of a class, with parents and wrappers having their say. -/
def classLookup (files : FileTree) : Loader → String → ClassLookup
  | root own, name => own.lookup files name
  | child own parent, name =>
    let inherited := parent.classLookup files name
    match own.rules.orderFor name with
    | .childOnly => own.lookup files name
    | .parentFirst => firstFound name own.artifact inherited (own.lookup files name)
    | .childFirst => firstFound name own.artifact (own.lookup files name) inherited
  | filtering wrapper inner, name => fun state =>
    let decided := Event.decided wrapper.verbosity inner.artifact .classLookup name
    if wrapper.exports.admitsClass name then
      let (state, found) := inner.classLookup files name state
      (state, found.after (decided .exported false))
    else
      (state, ⟨.error (.notExported name inner.artifact wrapper.exports), [decided .hidden false]⟩)
  | failing loader, _ => fun state => (state, ⟨.error (.file (.other loader.reason)), []⟩)

/-- Looks up a class. -/
def loadClass (files : FileTree) (state : State) (loader : Loader) (name : String) :
    State × Reported (Except LoadError ClassObject) :=
  loader.classLookup files name state

/-- Looks up a class in the loader's own source, behind any wrappers. -/
def findOwnClass (files : FileTree) (state : State) :
    Loader → String → State × Except LoadError ClassObject
  | root own, name => own.findClass files state name
  | child own _, name => own.findClass files state name
  | filtering _ inner, name => inner.findOwnClass files state name
  | failing loader, _ => (state, .error (.file (.other loader.reason)))

end Loader

end Isolation
