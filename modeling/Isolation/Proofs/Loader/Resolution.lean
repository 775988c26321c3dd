import Isolation.Loader.ClassLookup

/-!
# Lookups of classes, resolved and then settled

A class lookup can be taken apart: first the name is *resolved*, to a class that is defined already
or to one that is ready to be defined, and nothing changes; then the resolution is *settled*, and at
most the one class is defined. Every lookup is a resolution that is settled afterwards
(`Isolation.Loader.loadClass_eq_settled` and `Isolation.Loader.findOwnClass_eq_settleAnswer`), so a
lookup that fails leaves no trace, however many loaders it has asked on the way.
-/

namespace Isolation

/-- A class that is defined already, or one that is ready to be defined. -/
inductive Resolution where
  | known (object : ClassObject)
  | fresh (definition : Definition)
  deriving DecidableEq

/-- What a resolution says about the class. -/
def Resolution.definition : Resolution → Definition
  | known object => object.definition
  | fresh definition => definition

namespace Backing

/-- The class that a loader has defined, or would define from its own source. -/
def resolve (files : FileTree) (state : State) (own : Backing) (name : String) :
    Except LoadError Resolution :=
  match state.defined? own.id name with
  | some object => .ok (.known object)
  | none => (own.define files name).map .fresh

end Backing

/-- Whether an answer is that nothing was found. -/
def misses {α : Type} : Except LoadError α → Bool
  | .ok _ => false
  | .error error => error.isNotFound

/-- The first of two answers, unless it is that nothing was found. -/
def firstAnswer {α : Type} (name artifact : String) (first second : Reported (Except LoadError α)) :
    Reported (Except LoadError α) :=
  if misses first.answer then
    ⟨renameMiss name artifact second.answer, first.events ++ second.events⟩
  else first

/-- A miss is told in the words of the loader that was asked. -/
theorem renameMiss_of_misses {α : Type} {answer : Except LoadError α}
    (missed : misses answer = true) (name artifact : String) :
    renameMiss name artifact answer = .error (.classNotFound name artifact) := by
  cases answer with
  | ok value => cases missed
  | error error => exact congrArg Except.error (if_pos missed)

/-- An answer that is no miss is passed on. -/
theorem renameMiss_of_not_misses {α : Type} {answer : Except LoadError α}
    (hit : ¬ misses answer = true) (name artifact : String) :
    renameMiss name artifact answer = answer := by
  cases answer with
  | ok value => rfl
  | error error => exact congrArg Except.error (if_neg hit)

namespace Loader

/-- Resolves the name of a class, with parents and wrappers having their say. -/
def resolveClass (files : FileTree) (state : State) :
    Loader → String → Reported (Except LoadError Resolution)
  | root own, name => ⟨own.resolve files state name, []⟩
  | child own parent, name =>
    let inherited := parent.resolveClass files state name
    let localAnswer : Reported (Except LoadError Resolution) := ⟨own.resolve files state name, []⟩
    match own.rules.orderFor name with
    | .childOnly => localAnswer
    | .parentFirst => firstAnswer name own.artifact inherited localAnswer
    | .childFirst => firstAnswer name own.artifact localAnswer inherited
  | filtering wrapper inner, name =>
    let decided := Event.decided wrapper.verbosity inner.artifact .classLookup name
    if wrapper.exports.admitsClass name then
      (inner.resolveClass files state name).after (decided .exported false)
    else
      ⟨.error (.notExported name inner.artifact wrapper.exports), [decided .hidden false]⟩
  | failing loader, _ => ⟨.error (.file (.other loader.reason)), []⟩

/-- Resolves the name of a class from the loader's own source alone, behind any wrappers. -/
def resolveOwnClass (files : FileTree) (state : State) :
    Loader → String → Except LoadError Resolution
  | root own, name => own.resolve files state name
  | child own _, name => own.resolve files state name
  | filtering _ inner, name => inner.resolveOwnClass files state name
  | failing loader, _ => .error (.file (.other loader.reason))

end Loader

namespace State

/-- Defines the class of a resolution, if it is not defined yet. -/
def settle (state : State) : Resolution → State × ClassObject
  | .known object => (state, object)
  | .fresh definition => state.define definition

/-- Settles a resolution that may have failed. -/
def settleAnswer (state : State) (answer : Except LoadError Resolution) :
    State × Except LoadError ClassObject :=
  match answer with
  | .ok resolution => ((state.settle resolution).1, .ok (state.settle resolution).2)
  | .error error => (state, .error error)

/-- Settles a resolution that is reported with its events. -/
def settleReported (state : State) (resolved : Reported (Except LoadError Resolution)) :
    State × Reported (Except LoadError ClassObject) :=
  ((state.settleAnswer resolved.answer).1,
    ⟨(state.settleAnswer resolved.answer).2, resolved.events⟩)

@[simp] private theorem settleReported_error (state : State) (error : LoadError)
    (events : List Event) :
    state.settleReported ⟨.error error, events⟩ = (state, ⟨.error error, events⟩) :=
  rfl

private theorem settleAnswer_renameMiss (state : State) (name artifact : String)
    (answer : Except LoadError Resolution) :
    state.settleAnswer (renameMiss name artifact answer) =
      ((state.settleAnswer answer).1, renameMiss name artifact (state.settleAnswer answer).2) := by
  cases answer with
  | ok resolution => rfl
  | error error => rfl

end State

/-- A lookup that settles what it resolves. -/
def ClassLookup.Settles (lookup : ClassLookup)
    (resolve : State → Reported (Except LoadError Resolution)) : Prop :=
  ∀ state, lookup state = state.settleReported (resolve state)

namespace Backing

variable (files : FileTree) (own : Backing) (name : String)

private theorem findClass_eq_settleAnswer (state : State) :
    own.findClass files state name = state.settleAnswer (own.resolve files state name) := by
  unfold findClass resolve
  cases state.defined? own.id name with
  | some object => rfl
  | none =>
    cases own.define files name with
    | ok definition => rfl
    | error error => rfl

private theorem lookup_settles :
    (own.lookup files name).Settles fun state => ⟨own.resolve files state name, []⟩ := by
  intro state
  unfold lookup
  rw [own.findClass_eq_settleAnswer files name state]
  rfl

end Backing

/-- Asking a second loader after a first one that fails sees the state that the first one has seen,
because a failed resolution settles to nothing. -/
theorem ClassLookup.Settles.firstFound {first second : ClassLookup}
    {resolveFirst resolveSecond : State → Reported (Except LoadError Resolution)}
    (name artifact : String) (settlesFirst : first.Settles resolveFirst)
    (settlesSecond : second.Settles resolveSecond) :
    ClassLookup.Settles (firstFound name artifact first second) fun state =>
      firstAnswer name artifact (resolveFirst state) (resolveSecond state) := by
  intro state
  change Isolation.firstFound name artifact first second state =
    state.settleReported (firstAnswer name artifact (resolveFirst state) (resolveSecond state))
  unfold Isolation.firstFound firstAnswer
  rw [settlesFirst state]
  generalize resolveFirst state = resolved
  obtain ⟨answer, events⟩ := resolved
  cases answer with
  | ok resolution => rfl
  | error error =>
    rw [State.settleReported_error]
    by_cases missed : error.isNotFound = true
    · simp only [misses, missed, if_true, settlesSecond state]
      unfold State.settleReported
      rw [State.settleAnswer_renameMiss]
    · simp only [misses, missed]
      rfl

namespace Loader

variable (files : FileTree) (loader : Loader) (name : String)

private theorem classLookup_settles :
    (loader.classLookup files name).Settles fun state => loader.resolveClass files state name := by
  induction loader with
  | root own => exact own.lookup_settles files name
  | child own parent ih =>
    unfold classLookup resolveClass
    cases own.rules.orderFor name with
    | childOnly => exact own.lookup_settles files name
    | parentFirst => exact ih.firstFound name own.artifact (own.lookup_settles files name)
    | childFirst => exact (own.lookup_settles files name).firstFound name own.artifact ih
  | filtering wrapper inner ih =>
    intro state
    unfold classLookup resolveClass
    by_cases admitted : wrapper.exports.admitsClass name = true
    · simp only [admitted, if_true, ih state]
      rfl
    · simp only [admitted]
      rfl
  | failing loader => exact fun state => rfl

/-- **A class lookup is a resolution that is settled.** -/
theorem loadClass_eq_settled (state : State) :
    loader.loadClass files state name =
      state.settleReported (loader.resolveClass files state name) :=
  loader.classLookup_settles files name state

/-- A lookup in the loader's own source is a resolution that is settled. -/
theorem findOwnClass_eq_settleAnswer (state : State) :
    loader.findOwnClass files state name =
      state.settleAnswer (loader.resolveOwnClass files state name) := by
  induction loader with
  | root own => exact own.findClass_eq_settleAnswer files name state
  | child own parent => exact own.findClass_eq_settleAnswer files name state
  | filtering wrapper inner ih => exact ih
  | failing loader => rfl

end Loader

end Isolation
