import Isolation.Proofs.Loader.FirstMatch
import Isolation.Proofs.Loader.Journal
import Isolation.Proofs.Loader.Registered
import Isolation.Proofs.Loader.Shutdown
import Mathlib.Data.List.Forall2

/-!
# Loaders that mirror each other

Two loaders with the same parent, whose sources agree, cannot be told apart but by their numbers.
Each of them is used in a state of its own; the states mirror each other (`Isolation.State.Mirrors`)
as long as the same is done in both, and then the answers are the same, with the number of the one
loader in place of that of the other (`Isolation.Loader.answers_mirrored`).
-/

namespace Isolation

/-- A number, with `new` in place of `old`. -/
def LoaderId.renumber (old new id : LoaderId) : LoaderId :=
  if id = old then new else id

section Renumber

variable (old new : LoaderId)

/-- A class as another loader defines it. -/
def Definition.renumber (definition : Definition) : Definition :=
  { definition with definer := LoaderId.renumber old new definition.definer }

/-- A class object of another loader, with the same serial number. -/
def ClassObject.renumber (object : ClassObject) : ClassObject :=
  ⟨object.serial, object.definition.renumber old new⟩

/-- A resolution to a class of another loader. -/
def Resolution.renumber : Resolution → Resolution
  | known object => known (object.renumber old new)
  | fresh definition => fresh (definition.renumber old new)

/-- An answer with the classes of another loader. -/
def Answer.renumber : Answer → Answer
  | loaded answer => loaded (answer.map (·.map (ClassObject.renumber old new)))
  | foundClass answer => foundClass (answer.map (ClassObject.renumber old new))
  | other => other

/-- The old number becomes the new one. -/
@[simp] theorem LoaderId.renumber_self : LoaderId.renumber old new old = new :=
  if_pos rfl

private theorem LoaderId.renumber_of_ne {old id : LoaderId} (differs : id ≠ old) (new : LoaderId) :
    LoaderId.renumber old new id = id :=
  if_neg differs

/-- A class of another loader stays as it is. -/
theorem Definition.renumber_of_ne {old : LoaderId} {definition : Definition}
    (differs : definition.definer ≠ old) (new : LoaderId) :
    definition.renumber old new = definition := by
  rw [renumber, LoaderId.renumber_of_ne differs]

/-- The object of a class of another loader stays as it is. -/
theorem ClassObject.renumber_of_ne {old : LoaderId} {object : ClassObject}
    (differs : object.definition.definer ≠ old) (new : LoaderId) :
    object.renumber old new = object := by
  rw [renumber, Definition.renumber_of_ne differs]

/-- Which object an answer hands out does not depend on the number of its loader. -/
theorem object?_renumber (answer : Answer) :
    (answer.renumber old new).object? = answer.object?.map (ClassObject.renumber old new) := by
  cases answer with
  | loaded answer =>
    obtain ⟨answer, events⟩ := answer
    cases answer <;> rfl
  | foundClass answer => cases answer <;> rfl
  | _ => rfl

end Renumber

/-- A loader that defines classes, with the parent that it has, if it has one. -/
def Backing.under (own : Backing) : Option Loader → Loader
  | none => .root own
  | some parent => .child own parent

/-- Whether two loaders differ in no more than their numbers and in how their classes and resources
are kept, as the files are. -/
structure Backing.Agrees (left right : Backing) (files : FileTree) : Prop where
  artifact : right.artifact = left.artifact
  identity : right.identity = left.identity
  rules : right.rules = left.rules
  source : left.source.Agree right.source files

/-- What a loader is asked to do in the course of its use. -/
inductive Operation where
  | act (action : Action)
  | findLocalResource (name : String)

namespace Loader

/-- Performs an operation. -/
def serve (files : FileTree) (state : State) (loader : Loader) : Operation → State × Answer
  | .act action => loader.perform files state action
  | .findLocalResource name => (state, .resource ⟨loader.findLocalResource? files name, []⟩)

/-- What a loader answers to a list of operations, each with the files when it is asked. -/
def answers (loader : Loader) : State → List (FileTree × Operation) → List Answer
  | _, [] => []
  | state, (files, operation) :: later =>
    let (state, answer) := loader.serve files state operation
    answer :: loader.answers state later

/-- Whether a loader is another one in which a first loader has been replaced by a second one. What
is replaced keeps its listeners itself, so loaders that keep them elsewhere may stay as they are. -/
inductive Counterpart (first second : Loader) : Loader → Loader → Prop
  | replaced : Counterpart first second first second
  | elsewhere {loader : Loader} (notFirst : loader.keeper? ≠ some first.id)
      (notSecond : loader.keeper? ≠ some second.id) : Counterpart first second loader loader
  | child {own : Backing} {parent other : Loader} (notFirst : own.id ≠ first.id)
      (notSecond : own.id ≠ second.id) (above : Counterpart first second parent other) :
      Counterpart first second (.child own parent) (.child own other)
  | filtering {wrapper : Wrapper} {inner other : Loader}
      (behind : Counterpart first second inner other) :
      Counterpart first second (.filtering wrapper inner) (.filtering wrapper other)

end Loader

/-- Whether two listeners do the same, each with its own one of two loaders. -/
inductive Listener.Mirrors (first second : Loader) : Listener → Listener → Prop
  | plain (tag : String) : Mirrors first second (.plain tag) (.plain tag)
  | renewing (tag : String) {through other : Loader}
      (counterpart : Loader.Counterpart first second through other) :
      Mirrors first second (.renewing tag through) (.renewing tag other)

/-- Whether two loaders are asked the same. Class names have no slashes. -/
inductive Operation.Mirrors (first second : Loader) : Operation → Operation → Prop
  | loadClass {name : String} (slashless : '/' ∉ name.toList) :
      Mirrors first second (.act (.loadClass name)) (.act (.loadClass name))
  | findOwnClass {name : String} (slashless : '/' ∉ name.toList) :
      Mirrors first second (.act (.findOwnClass name)) (.act (.findOwnClass name))
  | getResource (name : String) :
      Mirrors first second (.act (.getResource name)) (.act (.getResource name))
  | getResources (name : String) :
      Mirrors first second (.act (.getResources name)) (.act (.getResources name))
  | findResource (name : String) :
      Mirrors first second (.act (.findResource name)) (.act (.findResource name))
  | findResources (name : String) :
      Mirrors first second (.act (.findResources name)) (.act (.findResources name))
  | findLocalResource (name : String) :
      Mirrors first second (.findLocalResource name) (.findLocalResource name)
  | listen {listener other : Listener} (mirrored : Listener.Mirrors first second listener other) :
      Mirrors first second (.act (.listen listener)) (.act (.listen other))
  | dispose : Mirrors first second (.act .dispose) (.act .dispose)

namespace State

/-- Whether the classes that a first loader has defined in one state are those that a second one has
defined in another state, and all other classes are the same. -/
structure MirrorsClasses (first second : LoaderId) (left right : State) : Prop where
  serial : right.nextSerial = left.nextSerial
  own : ∀ name, right.defined? second name =
    (left.defined? first name).map (ClassObject.renumber first second)
  others : ∀ id, id ≠ first → id ≠ second → ∀ name, right.defined? id name = left.defined? id name
  foreign : ∀ id, id ≠ first → id ≠ second → ∀ name object, left.defined? id name = some object →
    object.definition.definer ≠ first

/-- Whether the listeners of a first loader in one state are those of a second one in another state,
and the same loaders are disposed. -/
structure MirrorsListeners (first second : Loader) (left right : State) : Prop where
  waiting : List.Forall₂ (Listener.Mirrors first second) (left.cell first.id).listeners
    (right.cell second.id).listeners
  disposed : ∀ id, (right.cell id).disposed = (left.cell id).disposed

/-- Whether a first loader in one state and a second one in another have seen the same. This is what
every operation preserves. -/
structure Mirrors (first second : Loader) (left right : State) : Prop where
  classes : MirrorsClasses first.id second.id left right
  listeners : MirrorsListeners first second left right

/-- Whether a loader is new: it has defined no class and keeps no listener. -/
structure Unused (state : State) (id : LoaderId) : Prop where
  defines : (state.cell id).defined = []
  waits : (state.cell id).listeners = []
  definer : ∀ other name object, state.defined? other name = some object →
    object.definition.definer ≠ id

section Classes

variable {first second : LoaderId} {left right after afterRight : State}

/-- What changes no classes on either side keeps the classes mirrored. -/
theorem MirrorsClasses.same (mirrors : MirrorsClasses first second left right)
    (same : SameClasses left after) (sameRight : SameClasses right afterRight) :
    MirrorsClasses first second after afterRight where
  serial := by rw [same.serial, sameRight.serial, mirrors.serial]
  own name := by rw [same.defined, sameRight.defined, mirrors.own]
  others id notFirst notSecond name := by
    rw [same.defined, sameRight.defined, mirrors.others id notFirst notSecond]
  foreign id notFirst notSecond name object kept :=
    mirrors.foreign id notFirst notSecond name object (by rw [← same.defined, kept])

private theorem MirrorsClasses.forgets (mirrors : MirrorsClasses first second left right)
    (forgets : Forgets first left after) (forgetsRight : Forgets second right afterRight) :
    MirrorsClasses first second after afterRight where
  serial := by rw [forgets.serial, forgetsRight.serial, mirrors.serial]
  own name := by rw [forgets.gone, forgetsRight.gone, Option.map_none]
  others id notFirst notSecond name := by
    rw [forgets.others id notFirst, forgetsRight.others id notSecond,
      mirrors.others id notFirst notSecond]
  foreign id notFirst notSecond name object kept :=
    mirrors.foreign id notFirst notSecond name object (by rw [← forgets.others id notFirst, kept])

/-- Classes of the two loaders, or one class of another loader, are defined in both states. -/
theorem MirrorsClasses.define (mirrors : MirrorsClasses first second left right)
    {definition : Definition}
    (apart : definition.definer = first ∨
      definition.definer ≠ first ∧ definition.definer ≠ second) :
    MirrorsClasses first second (left.define definition).1
        (right.define (definition.renumber first second)).1 ∧
      (right.define (definition.renumber first second)).2 =
        (left.define definition).2.renumber first second := by
  have serial : (right.define (definition.renumber first second)).2 =
      (left.define definition).2.renumber first second :=
    congrArg (ClassObject.mk · (definition.renumber first second)) mirrors.serial
  refine ⟨⟨?_, ?_, ?_, ?_⟩, serial⟩
  -- A class of the first loader becomes one of the second; any other class stays as it is.
  · exact congrArg Nat.succ mirrors.serial
  · intro name
    rw [defined?_define_eq_or, defined?_define_eq_or, mirrors.own, Option.map_or]
    congr 1
    rcases apart with rfl | ⟨notFirst, notSecond⟩
    · have owner : (definition.renumber definition.definer second).definer = second :=
        LoaderId.renumber_self _ _
      by_cases named : name = definition.name
      · rw [if_pos ⟨owner.symm, named⟩, if_pos ⟨rfl, named⟩]
        exact congrArg some serial
      · rw [if_neg fun both => named both.2, if_neg fun both => named both.2]
        rfl
    · rw [Definition.renumber_of_ne notFirst, if_neg fun both => notSecond both.1.symm,
        if_neg fun both => notFirst both.1.symm]
      rfl
  · intro id idFirst idSecond name
    rw [defined?_define_eq_or, defined?_define_eq_or, mirrors.others id idFirst idSecond]
    congr 1
    rcases apart with rfl | ⟨notFirst, -⟩
    · have owner : (definition.renumber definition.definer second).definer = second :=
        LoaderId.renumber_self _ _
      rw [if_neg fun both => idSecond (both.1.trans owner), if_neg fun both => idFirst both.1]
    · rw [Definition.renumber_of_ne notFirst, mirrors.serial]
  · intro id idFirst idSecond name object kept
    rw [defined?_define_eq_or] at kept
    rcases Option.or_eq_some_iff.mp kept with old | ⟨-, new⟩
    · exact mirrors.foreign id idFirst idSecond name object old
    · by_cases here : id = definition.definer ∧ name = definition.name
      · rw [if_pos here] at new
        obtain rfl := Option.some.inj new
        exact here.1 ▸ idFirst
      · rw [if_neg here] at new
        cases new

/-- A resolution is settled in both states. -/
theorem MirrorsClasses.settleAnswer (mirrors : MirrorsClasses first second left right)
    {answer : Except LoadError Resolution}
    (apart : ∀ definition, answer = .ok (.fresh definition) → definition.definer = first ∨
      definition.definer ≠ first ∧ definition.definer ≠ second) :
    MirrorsClasses first second (left.settleAnswer answer).1
        (right.settleAnswer (answer.map (Resolution.renumber first second))).1 ∧
      (right.settleAnswer (answer.map (Resolution.renumber first second))).2 =
        (left.settleAnswer answer).2.map (ClassObject.renumber first second) := by
  cases answer with
  | error error => exact ⟨mirrors, rfl⟩
  | ok resolution =>
    cases resolution with
    | known object => exact ⟨mirrors, rfl⟩
    | fresh definition =>
      obtain ⟨defined, object⟩ := mirrors.define (apart definition rfl)
      exact ⟨defined, congrArg Except.ok object⟩

end Classes

section Listeners

variable {first second : Loader} {left right after afterRight : State}

/-- What touches no listener and disposes no loader keeps the listeners mirrored. -/
theorem MirrorsListeners.keep (mirrors : MirrorsListeners first second left right)
    (keeps : ∀ id, (after.cell id).listeners = (left.cell id).listeners ∧
      (after.cell id).disposed = (left.cell id).disposed)
    (keepsRight : ∀ id, (afterRight.cell id).listeners = (right.cell id).listeners ∧
      (afterRight.cell id).disposed = (right.cell id).disposed) :
    MirrorsListeners first second after afterRight where
  waiting := by
    rw [(keeps first.id).1, (keepsRight second.id).1]
    exact mirrors.waiting
  disposed id := by rw [(keeps id).2, (keepsRight id).2, mirrors.disposed]

/-- Settling touches no listener and disposes no loader. -/
theorem settleAnswer_keeps (state : State) (answer : Except LoadError Resolution) (id : LoaderId) :
    ((state.settleAnswer answer).1.cell id).listeners = (state.cell id).listeners ∧
      ((state.settleAnswer answer).1.cell id).disposed = (state.cell id).disposed := by
  cases answer with
  | error error => exact ⟨rfl, rfl⟩
  | ok resolution =>
    cases resolution with
    | known object => exact ⟨rfl, rfl⟩
    | fresh definition => exact state.define_keeps definition id

/-- A listener waits for each of the two loaders. -/
theorem MirrorsListeners.listen (mirrors : MirrorsListeners first second left right)
    {listener other : Listener} (mirrored : Listener.Mirrors first second listener other) :
    MirrorsListeners first second (left.listen first.id listener)
      (right.listen second.id other) where
  waiting := by
    rw [listeners_listen, listeners_listen, if_pos rfl, if_pos rfl]
    exact List.rel_append mirrors.waiting (.cons mirrored .nil)
  disposed id := by rw [disposed_listen, disposed_listen, mirrors.disposed]

/-- Listeners of other loaders do not matter. -/
theorem MirrorsListeners.listen_elsewhere (mirrors : MirrorsListeners first second left right)
    {keeper : LoaderId} (notFirst : keeper ≠ first.id) (notSecond : keeper ≠ second.id)
    (listener other : Listener) :
    MirrorsListeners first second (left.listen keeper listener) (right.listen keeper other) where
  waiting := by
    rw [listeners_listen, listeners_listen, if_neg notFirst.symm, if_neg notSecond.symm,
      List.append_nil, List.append_nil]
    exact mirrors.waiting
  disposed id := by rw [disposed_listen, disposed_listen, mirrors.disposed]

end Listeners

end State

namespace Loader

section Listen

variable {first second : Loader} {left right : State}

private theorem Counterpart.artifact {loader other : Loader}
    (same : second.artifact = first.artifact)
    (counterpart : Counterpart first second loader other) : other.artifact = loader.artifact := by
  induction counterpart with
  | replaced => exact same
  | elsewhere => rfl
  | child => rfl
  | filtering behind ih => exact ih

/-- A loader that defines classes keeps its listeners itself. -/
theorem addListener_of_own? {loader : Loader} {own : Backing} (defines : loader.own? = some own)
    (state : State) (listener : Listener) :
    loader.addListener state listener = (state.listen loader.id listener, []) := by
  cases loader with
  | root other => rfl
  | child other parent => rfl
  | filtering wrapper inner => cases defines
  | failing other => cases defines

/-- A listener that is registered through counterparts waits in both states or in none. -/
theorem Counterpart.addListener (definesFirst : first.own?.isSome = true)
    (definesSecond : second.own?.isSome = true) (same : second.artifact = first.artifact)
    {loader other : Loader} (counterpart : Counterpart first second loader other)
    (mirrors : State.MirrorsListeners first second left right) {listener listenerRight : Listener}
    (mirrored : Listener.Mirrors first second listener listenerRight) :
    State.MirrorsListeners first second (loader.addListener left listener).1
        (other.addListener right listenerRight).1 ∧
      (other.addListener right listenerRight).2 = (loader.addListener left listener).2 := by
  induction counterpart with
  | replaced =>
    obtain ⟨own, defines⟩ := Option.isSome_iff_exists.mp definesFirst
    obtain ⟨ownRight, definesRight⟩ := Option.isSome_iff_exists.mp definesSecond
    rw [addListener_of_own? defines, addListener_of_own? definesRight]
    exact ⟨mirrors.listen mirrored, rfl⟩
  | @elsewhere loader notFirst notSecond =>
    rw [loader.addListener_eq left, loader.addListener_eq right]
    simp only [mirrors.disposed]
    split
    · exact ⟨mirrors, rfl⟩
    · cases behind : loader.backing? with
      | none => exact ⟨mirrors, rfl⟩
      | some own =>
        have kept : loader.keeper? = some own.id := by rw [keeper?, behind, Option.map_some]
        rw [kept] at notFirst notSecond
        refine ⟨mirrors.listen_elsewhere ?_ ?_ listener listenerRight, rfl⟩
        · exact fun same => notFirst (congrArg some same)
        · exact fun same => notSecond (congrArg some same)
  | child notFirst notSecond above ih =>
    exact ⟨mirrors.listen_elsewhere notFirst notSecond listener listenerRight, rfl⟩
  | @filtering wrapper inner behindOther behind ih =>
    unfold Loader.addListener
    rw [mirrors.disposed]
    split
    · exact ⟨mirrors, by rw [behind.artifact same]⟩
    · exact ih

end Listen

end Loader

section Dispose

variable {first second : Loader}

/-- Whether two disposals have come to the same. -/
structure Disposal.Mirrors (first second : Loader) (left right : Disposal) : Prop where
  listeners : State.MirrorsListeners first second left.state right.state
  tags : right.tags = left.tags
  events : right.events = left.events

/-- Listeners that do the same leave the same behind. -/
theorem Disposal.Mirrors.run (definesFirst : first.own?.isSome = true)
    (definesSecond : second.own?.isSome = true) (same : second.artifact = first.artifact)
    {left right : Disposal} (mirrors : Disposal.Mirrors first second left right)
    {listener other : Listener} (mirrored : Listener.Mirrors first second listener other) :
    Disposal.Mirrors first second (left.run listener) (right.run other) := by
  cases mirrored with
  | plain tag => exact ⟨mirrors.listeners, congrArg (· ++ [tag]) mirrors.tags, mirrors.events⟩
  | renewing tag counterpart =>
    obtain ⟨listeners, events⟩ := counterpart.addListener definesFirst definesSecond same
      mirrors.listeners (.plain (tag ++ "+"))
    refine ⟨listeners, congrArg (· ++ [tag]) mirrors.tags, ?_⟩
    exact congrArg₂ (· ++ ·) mirrors.events events

private theorem Disposal.Mirrors.foldl_run (definesFirst : first.own?.isSome = true)
    (definesSecond : second.own?.isSome = true) (same : second.artifact = first.artifact)
    {listeners others : List Listener}
    (mirrored : List.Forall₂ (Listener.Mirrors first second) listeners others)
    {left right : Disposal} (mirrors : Disposal.Mirrors first second left right) :
    Disposal.Mirrors first second (listeners.foldl Disposal.run left)
      (others.foldl Disposal.run right) := by
  induction mirrored generalizing left right with
  | nil => exact mirrors
  | cons head rest ih => exact ih (mirrors.run definesFirst definesSecond same head)

/-- The listeners of both loaders are taken. -/
theorem State.MirrorsListeners.drain {left right : State}
    (mirrors : MirrorsListeners first second left right) :
    MirrorsListeners first second
      (left.update first.id fun cell => { cell with listeners := [] })
      (right.update second.id fun cell => { cell with listeners := [] }) where
  waiting := by
    rw [listeners_drain, listeners_drain, if_pos rfl, if_pos rfl]
    exact .nil
  disposed id := by rw [disposed_drain, disposed_drain, mirrors.disposed]

private theorem Loader.dispose_of_own? {loader : Loader} {own : Backing}
    (defines : loader.own? = some own) (state : State) :
    loader.dispose state = own.dispose state := by
  cases loader with
  | root other => rw [← Option.some.inj defines]; rfl
  | child other parent => rw [← Option.some.inj defines]; rfl
  | filtering wrapper inner => cases defines
  | failing other => cases defines

/-- Two loaders that are disposed run the same listeners. -/
theorem State.Mirrors.dispose (definesFirst : first.own?.isSome = true)
    (definesSecond : second.own?.isSome = true) (same : second.artifact = first.artifact)
    {left right : State} (mirrors : State.Mirrors first second left right) :
    State.Mirrors first second (first.dispose left).state (second.dispose right).state ∧
      (second.dispose right).tags = (first.dispose left).tags ∧
      (second.dispose right).events = (first.dispose left).events := by
  obtain ⟨own, defines⟩ := Option.isSome_iff_exists.mp definesFirst
  obtain ⟨other, definesOther⟩ := Option.isSome_iff_exists.mp definesSecond
  have ownId := Loader.id_eq_of_own? defines
  have otherId := Loader.id_eq_of_own? definesOther
  have forgets := own.forgets_dispose left
  have forgetsRight := other.forgets_dispose right
  rw [Loader.dispose_of_own? defines, Loader.dispose_of_own? definesOther]
  rw [ownId] at forgets
  rw [otherId] at forgetsRight
  -- The listeners run in states in which none is left, so what they register is mirrored again.
  have drained : Disposal.Mirrors first second
      { state := left.update first.id fun cell => { cell with listeners := [] } }
      { state := right.update second.id fun cell => { cell with listeners := [] } } :=
    ⟨mirrors.listeners.drain, rfl, rfl⟩
  have ran := drained.foldl_run definesFirst definesSecond same mirrors.listeners.waiting
  refine ⟨⟨mirrors.classes.forgets forgets forgetsRight, ?_⟩, ?_⟩
  · unfold Backing.dispose Listeners.drain
    rw [ownId, otherId]
    exact ran.listeners.keep (State.forget_keeps _ _) (State.forget_keeps _ _)
  · unfold Backing.dispose Listeners.drain
    rw [ownId, otherId]
    exact ⟨ran.tags, ran.events⟩

end Dispose

end Isolation
