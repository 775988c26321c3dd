import Isolation.Loader.ClassLookup
import Isolation.Loader.Lifecycle

/-!
# What happens to defined classes

Three things can happen to the classes that loaders have defined: nothing (`State.SameClasses`), a
class is defined under a name that had none (`State.defined?_define`), or one loader forgets all of
its classes (`State.Forgets`). Registering and running listeners never touches a class.
-/

namespace Isolation

namespace State

/-- Whether two states have the same defined classes. -/
structure SameClasses (before after : State) : Prop where
  serial : after.nextSerial = before.nextSerial
  defined : ∀ id name, after.defined? id name = before.defined? id name

/-- A state has the classes that it has. -/
theorem SameClasses.refl (state : State) : SameClasses state state :=
  ⟨rfl, fun _ _ => rfl⟩

private theorem SameClasses.trans {first second third : State} (before : SameClasses first second)
    (after : SameClasses second third) : SameClasses first third :=
  ⟨after.serial.trans before.serial,
    fun id name => (after.defined id name).trans (before.defined id name)⟩

/-- Whether one state is the other without the classes of one loader. -/
structure Forgets (id : LoaderId) (before after : State) : Prop where
  serial : after.nextSerial = before.nextSerial
  gone : ∀ name, after.defined? id name = none
  others : ∀ other, other ≠ id → ∀ name, after.defined? other name = before.defined? other name

/-- A loader that forgets its classes later forgets those that it had before. -/
theorem SameClasses.forgets {id : LoaderId} {first second third : State}
    (same : SameClasses first second) (forgets : Forgets id second third) :
    Forgets id first third where
  serial := forgets.serial.trans same.serial
  gone := forgets.gone
  others := fun other differs name =>
    (forgets.others other differs name).trans (same.defined other name)

/-- Changing a cell but for its classes changes no class. -/
theorem sameClasses_update (state : State) (id : LoaderId) {change : Cell → Cell}
    (keeps : (change (state.cell id)).defined = (state.cell id).defined) :
    SameClasses state (state.update id change) := by
  refine ⟨rfl, fun other name => ?_⟩
  unfold defined?
  by_cases same : other = id
  · rw [same, cell_update_self, keeps]
  · rw [cell_update_of_ne state change same]

/-- Emptying the classes of a cell makes its loader forget them. -/
theorem forgets_update (state : State) (id : LoaderId) :
    Forgets id state (state.update id fun cell => { cell with defined := [] }) := by
  refine ⟨rfl, fun name => ?_, fun other differs name => ?_⟩
  · unfold defined?
    rw [cell_update_self]
    rfl
  · unfold defined?
    rw [cell_update_of_ne state _ differs]

/-- A listener that waits changes no classes. -/
theorem sameClasses_listen (state : State) (id : LoaderId) (listener : Listener) :
    SameClasses state (state.listen id listener) :=
  state.sameClasses_update id rfl

/-- A definition changes only the cell of its loader. -/
theorem cell_define_of_ne (state : State) (definition : Definition) {id : LoaderId}
    (differs : id ≠ definition.definer) :
    (state.define definition).1.cell id = state.cell id := by
  simp [define, update, differs]

private theorem cell_define_self (state : State) (definition : Definition) :
    (state.define definition).1.cell definition.definer =
      { state.cell definition.definer with
        defined := (state.cell definition.definer).defined ++
          [(definition.name, ⟨state.nextSerial, definition⟩)] } := by
  simp [define, update]

/-- A definition leaves the listeners of a loader alone, and whether it is disposed. -/
theorem define_keeps (state : State) (definition : Definition) (id : LoaderId) :
    ((state.define definition).1.cell id).listeners = (state.cell id).listeners ∧
      ((state.define definition).1.cell id).disposed = (state.cell id).disposed := by
  by_cases same : id = definition.definer
  · rw [same, cell_define_self]
    exact ⟨rfl, rfl⟩
  · rw [cell_define_of_ne state definition same]
    exact ⟨rfl, rfl⟩

/-- A class that is defined can be found under its name, unless there was one already. -/
theorem defined?_define_eq_or (state : State) (definition : Definition) (id : LoaderId)
    (name : String) :
    (state.define definition).1.defined? id name =
      (state.defined? id name).or
        (if id = definition.definer ∧ name = definition.name then
          some ⟨state.nextSerial, definition⟩
        else none) := by
  by_cases here : id = definition.definer
  · subst here
    unfold defined?
    rw [cell_define_self, List.lookup_append]
    by_cases named : name = definition.name
    · subst named
      simp
    · have apart : (name == definition.name) = false := beq_eq_false_iff_ne.mpr named
      simp [List.lookup_cons, apart, named]
  · unfold defined?
    rw [cell_define_of_ne state definition here]
    simp [here]

/-- A class that is defined under a name without one can be found there, and under no other name. -/
theorem defined?_define (state : State) (definition : Definition)
    (absent : state.defined? definition.definer definition.name = none) (id : LoaderId)
    (name : String) :
    (state.define definition).1.defined? id name =
      if id = definition.definer ∧ name = definition.name then some ⟨state.nextSerial, definition⟩
      else state.defined? id name := by
  rw [defined?_define_eq_or]
  by_cases here : id = definition.definer ∧ name = definition.name
  · obtain ⟨rfl, rfl⟩ := here
    rw [absent, Option.none_or, if_pos ⟨rfl, rfl⟩]
  · rw [if_neg here, if_neg here, Option.or_none]

end State

open State

namespace Loader

/-- Adding a listener changes no classes. -/
theorem sameClasses_addListener (state : State) (loader : Loader) (listener : Listener) :
    SameClasses state (loader.addListener state listener).1 := by
  induction loader with
  | root own => exact state.sameClasses_listen own.id listener
  | child own parent => exact state.sameClasses_listen own.id listener
  | filtering wrapper inner ih =>
    unfold addListener
    by_cases refused : (state.cell wrapper.id).disposed = true
    · rw [if_pos refused]
      exact .refl state
    · rw [if_neg refused]
      exact ih
  | failing loader => exact .refl state

end Loader

private theorem Disposal.sameClasses_run (disposal : Disposal) (listener : Listener) :
    SameClasses disposal.state (disposal.run listener).state := by
  cases listener with
  | plain tag => exact .refl disposal.state
  | renewing tag through => exact through.sameClasses_addListener disposal.state _

private theorem Disposal.sameClasses_foldl_run (listeners : List Listener) (disposal : Disposal) :
    SameClasses disposal.state (listeners.foldl Disposal.run disposal).state := by
  induction listeners generalizing disposal with
  | nil => exact .refl disposal.state
  | cons listener listeners ih => exact (disposal.sameClasses_run listener).trans (ih _)

/-- Disposing a loader makes it forget its classes, and no other loader. -/
theorem Backing.forgets_dispose (state : State) (own : Backing) :
    Forgets own.id state (own.dispose state).state := by
  have drained : SameClasses state
      (state.update own.id fun cell => { cell with listeners := [] }) :=
    state.sameClasses_update own.id rfl
  have ran := Disposal.sameClasses_foldl_run (state.cell own.id).listeners
    { state := state.update own.id fun cell => { cell with listeners := [] } }
  exact (drained.trans ran).forgets (forgets_update _ own.id)

/-- Disposing a wrapper forgets no class. -/
theorem Wrapper.sameClasses_dispose (state : State) (wrapper : Wrapper) :
    SameClasses state (wrapper.dispose state) :=
  state.sameClasses_update wrapper.id rfl

end Isolation
