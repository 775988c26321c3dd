import Isolation.Loader.Basic

/-!
# States of loaders

What changes while loaders are used: the classes that a loader has defined, the listeners that wait
for it to be disposed, and whether a wrapper has been disposed. A defined class is an object of its
own: its serial number tells it from another definition of the same class.
-/

namespace Isolation

/-- A class as its loader defines it. -/
structure Definition where
  name : String
  definer : LoaderId
  artifact : String
  origin : Locator
  bytes : Bytes
  deriving DecidableEq

/-- A defined class. -/
structure ClassObject where
  serial : Nat
  definition : Definition
  deriving DecidableEq

/-- What runs when a loader is disposed: it leaves its tag, and perhaps registers a successor
through a loader. -/
inductive Listener where
  | plain (tag : String)
  | renewing (tag : String) (through : Loader)

/-- What a listener leaves when it runs. -/
def Listener.tag : Listener → String
  | plain tag => tag
  | renewing tag _ => tag

/-- What changes about one loader. -/
structure Cell where
  defined : List (String × ClassObject) := []
  listeners : List Listener := []
  disposed : Bool := false

instance : Inhabited Cell := ⟨{}⟩

/-- What changes about all loaders, and the serial number of the next class. -/
structure State where
  cell : LoaderId → Cell := fun _ => {}
  nextSerial : Nat := 0

instance : Inhabited State := ⟨{}⟩

namespace State

/-- The state with the cell of one loader changed. -/
def update (state : State) (id : LoaderId) (change : Cell → Cell) : State :=
  { state with
    cell := fun other => if other = id then change (state.cell id) else state.cell other }

/-- The class of a name that a loader has defined. -/
def defined? (state : State) (id : LoaderId) (name : String) : Option ClassObject :=
  (state.cell id).defined.lookup name

/-- A change of a cell takes place in that cell. -/
@[simp] theorem cell_update_self (state : State) (id : LoaderId) (change : Cell → Cell) :
    (state.update id change).cell id = change (state.cell id) := by
  simp [update]

/-- A change of a cell leaves all other cells as they are. -/
theorem cell_update_of_ne (state : State) {id other : LoaderId} (change : Cell → Cell)
    (differs : other ≠ id) : (state.update id change).cell other = state.cell other := by
  simp [update, differs]

/-- Makes a class object of a definition, which its loader keeps. -/
def define (state : State) (definition : Definition) : State × ClassObject :=
  let object : ClassObject := ⟨state.nextSerial, definition⟩
  let kept := state.update definition.definer fun cell =>
    { cell with defined := cell.defined ++ [(definition.name, object)] }
  ({ kept with nextSerial := state.nextSerial + 1 }, object)

end State

end Isolation
