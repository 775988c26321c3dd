import Isolation.Loader.Event
import Isolation.Loader.State

/-!
# Disposing loaders

A loader that defines classes keeps listeners. When it is disposed, each listener runs once, in the
order of registration, and the defined classes are forgotten; the loader can be used on. Disposing a
wrapper only makes it refuse listeners, and leaves the loader behind it alone.
-/

namespace Isolation

/-- Listeners that wait, in the order of registration. -/
abbrev Listeners := List Listener

namespace Listeners

/-- The listeners with one more. -/
def add (listeners : Listeners) (listener : Listener) : Listeners :=
  listeners ++ [listener]

/-- The listeners that run now, and those that wait afterwards: none. -/
def drain (listeners : Listeners) : Listeners × Listeners :=
  (listeners, [])

end Listeners

/-- The state in which a listener waits for a loader to be disposed. -/
def State.listen (state : State) (id : LoaderId) (listener : Listener) : State :=
  state.update id fun cell => { cell with listeners := Listeners.add cell.listeners listener }

namespace Loader

/-- Registers a listener with the loader behind any wrappers; a disposed wrapper refuses it. -/
def addListener (state : State) : Loader → Listener → State × List Event
  | root own, listener => (state.listen own.id listener, [])
  | child own _, listener => (state.listen own.id listener, [])
  | filtering wrapper inner, listener =>
    if (state.cell wrapper.id).disposed then (state, [.lateListener inner.artifact])
    else inner.addListener state listener
  | failing _, _ => (state, [])

end Loader

/-- A state, the tags that listeners left on the way to it, and the events. -/
structure Disposal where
  state : State
  tags : List String := []
  events : List Event := []

/-- Runs one listener. -/
def Disposal.run (disposal : Disposal) (listener : Listener) : Disposal :=
  match listener with
  | .plain tag => { disposal with tags := disposal.tags ++ [tag] }
  | .renewing tag through =>
    let (state, events) := through.addListener disposal.state (.plain (tag ++ "+"))
    ⟨state, disposal.tags ++ [tag], disposal.events ++ events⟩

namespace Backing

/-- Runs the waiting listeners and forgets the defined classes. -/
def dispose (state : State) (own : Backing) : Disposal :=
  let (running, waiting) := Listeners.drain (state.cell own.id).listeners
  let drained := state.update own.id fun cell => { cell with listeners := waiting }
  let disposal := running.foldl Disposal.run { state := drained }
  { disposal with state := disposal.state.update own.id fun cell => { cell with defined := [] } }

end Backing

namespace Wrapper

/-- Makes a wrapper refuse listeners. -/
def dispose (state : State) (wrapper : Wrapper) : State :=
  state.update wrapper.id fun cell => { cell with disposed := true }

end Wrapper

namespace Loader

/-- Disposes a loader. -/
def dispose (state : State) : Loader → Disposal
  | root own => own.dispose state
  | child own _ => own.dispose state
  | filtering wrapper _ => { state := wrapper.dispose state }
  | failing _ => { state := state }

end Loader

end Isolation
