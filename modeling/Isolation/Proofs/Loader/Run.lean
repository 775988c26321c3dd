import Isolation.Assembly
import Isolation.Loader.ResourceLookup
import Isolation.Proofs.Attempt
import Isolation.Proofs.Loader.Change
import Isolation.Proofs.Loader.Graph
import Isolation.Proofs.Loader.Resolution

/-!
# Runs over a graph of loaders

A run is a list of requests to the loaders of a graph, each made while the files are in some state.
What one class lookup can do is said once, in `Isolation.Graph.LookupEffect`, and what any request
can do to the defined classes in `Isolation.Graph.Change`. The invariant of all runs is that every
class that is kept was defined by its own loader, under its own name, from files that the run has
seen (`Isolation.Graph.faithful_run`).
-/

namespace Isolation

/-- What a loader is asked to do. -/
inductive Action where
  | loadClass (name : String)
  | findOwnClass (name : String)
  | getResource (name : String)
  | getResources (name : String)
  | findResource (name : String)
  | findResources (name : String)
  | listen (listener : Listener)
  | dispose

/-- Whether an action is a lookup. -/
def Action.isLookup : Action → Bool
  | listen _ => false
  | dispose => false
  | _ => true

/-- The name of the class that an action looks up, if it looks up a class. -/
def Action.className? : Action → Option String
  | loadClass name => some name
  | findOwnClass name => some name
  | _ => none

/-- What a loader answers. -/
inductive Answer where
  | loaded (answer : Reported (Except LoadError ClassObject))
  | foundClass (answer : Except LoadError ClassObject)
  | resource (answer : Reported (Option Locator))
  | resources (answer : Reported (Except LoadError (List Locator)))
  | listening (events : List Event)
  | disposed (tags : List String) (events : List Event)

/-- The class that an answer hands out, if it hands one out. -/
def Answer.object? : Answer → Option ClassObject
  | loaded answer => answer.answer.toOption
  | foundClass answer => answer.toOption
  | _ => none

namespace Loader

/-- Performs an action. -/
def perform (files : FileTree) (state : State) (loader : Loader) : Action → State × Answer
  | .loadClass name =>
    let (state, answer) := loader.loadClass files state name
    (state, .loaded answer)
  | .findOwnClass name =>
    let (state, answer) := loader.findOwnClass files state name
    (state, .foundClass answer)
  | .getResource name => (state, .resource (loader.getResource? files name))
  | .getResources name => (state, .resources (loader.getResources files name))
  | .findResource name => (state, .resource ⟨loader.findResource? files name, []⟩)
  | .findResources name => (state, .resources ⟨loader.findResources files name, []⟩)
  | .listen listener =>
    let (state, events) := loader.addListener state listener
    (state, .listening events)
  | .dispose =>
    let disposal := loader.dispose state
    (disposal.state, .disposed disposal.tags disposal.events)

end Loader

namespace Graph

/-- A request to a loader of a graph, or to an artifact whose loaders belong to it. -/
inductive Request (graph : Graph) where
  | ask (loader : graph.Member) (action : Action)
  | disposeArtifact (assembly : Assembly) (member : assembly.loader ∈ graph.loaders)

/-- A request, and the files when it is made. -/
abbrev Moment (graph : Graph) := FileTree × graph.Request

variable {graph : Graph}

/-- The loader whose classes a request makes forgotten. Disposing a wrapper forgets none. -/
def Request.forgets? : graph.Request → Option LoaderId
  | ask loader .dispose => loader.val.own?.map (·.id)
  | ask _ _ => none
  | disposeArtifact assembly _ => some assembly.backing.id

variable (graph)

/-- What a request does, and what it is answered. -/
def step (files : FileTree) (state : State) : graph.Request → State × Answer
  | .ask loader action => loader.val.perform files state action
  | .disposeArtifact assembly _ =>
    let disposal := assembly.dispose state
    (disposal.state, .disposed disposal.tags disposal.events)

/-- The state after a list of requests. -/
def resume (state : State) (history : List graph.Moment) : State :=
  history.foldl (fun state moment => (graph.step moment.1 state moment.2).1) state

/-- The state after a list of requests to loaders that are new. -/
def run (history : List graph.Moment) : State :=
  graph.resume {} history

/-- What a request is answered after a run. -/
def answer (history : List graph.Moment) (moment : graph.Moment) : Answer :=
  (graph.step moment.1 (graph.run history) moment.2).2

/-- A history is run up to a moment, at that moment and from there on. -/
theorem run_append_cons (history later : List graph.Moment) (moment : graph.Moment) :
    graph.run (history ++ moment :: later) =
      graph.resume (graph.step moment.1 (graph.run history) moment.2).1 later := by
  simp [run, resume]

/-- What a class lookup by a name can do: fail and change nothing, answer with a class that is kept
under the name and change nothing, or define the class under the name, which was free. -/
inductive LookupEffect (files : FileTree) (name : String) (before : State) :
    State → Except LoadError ClassObject → Prop
  | failed (error : LoadError) : LookupEffect files name before before (.error error)
  | known {own : Backing} {object : ClassObject} (owned : graph.Owns own)
      (kept : before.defined? own.id name = some object) :
      LookupEffect files name before before (.ok object)
  | fresh {own : Backing} {definition : Definition} (owned : graph.Owns own)
      (made : own.define files name = .ok definition)
      (absent : before.defined? own.id name = none) :
      LookupEffect files name before (before.define definition).1
        (.ok ⟨before.nextSerial, definition⟩)

/-- What a request can do to the defined classes. -/
inductive Change (files : FileTree) (before after : State) : Option LoaderId → Prop
  | kept (same : State.SameClasses before after) : Change files before after none
  | grown {own : Backing} {name : String} {definition : Definition} (owned : graph.Owns own)
      (made : own.define files name = .ok definition)
      (absent : before.defined? own.id name = none)
      (grown : after = (before.define definition).1) : Change files before after none
  | forgotten {id : LoaderId} (forgets : State.Forgets id before after) :
      Change files before after (some id)

end Graph

/-- A loader defines classes in its own name, under the name that was asked for. -/
theorem Backing.define_eq_ok {files : FileTree} {own : Backing} {name : String}
    {definition : Definition} (made : own.define files name = .ok definition) :
    definition.name = name ∧ definition.definer = own.id ∧
      own.source.findClass files name own.artifact =
        .ok ⟨definition.origin, definition.bytes⟩ := by
  obtain ⟨record, found, rfl⟩ := exists_of_map_eq_ok made
  exact ⟨rfl, rfl, found⟩

namespace Loader

variable {files : FileTree} {state : State} {loader : Loader} {name : String}
  {resolution : Resolution}

private theorem firstAnswer_eq_ok {α : Type} {name artifact : String}
    {first second : Reported (Except LoadError α)} {value : α}
    (found : (firstAnswer name artifact first second).answer = .ok value) :
    first.answer = .ok value ∨ second.answer = .ok value := by
  unfold firstAnswer at found
  by_cases missed : misses first.answer = true
  · rw [if_pos missed] at found
    by_cases missedAgain : misses second.answer = true
    · rw [renameMiss_of_misses missedAgain] at found
      cases found
    · rw [renameMiss_of_not_misses missedAgain] at found
      exact .inr found
  · rw [if_neg missed] at found
    exact .inl found

/-- A name is resolved by one of the loaders that define classes. -/
theorem exists_owner_of_resolveClass
    (resolved : (loader.resolveClass files state name).answer = .ok resolution) :
    ∃ own ∈ loader.owners, own.resolve files state name = .ok resolution := by
  induction loader with
  | root own => exact ⟨own, List.mem_singleton_self own, resolved⟩
  | child own parent ih =>
    have here : own.resolve files state name = .ok resolution →
        ∃ other ∈ (child own parent).owners, other.resolve files state name = .ok resolution :=
      fun resolved => ⟨own, List.mem_cons_self, resolved⟩
    have above : (parent.resolveClass files state name).answer = .ok resolution →
        ∃ other ∈ (child own parent).owners, other.resolve files state name = .ok resolution := by
      intro resolved
      obtain ⟨other, member, answered⟩ := ih resolved
      exact ⟨other, List.mem_cons_of_mem own member, answered⟩
    unfold resolveClass at resolved
    cases order : own.rules.orderFor name with
    | childOnly =>
      rw [order] at resolved
      exact here resolved
    | parentFirst =>
      rw [order] at resolved
      exact (firstAnswer_eq_ok resolved).elim above here
    | childFirst =>
      rw [order] at resolved
      exact (firstAnswer_eq_ok resolved).elim here above
  | filtering wrapper inner ih =>
    unfold resolveClass at resolved
    by_cases admitted : wrapper.exports.admitsClass name = true
    · rw [if_pos admitted] at resolved
      exact ih resolved
    · rw [if_neg admitted] at resolved
      cases resolved
  | failing loader => cases resolved

/-- A name is resolved from the loader's own source by a loader that defines classes. -/
theorem exists_owner_of_resolveOwnClass
    (resolved : loader.resolveOwnClass files state name = .ok resolution) :
    ∃ own ∈ loader.owners, own.resolve files state name = .ok resolution := by
  induction loader with
  | root own => exact ⟨own, List.mem_singleton_self own, resolved⟩
  | child own parent => exact ⟨own, List.mem_cons_self, resolved⟩
  | filtering wrapper inner ih => exact ih resolved
  | failing loader => cases resolved

end Loader

namespace Graph

variable {graph : Graph} {files : FileTree} {state : State} {name : String}

/-- Settling what some loader of the graph resolves has the effect of a lookup. -/
theorem lookupEffect_settleAnswer {answer : Except LoadError Resolution}
    (resolved : ∀ resolution, answer = .ok resolution →
      ∃ own, graph.Owns own ∧ own.resolve files state name = .ok resolution) :
    graph.LookupEffect files name state (state.settleAnswer answer).1
      (state.settleAnswer answer).2 := by
  cases answer with
  | error error => exact .failed error
  | ok resolution =>
    obtain ⟨own, owned, resolves⟩ := resolved resolution rfl
    unfold Backing.resolve at resolves
    cases kept : state.defined? own.id name with
    | some object =>
      rw [kept] at resolves
      obtain rfl := Except.ok.inj resolves
      exact .known owned kept
    | none =>
      rw [kept] at resolves
      obtain ⟨definition, made, rfl⟩ := exists_of_map_eq_ok resolves
      exact .fresh owned made kept

/-- What looking up a class can do. -/
theorem lookupEffect_loadClass (loader : graph.Member) :
    graph.LookupEffect files name state (loader.val.loadClass files state name).1
      (loader.val.loadClass files state name).2.answer := by
  rw [loader.val.loadClass_eq_settled files name state]
  apply lookupEffect_settleAnswer
  intro resolution resolved
  obtain ⟨own, owner, resolves⟩ := Loader.exists_owner_of_resolveClass resolved
  exact ⟨own, owns_of_mem_owners loader.property owner, resolves⟩

/-- What looking up a class in a loader's own source can do. -/
theorem lookupEffect_findOwnClass (loader : graph.Member) :
    graph.LookupEffect files name state (loader.val.findOwnClass files state name).1
      (loader.val.findOwnClass files state name).2 := by
  rw [loader.val.findOwnClass_eq_settleAnswer files name state]
  apply lookupEffect_settleAnswer
  intro resolution resolved
  obtain ⟨own, owner, resolves⟩ := Loader.exists_owner_of_resolveOwnClass resolved
  exact ⟨own, owns_of_mem_owners loader.property owner, resolves⟩

private theorem LookupEffect.change {after : State} {answer : Except LoadError ClassObject}
    (effect : graph.LookupEffect files name state after answer) :
    graph.Change files state after none := by
  cases effect with
  | failed error => exact .kept (.refl state)
  | known owned kept => exact .kept (.refl state)
  | fresh owned made absent => exact .grown owned made absent rfl

private theorem change_dispose (loader : Loader) :
    graph.Change files state (loader.dispose state).state (loader.own?.map (·.id)) := by
  cases loader with
  | root own => exact .forgotten (own.forgets_dispose state)
  | child own parent => exact .forgotten (own.forgets_dispose state)
  | filtering wrapper inner => exact .kept (wrapper.sameClasses_dispose state)
  | failing loader => exact .kept (.refl state)

/-- What a request can do to the defined classes. -/
theorem change_step (request : graph.Request) :
    graph.Change files state (graph.step files state request).1 request.forgets? := by
  cases request with
  | disposeArtifact assembly member =>
    exact .forgotten ((assembly.wrapper.sameClasses_dispose state).forgets
      (assembly.backing.forgets_dispose _))
  | ask loader action =>
    cases action with
    | loadClass name => exact (lookupEffect_loadClass loader).change
    | findOwnClass name => exact (lookupEffect_findOwnClass loader).change
    | getResource name => exact .kept (.refl state)
    | getResources name => exact .kept (.refl state)
    | findResource name => exact .kept (.refl state)
    | findResources name => exact .kept (.refl state)
    | listen listener => exact .kept (loader.val.sameClasses_addListener state listener)
    | dispose => exact change_dispose loader.val

/-- What a request that looks up a class can do, and that it hands out what the lookup finds. -/
theorem exists_lookupEffect (loader : graph.Member) {action : Action}
    (asks : action.className? = some name) :
    ∃ answer, (graph.step files state (.ask loader action)).2.object? = answer.toOption ∧
      graph.LookupEffect files name state (graph.step files state (.ask loader action)).1
        answer := by
  cases action with
  | loadClass other =>
    obtain rfl := Option.some.inj asks
    exact ⟨_, rfl, lookupEffect_loadClass loader⟩
  | findOwnClass other =>
    obtain rfl := Option.some.inj asks
    exact ⟨_, rfl, lookupEffect_findOwnClass loader⟩
  | _ => cases asks

/-- Only class lookups hand out classes. -/
theorem exists_lookupEffect_of_object? {request : graph.Request} {object : ClassObject}
    (handed : (graph.step files state request).2.object? = some object) :
    ∃ name, graph.LookupEffect files name state (graph.step files state request).1
      (.ok object) := by
  cases request with
  | disposeArtifact assembly member => cases handed
  | ask loader action =>
    cases asks : action.className? with
    | some name =>
      obtain ⟨answer, handsOut, effect⟩ :=
        @exists_lookupEffect graph files state _ loader action asks
      rw [handsOut] at handed
      cases answer with
      | ok other =>
        obtain rfl := Option.some.inj handed
        exact ⟨name, effect⟩
      | error error => cases handed
    | none =>
      cases action with
      | loadClass name => cases asks
      | findOwnClass name => cases asks
      | _ => cases handed

/-- Whether every class that a state keeps was defined by its own loader under its own name, from
files of which `seen` holds. -/
def Faithful (graph : Graph) (seen : FileTree → Prop) (state : State) : Prop :=
  ∀ ⦃id name object⦄, state.defined? id name = some object →
    ∃ own files, graph.Owns own ∧ own.id = id ∧ seen files ∧
      own.define files name = .ok object.definition

/-- The state without any class is faithful to whatever has been seen. -/
theorem faithful_initial (seen : FileTree → Prop) : graph.Faithful seen {} :=
  fun _ _ _ kept => nomatch kept

/-- A class that is kept names its loader and its own name. -/
theorem Faithful.names {seen : FileTree → Prop} (faithful : graph.Faithful seen state)
    {id : LoaderId} {object : ClassObject} (kept : state.defined? id name = some object) :
    object.definition.definer = id ∧ object.definition.name = name := by
  obtain ⟨own, files, -, numbered, -, made⟩ := faithful kept
  obtain ⟨named, defined, -⟩ := Backing.define_eq_ok made
  exact ⟨defined.trans numbered, named⟩

/-- One request keeps a state faithful. -/
theorem Change.faithful {seen : FileTree → Prop} {after : State} {forgets : Option LoaderId}
    (change : graph.Change files state after forgets) (faithful : graph.Faithful seen state)
    (current : seen files) : graph.Faithful seen after := by
  intro id name object kept
  cases change with
  | kept same => exact faithful ((same.defined id name).symm.trans kept)
  | @grown own asked definition owned made absent grown =>
    obtain ⟨named, defined, -⟩ := Backing.define_eq_ok made
    subst grown
    rw [State.defined?_define state definition (by rw [defined, named, absent])] at kept
    by_cases here : id = definition.definer ∧ name = definition.name
    · rw [if_pos here] at kept
      obtain rfl := Option.some.inj kept
      obtain ⟨rfl, rfl⟩ := here
      exact ⟨own, files, owned, defined.symm, current, named ▸ made⟩
    · rw [if_neg here] at kept
      exact faithful kept
  | @forgotten other forgets =>
    by_cases here : id = other
    · rw [here, forgets.gone name] at kept
      cases kept
    · rw [forgets.others id here name] at kept
      exact faithful kept

/-- A list of requests keeps a state faithful. -/
theorem faithful_resume {seen : FileTree → Prop} (faithful : graph.Faithful seen state)
    (history : List graph.Moment) (current : ∀ moment ∈ history, seen moment.1) :
    graph.Faithful seen (graph.resume state history) := by
  induction history generalizing state with
  | nil => exact faithful
  | cons moment history ih =>
    exact ih ((change_step moment.2).faithful faithful (current moment List.mem_cons_self))
      fun later member => current later (List.mem_cons_of_mem moment member)

/-- **Every class that a run keeps was defined by its loader, from files that the run has seen.** -/
theorem faithful_run (history : List graph.Moment) :
    graph.Faithful (fun files => files ∈ history.map Prod.fst) (graph.run history) :=
  faithful_resume (faithful_initial _) history fun _ member => List.mem_map_of_mem member

end Graph

end Isolation
