import Isolation.Proofs.Loader.DefineOnce
import Isolation.Proofs.Loader.Journal
import Mathlib.Data.List.Induction

/-!
# Every listener runs once

A run makes calls that decide which listeners run. The state that it reaches keeps, for each loader,
exactly the listeners that wait according to these calls (`Isolation.State.Follows`), so a disposal
runs exactly those, in the order in which they were registered
(`Isolation.Graph.listeners_run_once`).
-/

namespace Isolation

namespace Journal

/-- The journal once a loader that keeps listeners has been disposed. Its listeners have run, and
have registered their successors. -/
def afterDrain (journal : Journal) (keeper : LoaderId) : Journal :=
  journal ++ [.drain keeper] ++ (journal.waiting keeper).filterMap (·.2.successor?)

/-- The journal once a loader has been disposed. -/
def afterDisposing (journal : Journal) : Loader → Journal
  | .root own => journal.afterDrain own.id
  | .child own _ => journal.afterDrain own.id
  | .filtering wrapper _ => journal ++ [.close wrapper.id]
  | .failing _ => journal

private theorem drains?_of_successor? {listener : Listener} {call : Call}
    (succeeds : listener.successor? = some call) : call.drains? = none := by
  cases listener with
  | plain tag => cases succeeds
  | renewing tag through =>
    rw [← Option.some.inj succeeds]
    rfl

private theorem ranFrom_afterDrain {journal : Journal} {start : Nat}
    (before : start ≤ journal.length) (keeper : LoaderId) :
    (journal.afterDrain keeper).ranFrom start =
      journal.ranFrom start ++ journal.waiting keeper := by
  rw [afterDrain, ranFrom_spares, ranFrom_drain before]
  · rw [List.length_append]
    exact Nat.le_add_right_of_le before
  · intro call member
    obtain ⟨registration, -, succeeds⟩ := List.mem_filterMap.mp member
    exact drains?_of_successor? succeeds

end Journal

namespace Loader

/-- A listener is registered with the loader behind the wrappers, unless one of them is disposed. -/
theorem addListener_eq (state : State) (loader : Loader) (listener : Listener) :
    loader.addListener state listener =
      if ∃ wrapper ∈ loader.wrapperIds, (state.cell wrapper).disposed = true then
        (state, [.lateListener loader.artifact])
      else match loader.backing? with
        | some own => (state.listen own.id listener, [])
        | none => (state, []) := by
  induction loader with
  | root own => simp [addListener, wrapperIds, backing?]
  | child own parent => simp [addListener, wrapperIds, backing?]
  | filtering wrapper inner ih =>
    unfold addListener
    rw [ih]
    by_cases refused : (state.cell wrapper.id).disposed = true
    · simp [refused, wrapperIds, artifact]
    · simp [refused, wrapperIds, artifact, backing?]
  | failing other => simp [addListener, wrapperIds, backing?]

end Loader

namespace State

variable (state : State) (id other : LoaderId)

/-- A listener waits at the end of those of its loader, and nowhere else. -/
theorem listeners_listen (listener : Listener) :
    ((state.listen id listener).cell other).listeners =
      (state.cell other).listeners ++ if other = id then [listener] else [] := by
  by_cases here : other = id
  · rw [listen, here, cell_update_self, if_pos rfl]
    rfl
  · rw [listen, cell_update_of_ne state _ here, if_neg here, List.append_nil]

/-- A listener that waits disposes no loader. -/
theorem disposed_listen (listener : Listener) :
    ((state.listen id listener).cell other).disposed = (state.cell other).disposed := by
  by_cases here : other = id
  · rw [listen, here, cell_update_self]
  · rw [listen, cell_update_of_ne state _ here]

private theorem listeners_dispose (wrapper : Wrapper) :
    ((wrapper.dispose state).cell other).listeners = (state.cell other).listeners := by
  by_cases here : other = wrapper.id
  · rw [Wrapper.dispose, here, cell_update_self]
  · rw [Wrapper.dispose, cell_update_of_ne state _ here]

private theorem disposed_dispose (wrapper : Wrapper) :
    ((wrapper.dispose state).cell other).disposed = true ↔
      (state.cell other).disposed = true ∨ other = wrapper.id := by
  by_cases here : other = wrapper.id
  · simp only [Wrapper.dispose, here, cell_update_self, or_true]
  · simp only [Wrapper.dispose, cell_update_of_ne state _ here, here, or_false]

/-- A loader that is drained has no listeners left, and the others keep theirs. -/
theorem listeners_drain :
    ((state.update id fun cell => { cell with listeners := [] }).cell other).listeners =
      if other = id then [] else (state.cell other).listeners := by
  by_cases here : other = id
  · rw [here, cell_update_self, if_pos rfl]
  · rw [cell_update_of_ne state _ here, if_neg here]

/-- To drain a loader disposes none. -/
theorem disposed_drain :
    ((state.update id fun cell => { cell with listeners := [] }).cell other).disposed =
      (state.cell other).disposed := by
  by_cases here : other = id
  · rw [here, cell_update_self]
  · rw [cell_update_of_ne state _ here]

/-- A loader that forgets its classes keeps its listeners and is disposed or not as before. -/
theorem forget_keeps :
    ((state.update id fun cell => { cell with defined := [] }).cell other).listeners =
        (state.cell other).listeners ∧
      ((state.update id fun cell => { cell with defined := [] }).cell other).disposed =
        (state.cell other).disposed := by
  by_cases here : other = id
  · rw [here, cell_update_self]
    exact ⟨rfl, rfl⟩
  · rw [cell_update_of_ne state _ here]
    exact ⟨rfl, rfl⟩

/-- Whether the listeners that a state keeps are those that wait, and the wrappers that it holds
disposed are those that were. -/
structure Follows (state : State) (journal : Journal) : Prop where
  waits : ∀ keeper, (state.cell keeper).listeners = (journal.waiting keeper).map (·.2)
  closes : ∀ wrapper, (state.cell wrapper).disposed = true ↔ wrapper ∈ journal.closed

namespace Follows

variable {state} {after : State} {journal : Journal}

private theorem initial : Follows {} [] :=
  ⟨fun _ => rfl, fun _ => by simp [Journal.closed]⟩

/-- What touches no listener and no wrapper keeps to the journal. -/
theorem keep (follows : state.Follows journal)
    (keeps : ∀ id, (after.cell id).listeners = (state.cell id).listeners ∧
      (after.cell id).disposed = (state.cell id).disposed) : after.Follows journal where
  waits keeper := by rw [(keeps keeper).1, follows.waits]
  closes wrapper := by rw [(keeps wrapper).2, follows.closes]

/-- A call that disposes no wrapper, and whose effect on the listeners the journal tells. -/
theorem concat {call : Call} (follows : state.Follows journal) (opens : call.closes? = none)
    (waits : ∀ keeper, (after.cell keeper).listeners =
      (Journal.waiting (journal ++ [call]) keeper).map (·.2))
    (keeps : ∀ id, (after.cell id).disposed = (state.cell id).disposed) :
    after.Follows (journal ++ [call]) where
  waits := waits
  closes wrapper := by
    rw [keeps, follows.closes, Journal.closed_concat, opens, Option.toList_none, List.append_nil]

private theorem refuses_iff (follows : state.Follows journal) (through : Loader) :
    (∃ wrapper ∈ through.wrapperIds, (state.cell wrapper).disposed = true) ↔
      ¬∀ wrapper ∈ through.wrapperIds, wrapper ∉ journal.closed := by
  simp only [follows.closes, not_forall, not_not, exists_prop]

/-- A listener that is registered waits behind all others, unless a wrapper refuses it. -/
theorem addListener (follows : state.Follows journal) (through : Loader) (listener : Listener) :
    (through.addListener state listener).1.Follows (journal ++ [.register through listener]) := by
  rw [through.addListener_eq state listener]
  by_cases refused : ∃ wrapper ∈ through.wrapperIds, (state.cell wrapper).disposed = true
  · rw [if_pos refused]
    have shut := (follows.refuses_iff through).mp refused
    apply follows.concat rfl
    · intro keeper
      rw [Journal.waiting_register, if_neg fun effective => shut effective.2, List.append_nil]
      exact follows.waits keeper
    · exact fun _ => rfl
  · rw [if_neg refused]
    have opens : ∀ wrapper ∈ through.wrapperIds, wrapper ∉ journal.closed :=
      not_not.mp fun shut => refused ((follows.refuses_iff through).mpr shut)
    cases behind : through.backing? with
    | none =>
      -- Nobody keeps the listener, so the registration takes effect nowhere.
      have nobody : through.keeper? = none := by rw [Loader.keeper?, behind, Option.map_none]
      apply follows.concat rfl
      · intro keeper
        rw [Journal.waiting_register, nobody]
        simpa using follows.waits keeper
      · exact fun _ => rfl
    | some own =>
      have kept : through.keeper? = some own.id := by rw [Loader.keeper?, behind, Option.map_some]
      apply follows.concat rfl
      · intro keeper
        rw [listeners_listen, Journal.waiting_register, kept, List.map_append, ← follows.waits]
        by_cases here : keeper = own.id
        · rw [if_pos here, if_pos ⟨congrArg some here.symm, opens⟩, List.map_singleton]
        · have elsewhere : ¬(some own.id = some keeper) :=
            fun same => here (Option.some.inj same).symm
          rw [if_neg here, if_neg fun effective => elsewhere effective.1, List.map_nil]
      · exact fun id => state.disposed_listen own.id id listener

/-- A wrapper that is disposed leaves all listeners waiting. -/
theorem close (follows : state.Follows journal) (wrapper : Wrapper) :
    (wrapper.dispose state).Follows (journal ++ [.close wrapper.id]) where
  waits keeper := by
    rw [listeners_dispose, Journal.waiting_close, follows.waits]
  closes other := by
    rw [disposed_dispose, follows.closes, Journal.closed_concat, List.mem_append]
    simp [Call.closes?]

/-- A loader whose listeners are taken keeps none. -/
theorem drain (follows : state.Follows journal) (keeper : LoaderId) :
    (state.update keeper fun cell => { cell with listeners := [] }).Follows
      (journal ++ [.drain keeper]) := by
  apply follows.concat rfl
  · intro other
    rw [Journal.waiting_drain, listeners_drain, follows.waits]
    by_cases here : other = keeper
    · rw [if_pos here, if_pos here.symm, List.map_nil]
    · rw [if_neg here, if_neg (Ne.symm here)]
  · exact fun other => state.disposed_drain keeper other

/-- Forgetting classes leaves all listeners waiting. -/
theorem forget (follows : state.Follows journal) (id : LoaderId) :
    (state.update id fun cell => { cell with defined := [] }).Follows journal :=
  follows.keep (state.forget_keeps id)

end Follows

end State

namespace Disposal

variable {disposal : Disposal} {journal : Journal}

/-- A listener that runs registers its successor, if it has one, and leaves its tag. -/
theorem follows_run (follows : disposal.state.Follows journal) (listener : Listener) :
    (disposal.run listener).state.Follows (journal ++ listener.successor?.toList) ∧
      (disposal.run listener).tags = disposal.tags ++ [listener.tag] := by
  cases listener with
  | plain tag =>
    refine ⟨?_, rfl⟩
    rw [Listener.successor?, Option.toList_none, List.append_nil]
    exact follows
  | renewing tag through => exact ⟨follows.addListener through _, rfl⟩

/-- Listeners run one after another. -/
theorem follows_foldl_run (follows : disposal.state.Follows journal) (listeners : List Listener) :
    (listeners.foldl run disposal).state.Follows
        (journal ++ listeners.filterMap Listener.successor?) ∧
      (listeners.foldl run disposal).tags = disposal.tags ++ listeners.map Listener.tag := by
  induction listeners generalizing disposal journal with
  | nil =>
    rw [List.filterMap_nil, List.append_nil, List.map_nil, List.append_nil]
    exact ⟨follows, rfl⟩
  | cons listener listeners ih =>
    obtain ⟨first, left⟩ := follows_run follows listener
    obtain ⟨rest, leftToo⟩ := ih first
    have calls : (listener :: listeners).filterMap Listener.successor? =
        listener.successor?.toList ++ listeners.filterMap Listener.successor? := by
      cases succeeds : listener.successor? with
      | none => simp [succeeds]
      | some call => simp [succeeds]
    refine ⟨?_, ?_⟩
    · rw [calls, ← List.append_assoc]
      exact rest
    · rw [List.foldl_cons, leftToo, left, List.append_assoc]
      rfl

end Disposal

/-- A loader that is disposed runs the listeners that wait for it, in order. -/
theorem Backing.follows_dispose {state : State} {journal : Journal}
    (follows : state.Follows journal) (own : Backing) {start : Nat}
    (before : start ≤ journal.length) :
    (own.dispose state).state.Follows (journal.afterDrain own.id) ∧
      ((journal.afterDrain own.id).ranFrom start).map (·.2.tag) =
        (journal.ranFrom start).map (·.2.tag) ++ (own.dispose state).tags := by
  -- The listeners are taken before the first one runs, so a successor waits for the next disposal.
  have drained := follows.drain own.id
  obtain ⟨ran, left⟩ := @Disposal.follows_foldl_run
    { state := state.update own.id fun cell => { cell with listeners := [] } } _ drained
    ((journal.waiting own.id).map (·.2))
  rw [List.filterMap_map] at ran
  rw [List.map_map, List.nil_append] at left
  rw [Journal.ranFrom_afterDrain before, List.map_append]
  unfold dispose Listeners.drain
  rw [follows.waits own.id]
  exact ⟨ran.forget own.id, congrArg _ left.symm⟩

/-- What disposing a loader does to listeners. -/
theorem Loader.follows_dispose {state : State} {journal : Journal}
    (follows : state.Follows journal) (loader : Loader) {start : Nat}
    (before : start ≤ journal.length) :
    (loader.dispose state).state.Follows (journal.afterDisposing loader) ∧
      ((journal.afterDisposing loader).ranFrom start).map (·.2.tag) =
        (journal.ranFrom start).map (·.2.tag) ++ (loader.dispose state).tags := by
  cases loader with
  | root own => exact own.follows_dispose follows before
  | child own parent => exact own.follows_dispose follows before
  | filtering wrapper inner =>
    refine ⟨follows.close wrapper, ?_⟩
    rw [Journal.afterDisposing, Journal.ranFrom_spare before rfl]
    exact (List.append_nil _).symm
  | failing other => exact ⟨follows, (List.append_nil _).symm⟩

/-- The tags that the listeners which a request runs leave. -/
def Answer.tags : Answer → List String
  | disposed tags _ => tags
  | _ => []

namespace Graph

variable {graph : Graph}

/-- The journal once a request has been served. Disposing an artifact disposes its wrapper, and then
the loader behind it. -/
def Request.enter (journal : Journal) : graph.Request → Journal
  | ask loader (.listen listener) => journal ++ [.register loader.val listener]
  | ask loader .dispose => journal.afterDisposing loader.val
  | ask _ _ => journal
  | disposeArtifact assembly _ =>
    (journal.afterDisposing assembly.loader).afterDisposing (.root assembly.backing)

/-- The calls that a list of requests makes. -/
def journal (graph : Graph) (history : List graph.Moment) : Journal :=
  history.foldl (fun journal moment => moment.2.enter journal) []

private theorem journal_concat (history : List graph.Moment) (moment : graph.Moment) :
    graph.journal (history ++ [moment]) = moment.2.enter (graph.journal history) := by
  simp [journal]

private theorem run_concat (history : List graph.Moment) (moment : graph.Moment) :
    graph.run (history ++ [moment]) = (graph.step moment.1 (graph.run history) moment.2).1 := by
  rw [run_append_cons]
  rfl

/-- A lookup touches no listener and no wrapper. -/
theorem LookupEffect.follows {files : FileTree} {name : String} {before after : State}
    {answer : Except LoadError ClassObject} {journal : Journal}
    (effect : graph.LookupEffect files name before after answer)
    (follows : before.Follows journal) : after.Follows journal := by
  cases effect with
  | failed error => exact follows
  | known owned kept => exact follows
  | fresh owned made absent => exact follows.keep (before.define_keeps _)

/-- **What a request does to listeners**: the state goes on to follow the journal, and the answer
holds the tags of the listeners that the calls of the request run. -/
theorem follows_step {files : FileTree} {state : State} {journal : Journal}
    (follows : state.Follows journal) (request : graph.Request) :
    (graph.step files state request).1.Follows (request.enter journal) ∧
      (graph.step files state request).2.tags =
        ((request.enter journal).ranFrom journal.length).map (·.2.tag) := by
  have idle : [] = (journal.ranFrom journal.length).map (·.2.tag) := by
    rw [journal.ranFrom_self]
    rfl
  cases request with
  | disposeArtifact assembly member =>
    obtain ⟨closed, left⟩ := assembly.loader.follows_dispose follows (Nat.le_refl _)
    have longer : journal.length ≤ (journal.afterDisposing assembly.loader).length := by
      change journal.length ≤ (journal ++ [_]).length
      rw [List.length_append]
      exact Nat.le_add_right ..
    obtain ⟨ran, leftToo⟩ := (Loader.root assembly.backing).follows_dispose closed longer
    refine ⟨ran, ?_⟩
    rw [Request.enter, leftToo, left, ← idle]
    rfl
  | ask loader action =>
    cases action with
    | loadClass name => exact ⟨(lookupEffect_loadClass loader).follows follows, idle⟩
    | findOwnClass name => exact ⟨(lookupEffect_findOwnClass loader).follows follows, idle⟩
    | getResource name => exact ⟨follows, idle⟩
    | getResources name => exact ⟨follows, idle⟩
    | findResource name => exact ⟨follows, idle⟩
    | findResources name => exact ⟨follows, idle⟩
    | listen listener =>
      refine ⟨follows.addListener loader.val listener, ?_⟩
      rw [Request.enter, Journal.ranFrom_spare (Nat.le_refl _) rfl]
      exact idle
    | dispose =>
      obtain ⟨ran, left⟩ := loader.val.follows_dispose follows (Nat.le_refl _)
      refine ⟨ran, ?_⟩
      rw [Request.enter, left, ← idle]
      rfl

/-- The state that a run reaches follows the journal of its calls. -/
theorem follows_run (history : List graph.Moment) :
    (graph.run history).Follows (graph.journal history) := by
  induction history using List.reverseRecOn with
  | nil => exact .initial
  | append_singleton history moment ih =>
    rw [run_concat, journal_concat]
    exact (follows_step ih moment.2).1

/-- **Every listener runs exactly once, in order.** What a request leaves are the tags of the
listeners that its calls run; disposing a wrapper runs none. The listeners that a call runs stand in
the order in which they were registered. A listener is run by a call exactly when its registration
took effect, for no wrapper on the way had been disposed, and the call is the first disposal of its
loader since. So a registration that takes effect is run by one call alone, once its loader is
disposed, and one that is refused by none. -/
theorem listeners_run_once (graph : Graph) (history : List graph.Moment) :
    (∀ moment, (graph.answer history moment).tags =
        ((graph.journal (history ++ [moment])).ranFrom
          (graph.journal history).length).map (·.2.tag)) ∧
      (∀ files wrapper inner, (member : .filtering wrapper inner ∈ graph.loaders) →
        graph.answer history (files, .ask ⟨_, member⟩ .dispose) = .disposed [] []) ∧
      (∀ call, ((graph.journal history).runBy call).Pairwise
        fun earlier later => earlier.1 < later.1) ∧
      (∀ call position listener, (position, listener) ∈ (graph.journal history).runBy call ↔
        ∃ keeper, (graph.journal history).accepted? keeper position = some listener ∧
          (graph.journal history).FirstDrain keeper position call) ∧
      ∀ position keeper listener,
        (graph.journal history).accepted? keeper position = some listener →
        (∃ call, position < call ∧ (graph.journal history)[call]? = some (.drain keeper)) →
        ∃! call, (position, listener) ∈ (graph.journal history).runBy call := by
  refine ⟨?_, ?_, ?_, ?_, ?_⟩
  · intro moment
    rw [journal_concat]
    exact (follows_step (follows_run history) moment.2).2
  · intro files wrapper inner member
    rfl
  · intro call
    exact Journal.pairwise_runBy _ call
  · intro call position listener
    exact Journal.mem_runBy_iff
  · intro position keeper listener accepted drains
    exact Journal.existsUnique_runBy accepted drains

/-- A listener that registers a successor, with the loader behind the wrapper. -/
def renewed : Listener :=
  .renewing "a" (.root oneClass)

/-- The wrapper. -/
def oneClassFront : oneClassWrapped.Member :=
  ⟨_, List.mem_cons_self⟩

/-- The loader behind the wrapper. -/
def oneClassBehind : oneClassWrapped.Member :=
  ⟨_, List.mem_cons_of_mem _ List.mem_cons_self⟩

/-- Three registrations, of which the last comes after the wrapper has been disposed, and a disposal
of the loader behind it. -/
def lateHistory : List oneClassWrapped.Moment :=
  [.ask oneClassFront (.listen renewed), .ask oneClassBehind (.listen (.plain "b")),
    .ask oneClassFront .dispose, .ask oneClassFront (.listen (.plain "c")),
    .ask oneClassBehind .dispose].map (.empty, ·)

private theorem journal_lateHistory :
    oneClassWrapped.journal lateHistory =
      [.register (.filtering onePackage (.root oneClass)) renewed,
        .register (.root oneClass) (.plain "b"), .close ⟨1⟩,
        .register (.filtering onePackage (.root oneClass)) (.plain "c"), .drain ⟨0⟩,
        .register (.root oneClass) (.plain "a+")] :=
  rfl

/-- Of three listeners, the one that a disposed wrapper refuses never runs. The others run once, and
the successor of the first runs when their loader is disposed again. -/
theorem oneClassWrapped_runs_once :
    (∃! call, (0, renewed) ∈ (oneClassWrapped.journal lateHistory).runBy call) ∧
      (∀ call, (3, .plain "c") ∉ (oneClassWrapped.journal lateHistory).runBy call) ∧
      (oneClassWrapped.answer lateHistory (.empty, .ask oneClassBehind .dispose)).tags =
        ["a+"] := by
  obtain ⟨tags, -, -, runs, unique⟩ := oneClassWrapped.listeners_run_once lateHistory
  refine ⟨?_, ?_, ?_⟩
  · exact unique 0 ⟨0⟩ renewed rfl ⟨4, by decide, rfl⟩
  · intro call ran
    obtain ⟨keeper, accepted, -⟩ := (runs call 3 (.plain "c")).mp ran
    obtain ⟨through, found, -, opens⟩ := Journal.accepted?_eq_some_iff.mp accepted
    rw [journal_lateHistory] at found opens
    obtain ⟨rfl, -⟩ := Call.register.inj (Option.some.inj found)
    exact opens ⟨1⟩ List.mem_cons_self List.mem_cons_self
  · rw [tags, journal_concat, journal_lateHistory]
    rfl

end Graph

end Isolation
