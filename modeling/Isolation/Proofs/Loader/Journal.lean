import Isolation.Loader.Lifecycle
import Mathlib.Data.List.Basic
import Mathlib.Data.Nat.Find

/-!
# Journals of listeners

A journal lists the calls that decide which listeners run: registrations, and disposals of wrappers
and of loaders that keep listeners. From the calls alone it can be told which registrations take
effect (`Isolation.Journal.accepted?`), which of them wait (`Isolation.Journal.waiting`) and which
are run by a call (`Isolation.Journal.runBy`). Every registration that takes effect is run by the
first disposal of its loader that comes after it, and by no other call
(`Isolation.Journal.mem_runBy_iff`, `Isolation.Journal.existsUnique_runBy`).
-/

namespace Isolation

/-- A call that decides which listeners run: a listener is registered through a loader, a wrapper is
disposed, or a loader that keeps listeners is. -/
inductive Call where
  | register (through : Loader) (listener : Listener)
  | close (wrapper : LoaderId)
  | drain (keeper : LoaderId)

namespace Call

/-- The wrapper that a call disposes. -/
def closes? : Call → Option LoaderId
  | close wrapper => some wrapper
  | _ => none

/-- The loader whose listeners a call runs. -/
def drains? : Call → Option LoaderId
  | drain keeper => some keeper
  | _ => none

private theorem drains?_eq_some_iff {call : Call} {keeper : LoaderId} :
    call.drains? = some keeper ↔ call = .drain keeper := by
  cases call <;> simp [drains?]

end Call

/-- What a listener calls when it runs: it may register a successor. -/
def Listener.successor? : Listener → Option Call
  | plain _ => none
  | renewing tag through => some (.register through (.plain (tag ++ "+")))

namespace Loader

/-- The wrappers on the way to the loader that keeps the listeners. -/
def wrapperIds : Loader → List LoaderId
  | root _ => []
  | child _ _ => []
  | filtering wrapper inner => wrapper.id :: inner.wrapperIds
  | failing _ => []

/-- The loader that keeps the listeners. -/
def keeper? (loader : Loader) : Option LoaderId :=
  loader.backing?.map (·.id)

end Loader

/-- Calls in the order in which they were made. -/
abbrev Journal := List Call

namespace Journal

/-- The wrappers that have been disposed. -/
def closed (journal : Journal) : List LoaderId :=
  journal.filterMap Call.closes?

/-- The loaders whose listeners have run. -/
def drained (journal : Journal) : List LoaderId :=
  journal.filterMap Call.drains?

variable (journal : Journal) (keeper : LoaderId)

/-- The listener that the call at a position registers with `keeper`, provided that no wrapper on
the way was disposed before. -/
def accepted? (position : Nat) : Option Listener :=
  match journal[position]? with
  | some (.register through listener) =>
    if through.keeper? = some keeper ∧
        ∀ wrapper ∈ through.wrapperIds, wrapper ∉ closed (journal.take position) then
      some listener
    else none
  | _ => none

/-- The registrations that have taken effect since `keeper` was last disposed, with their positions,
in order. -/
def waiting : List (Nat × Listener) :=
  (List.range journal.length).filterMap fun position =>
    if keeper ∈ drained (journal.drop (position + 1)) then none
    else (journal.accepted? keeper position).map (position, ·)

/-- The registrations that the call at a position runs. -/
def runBy (position : Nat) : List (Nat × Listener) :=
  match journal[position]? with
  | some (.drain keeper) => waiting (journal.take position) keeper
  | _ => []

/-- The registrations that the calls from a position on run. -/
def ranFrom (start : Nat) : List (Nat × Listener) :=
  (List.range' start (journal.length - start)).flatMap journal.runBy

/-- Whether the call at `position` is the first after `earlier` that runs the listeners of
`keeper`. -/
def FirstDrain (earlier position : Nat) : Prop :=
  earlier < position ∧ journal[position]? = some (.drain keeper) ∧
    ∀ between, earlier < between → between < position →
      journal[between]? ≠ some (.drain keeper)

variable {journal keeper} {position : Nat} {listener : Listener}

/-- A listener is accepted at a position if it is registered there and no wrapper on its way has
been closed before. -/
theorem accepted?_eq_some_iff :
    journal.accepted? keeper position = some listener ↔
      ∃ through, journal[position]? = some (.register through listener) ∧
        through.keeper? = some keeper ∧
          ∀ wrapper ∈ through.wrapperIds, wrapper ∉ closed (journal.take position) := by
  unfold accepted?
  constructor
  · intro accepted
    split at accepted
    · rename_i through registered found
      split at accepted
      · rename_i effective
        rw [← Option.some.inj accepted]
        exact ⟨through, found, effective⟩
      · cases accepted
    · cases accepted
  · rintro ⟨through, found, effective⟩
    simp only [found, if_pos effective]

private theorem lt_length_of_accepted?
    (accepted : journal.accepted? keeper position = some listener) :
    position < journal.length := by
  obtain ⟨through, found, -⟩ := accepted?_eq_some_iff.mp accepted
  exact (List.getElem?_eq_some_iff.mp found).1

/-- A registration is made with one loader. -/
theorem eq_of_accepted? {other : LoaderId}
    (accepted : journal.accepted? keeper position = some listener)
    (acceptedToo : journal.accepted? other position = some listener) : keeper = other := by
  obtain ⟨through, found, kept, -⟩ := accepted?_eq_some_iff.mp accepted
  obtain ⟨throughToo, foundToo, keptToo, -⟩ := accepted?_eq_some_iff.mp acceptedToo
  obtain ⟨rfl, -⟩ := Call.register.inj (Option.some.inj (found.symm.trans foundToo))
  exact Option.some.inj (kept.symm.trans keptToo)

/-- Whether a registration takes effect is decided by the calls before it. -/
theorem accepted?_append {journal : Journal} (more : Journal) (keeper : LoaderId)
    (inside : position < journal.length) :
    accepted? (journal ++ more) keeper position = accepted? journal keeper position := by
  unfold accepted?
  rw [List.getElem?_append_left inside, List.take_append_of_le_length (Nat.le_of_lt inside)]

private theorem accepted?_take {call : Nat} (before : position < call) (keeper : LoaderId) :
    accepted? (journal.take call) keeper position = accepted? journal keeper position := by
  unfold accepted?
  rw [List.getElem?_take_of_lt before, List.take_take, Nat.min_eq_left (Nat.le_of_lt before)]

private theorem mem_drained_iff {journal : Journal} :
    keeper ∈ journal.drained ↔ Call.drain keeper ∈ journal := by
  simp [drained, List.mem_filterMap, Call.drains?_eq_some_iff]

private theorem mem_waiting_iff :
    (position, listener) ∈ journal.waiting keeper ↔
      journal.accepted? keeper position = some listener ∧
        keeper ∉ drained (journal.drop (position + 1)) := by
  unfold waiting
  rw [List.mem_filterMap]
  constructor
  · rintro ⟨other, -, found⟩
    split at found
    · cases found
    · rename_i spared
      obtain ⟨value, accepted, same⟩ := Option.map_eq_some_iff.mp found
      obtain ⟨rfl, rfl⟩ := Prod.mk.inj same
      exact ⟨accepted, spared⟩
  · rintro ⟨accepted, spared⟩
    refine ⟨position, List.mem_range.mpr (lt_length_of_accepted? accepted), ?_⟩
    rw [if_neg spared, accepted, Option.map_some]

/-- The registrations that wait stand in order. -/
theorem pairwise_waiting (journal : Journal) (keeper : LoaderId) :
    (journal.waiting keeper).Pairwise fun earlier later => earlier.1 < later.1 := by
  apply List.Pairwise.filterMap _ _ List.pairwise_lt_range
  intro first second before left foundLeft right foundRight
  have positions : ∀ {position : Nat} {found : Nat × Listener},
      (if keeper ∈ drained (journal.drop (position + 1)) then none
        else (journal.accepted? keeper position).map (position, ·)) = some found →
      found.1 = position := by
    intro position found taken
    split at taken
    · cases taken
    · obtain ⟨value, -, rfl⟩ := Option.map_eq_some_iff.mp taken
      rfl
  rw [positions foundLeft, positions foundRight]
  exact before

/-- One more call closes at most one more wrapper. -/
theorem closed_concat (journal : Journal) (call : Call) :
    closed (journal ++ [call]) = journal.closed ++ call.closes?.toList := by
  cases call <;> simp [closed, Call.closes?]

/-- What one more call changes: a disposal leaves nothing waiting, and a registration that takes
effect waits behind all others. -/
theorem waiting_concat (journal : Journal) (keeper : LoaderId) (call : Call) :
    waiting (journal ++ [call]) keeper =
      (if call.drains? = some keeper then [] else journal.waiting keeper) ++
        ((accepted? (journal ++ [call]) keeper journal.length).map (journal.length, ·)).toList := by
  have earlier : (List.range journal.length).filterMap (fun position =>
        if keeper ∈ drained ((journal ++ [call]).drop (position + 1)) then none
        else (accepted? (journal ++ [call]) keeper position).map (position, ·)) =
      if call.drains? = some keeper then [] else journal.waiting keeper := by
    by_cases drains : call.drains? = some keeper
    · rw [if_pos drains, List.filterMap_eq_nil_iff]
      intro position member
      have inside := List.mem_range.mp member
      rw [if_pos]
      rw [mem_drained_iff, List.drop_append_of_le_length inside, Call.drains?_eq_some_iff.mp drains]
      simp
    · rw [if_neg drains, waiting]
      apply List.filterMap_congr
      intro position member
      have inside := List.mem_range.mp member
      have same : keeper ∈ drained ((journal ++ [call]).drop (position + 1)) ↔
          keeper ∈ drained (journal.drop (position + 1)) := by
        rw [List.drop_append_of_le_length inside, drained, drained, List.filterMap_append,
          List.mem_append]
        simp [drains]
      rw [accepted?_append [call] keeper inside]
      simp only [same]
  have last : drained ((journal ++ [call]).drop (journal.length + 1)) = [] := by
    rw [List.drop_eq_nil_of_le (by simp)]
    rfl
  rw [waiting, List.length_append, List.length_singleton, List.range_succ, List.filterMap_append,
    earlier]
  simp only [List.filterMap_cons, List.filterMap_nil, last, List.not_mem_nil, if_false]
  cases accepted? (journal ++ [call]) keeper journal.length <;> rfl

/-- After a registration one more listener waits, if it is accepted and meant for the loader. -/
theorem waiting_register (journal : Journal) (keeper : LoaderId) (through : Loader)
    (listener : Listener) :
    waiting (journal ++ [.register through listener]) keeper =
      journal.waiting keeper ++
        if through.keeper? = some keeper ∧ ∀ wrapper ∈ through.wrapperIds, wrapper ∉ journal.closed
        then [(journal.length, listener)] else [] := by
  rw [waiting_concat, accepted?, List.getElem?_concat_length, List.take_left' rfl]
  simp only [Call.drains?, reduceCtorEq, if_false]
  split <;> rfl

/-- Closing a wrapper leaves all listeners waiting. -/
theorem waiting_close (journal : Journal) (keeper wrapper : LoaderId) :
    waiting (journal ++ [.close wrapper]) keeper = journal.waiting keeper := by
  rw [waiting_concat, accepted?, List.getElem?_concat_length]
  simp [Call.drains?]

/-- After a loader is drained none of its listeners waits, and those of the others still wait. -/
theorem waiting_drain (journal : Journal) (keeper drained : LoaderId) :
    waiting (journal ++ [.drain drained]) keeper =
      if drained = keeper then [] else journal.waiting keeper := by
  rw [waiting_concat, accepted?, List.getElem?_concat_length]
  simp [Call.drains?]

section Runs

variable {call : Nat}

private theorem runBy_eq (drains : journal[call]? = some (.drain keeper)) :
    journal.runBy call = waiting (journal.take call) keeper := by
  rw [runBy, drains]

/-- A call that is no disposal of a loader runs nothing. -/
theorem runBy_eq_nil (spares : ∀ keeper, journal[call]? ≠ some (.drain keeper)) :
    journal.runBy call = [] := by
  unfold runBy
  split
  · rename_i keeper drains
    exact absurd drains (spares keeper)
  · rfl

/-- What a call runs is decided by the calls before it. -/
theorem runBy_append {journal : Journal} (more : Journal) (inside : call < journal.length) :
    runBy (journal ++ more) call = journal.runBy call := by
  unfold runBy
  rw [List.getElem?_append_left inside, List.take_append_of_le_length (Nat.le_of_lt inside)]

/-- Nothing has run since the end of the journal. -/
theorem ranFrom_self (journal : Journal) : journal.ranFrom journal.length = [] := by
  rw [ranFrom, Nat.sub_self]
  rfl

private theorem ranFrom_concat {journal : Journal} {start : Nat} (before : start ≤ journal.length)
    (call : Call) :
    ranFrom (journal ++ [call]) start =
      journal.ranFrom start ++ runBy (journal ++ [call]) journal.length := by
  have count : journal.length + 1 - start = journal.length - start + 1 := by omega
  have last : start + (journal.length - start) = journal.length := by omega
  rw [ranFrom, ranFrom, List.length_append, List.length_singleton, count, List.range'_1_concat,
    List.flatMap_append, List.flatMap_singleton, last]
  congr 1
  apply List.flatMap_congr
  intro position member
  have inside := (List.mem_range'_1.mp member).2
  rw [last] at inside
  exact runBy_append [call] inside

/-- A call that drains no loader runs nothing. -/
theorem ranFrom_spare {journal : Journal} {start : Nat} (before : start ≤ journal.length)
    {call : Call} (spares : call.drains? = none) :
    ranFrom (journal ++ [call]) start = journal.ranFrom start := by
  rw [ranFrom_concat before, runBy_eq_nil, List.append_nil]
  intro keeper
  rw [List.getElem?_concat_length]
  rintro ⟨rfl⟩
  cases spares

/-- Calls that drain no loader run nothing. -/
theorem ranFrom_spares {journal : Journal} {start : Nat} (before : start ≤ journal.length)
    {calls : List Call} (spares : ∀ call ∈ calls, call.drains? = none) :
    ranFrom (journal ++ calls) start = journal.ranFrom start := by
  induction calls generalizing journal with
  | nil => rw [List.append_nil]
  | cons call calls ih =>
    have further : start ≤ (journal ++ [call]).length := by
      rw [List.length_append]
      exact Nat.le_add_right_of_le before
    rw [List.append_cons, ih further]
    · exact ranFrom_spare before (spares call List.mem_cons_self)
    · exact fun other member => spares other (List.mem_cons_of_mem call member)

/-- To drain a loader runs what waits for it, after all that has run before. -/
theorem ranFrom_drain {journal : Journal} {start : Nat} (before : start ≤ journal.length)
    (keeper : LoaderId) :
    ranFrom (journal ++ [.drain keeper]) start =
      journal.ranFrom start ++ journal.waiting keeper := by
  rw [ranFrom_concat before, runBy_eq (List.getElem?_concat_length ..), List.take_left' rfl]

/-- **What a call runs**: the registrations that took effect and whose loader it is the first to
dispose since. -/
theorem mem_runBy_iff :
    (position, listener) ∈ journal.runBy call ↔
      ∃ keeper, journal.accepted? keeper position = some listener ∧
        journal.FirstDrain keeper position call := by
  have between {keeper : LoaderId} : keeper ∉ drained ((journal.take call).drop (position + 1)) ↔
      ∀ other, position < other → other < call → journal[other]? ≠ some (.drain keeper) := by
    rw [mem_drained_iff, List.mem_iff_getElem?, not_exists]
    constructor
    · intro spared other later earlier found
      apply spared (other - (position + 1))
      rw [List.getElem?_drop, Nat.add_sub_cancel' later, List.getElem?_take_of_lt earlier]
      exact found
    · intro spared place found
      rw [List.getElem?_drop, List.getElem?_take] at found
      split at found
      · rename_i inside
        exact spared _ (by omega) inside found
      · cases found
  constructor
  · intro runs
    unfold runBy at runs
    split at runs
    · rename_i keeper drains
      obtain ⟨accepted, spared⟩ := mem_waiting_iff.mp runs
      have before : position < call := by
        have inside := lt_length_of_accepted? accepted
        rw [List.length_take] at inside
        omega
      rw [accepted?_take before] at accepted
      exact ⟨keeper, accepted, before, drains, between.mp spared⟩
    · cases runs
  · rintro ⟨keeper, accepted, before, drains, first⟩
    rw [runBy_eq drains, mem_waiting_iff, accepted?_take before]
    exact ⟨accepted, between.mpr first⟩

private theorem FirstDrain.unique {earlier other : Nat}
    (first : journal.FirstDrain keeper earlier call)
    (firstToo : journal.FirstDrain keeper earlier other) : call = other := by
  obtain ⟨after, drains, none⟩ := first
  obtain ⟨afterToo, drainsToo, noneToo⟩ := firstToo
  rcases Nat.lt_trichotomy call other with less | same | greater
  · exact absurd drains (noneToo call after less)
  · exact same
  · exact absurd drainsToo (none other afterToo greater)

private theorem exists_firstDrain {earlier : Nat}
    (drains : ∃ call, earlier < call ∧ journal[call]? = some (.drain keeper)) :
    ∃ call, journal.FirstDrain keeper earlier call := by
  classical
  obtain ⟨after, found⟩ := Nat.find_spec drains
  refine ⟨Nat.find drains, after, found, ?_⟩
  intro between later less again
  exact Nat.find_min drains less ⟨later, again⟩

/-- **Whatever takes effect is run by one call**, if its loader is disposed afterwards. -/
theorem existsUnique_runBy (accepted : journal.accepted? keeper position = some listener)
    (drains : ∃ call, position < call ∧ journal[call]? = some (.drain keeper)) :
    ∃! call, (position, listener) ∈ journal.runBy call := by
  obtain ⟨call, first⟩ := exists_firstDrain drains
  refine ⟨call, mem_runBy_iff.mpr ⟨keeper, accepted, first⟩, ?_⟩
  intro other runs
  obtain ⟨keeperToo, acceptedToo, firstToo⟩ := mem_runBy_iff.mp runs
  obtain rfl := eq_of_accepted? accepted acceptedToo
  exact firstToo.unique first

/-- A call runs listeners in the order in which they were registered. -/
theorem pairwise_runBy (journal : Journal) (call : Nat) :
    (journal.runBy call).Pairwise fun earlier later => earlier.1 < later.1 := by
  unfold runBy
  split
  · exact pairwise_waiting _ _
  · exact .nil

end Runs

end Journal

end Isolation
