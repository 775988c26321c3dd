import Isolation.Proofs.Loader.Run

/-!
# Every class is defined once

Serial numbers tell class objects apart: no two loaders keep objects with one number, and a number
that has been given out is never given out again (`Isolation.State.Numbered`,
`Isolation.State.Retired`). So over a whole run two answers hand out the same object exactly when
they have the same defining loader and the same name, and that loader has not been made to forget
its classes in between; and a lookup leaves everything else alone (`Isolation.Graph.defines_once`).
-/

namespace Isolation

namespace State

/-- Whether serial numbers tell the classes of a state apart, and all have been given out. -/
structure Numbered (state : State) : Prop where
  below : ∀ {id name object}, state.defined? id name = some object →
    object.serial < state.nextSerial
  apart : ∀ {id name object other nameOther objectOther},
    state.defined? id name = some object → state.defined? other nameOther = some objectOther →
      object.serial = objectOther.serial → id = other ∧ name = nameOther

/-- Whether a serial number was given out to a class that no loader keeps. -/
structure Retired (serial : Nat) (state : State) : Prop where
  below : serial < state.nextSerial
  absent : ∀ {id name object}, state.defined? id name = some object → object.serial ≠ serial

private theorem numbered_initial : Numbered {} :=
  ⟨fun kept => (nomatch kept), fun kept => nomatch kept⟩

/-- A loader that keeps an object and then forgets its classes retires the number of the object. -/
theorem Forgets.retired {id : LoaderId} {before after : State} (forgets : Forgets id before after)
    (numbered : Numbered before) {name : String} {object : ClassObject}
    (kept : before.defined? id name = some object) : Retired object.serial after where
  below := by
    rw [forgets.serial]
    exact numbered.below kept
  absent := by
    intro other nameOther objectOther found same
    by_cases here : other = id
    · rw [here, forgets.gone nameOther] at found
      cases found
    · rw [forgets.others other here nameOther] at found
      exact here (numbered.apart found kept same).1

end State

namespace Graph

open State

variable {graph : Graph} {files : FileTree} {before after : State} {forgets : Option LoaderId}

/-- After a request every class that is kept was kept before, or is new: its number is the one that
was free, and its name was. -/
theorem Change.kept_or_new (change : graph.Change files before after forgets) {id : LoaderId}
    {name : String} {object : ClassObject} (found : after.defined? id name = some object) :
    before.defined? id name = some object ∨
      (object.serial = before.nextSerial ∧ before.defined? id name = none ∧
        after.nextSerial = before.nextSerial + 1 ∧
        ∀ other nameOther, (other, nameOther) ≠ (id, name) →
          after.defined? other nameOther = before.defined? other nameOther) := by
  cases change with
  | kept same => exact .inl ((same.defined id name).symm.trans found)
  | @grown own asked definition owned made absent grown =>
    obtain ⟨rfl, defined, -⟩ := Backing.define_eq_ok made
    rw [← defined] at absent
    subst grown
    rw [defined?_define before definition absent] at found
    by_cases here : id = definition.definer ∧ name = definition.name
    · rw [if_pos here] at found
      obtain rfl := Option.some.inj found
      obtain ⟨rfl, rfl⟩ := here
      refine .inr ⟨rfl, absent, rfl, fun other nameOther apart => ?_⟩
      have differs : ¬(other = definition.definer ∧ nameOther = definition.name) :=
        fun same => apart (Prod.ext same.1 same.2)
      rw [defined?_define before definition absent, if_neg differs]
    · rw [if_neg here] at found
      exact .inl found
  | @forgotten forgetful forgets =>
    by_cases here : id = forgetful
    · rw [here, forgets.gone name] at found
      cases found
    · rw [forgets.others id here name] at found
      exact .inl found

private theorem Change.nextSerial_le (change : graph.Change files before after forgets) :
    before.nextSerial ≤ after.nextSerial := by
  cases change with
  | kept same => exact Nat.le_of_eq same.serial.symm
  | grown owned made absent grown =>
    subst grown
    exact Nat.le_succ before.nextSerial
  | forgotten forgets => exact Nat.le_of_eq forgets.serial.symm

/-- A request keeps the classes of all loaders but the one that it makes forget. -/
theorem Change.retains (change : graph.Change files before after forgets) {id : LoaderId}
    {name : String} {object : ClassObject} (spared : forgets ≠ some id)
    (kept : before.defined? id name = some object) : after.defined? id name = some object := by
  cases change with
  | kept same => exact (same.defined id name).trans kept
  | @grown own asked definition owned made absent grown =>
    obtain ⟨rfl, defined, -⟩ := Backing.define_eq_ok made
    rw [← defined] at absent
    subst grown
    rw [defined?_define before definition absent, if_neg, kept]
    rintro ⟨rfl, rfl⟩
    rw [absent] at kept
    cases kept
  | @forgotten forgetful forgets =>
    have differs : id ≠ forgetful := fun same => spared (congrArg some same.symm)
    exact (forgets.others id differs name).trans kept

private theorem Change.numbered (change : graph.Change files before after forgets)
    (numbered : Numbered before) : Numbered after where
  below := by
    intro id name object found
    rcases change.kept_or_new found with kept | ⟨serial, -, grown, -⟩
    · exact Nat.lt_of_lt_of_le (numbered.below kept) change.nextSerial_le
    · omega
  apart := by
    intro id name object other nameOther objectOther found foundOther same
    by_cases here : (other, nameOther) = (id, name)
    · exact ⟨(congrArg Prod.fst here).symm, (congrArg Prod.snd here).symm⟩
    · rcases change.kept_or_new found with kept | ⟨serial, -, -, unchanged⟩
      · rcases change.kept_or_new foundOther with keptOther | ⟨serialOther, -, -, -⟩
        · exact numbered.apart kept keptOther same
        · have below := numbered.below kept
          omega
      · rw [unchanged other nameOther here] at foundOther
        have below := numbered.below foundOther
        omega

private theorem Change.retired (change : graph.Change files before after forgets) {serial : Nat}
    (retired : Retired serial before) : Retired serial after where
  below := Nat.lt_of_lt_of_le retired.below change.nextSerial_le
  absent := by
    intro id name object found
    rcases change.kept_or_new found with kept | ⟨new, -, -, -⟩
    · exact retired.absent kept
    · have below := retired.below
      omega

private theorem numbered_resume {state : State} (numbered : Numbered state)
    (history : List graph.Moment) :
    Numbered (graph.resume state history) := by
  induction history generalizing state with
  | nil => exact numbered
  | cons moment history ih => exact ih ((change_step moment.2).numbered numbered)

private theorem retired_resume {state : State} {serial : Nat} (retired : Retired serial state)
    (history : List graph.Moment) : Retired serial (graph.resume state history) := by
  induction history generalizing state with
  | nil => exact retired
  | cons moment history ih => exact ih ((change_step moment.2).retired retired)

/-- A class stays as long as its loader is not made to forget it. -/
theorem defined?_resume {state : State} {id : LoaderId} {name : String} {object : ClassObject}
    (kept : state.defined? id name = some object) (history : List graph.Moment)
    (spared : ∀ moment ∈ history, moment.2.forgets? ≠ some id) :
    (graph.resume state history).defined? id name = some object := by
  induction history generalizing state with
  | nil => exact kept
  | cons moment history ih =>
    refine ih ((change_step moment.2).retains (spared moment List.mem_cons_self) kept) ?_
    exact fun later member => spared later (List.mem_cons_of_mem moment member)

/-- Once its loader has been made to forget it, the number of a class is retired. -/
theorem retired_resume_of_forgets {state : State} (numbered : Numbered state) {id : LoaderId}
    {name : String} {object : ClassObject} (kept : state.defined? id name = some object)
    (history : List graph.Moment)
    (forgotten : ∃ moment ∈ history, moment.2.forgets? = some id) :
    Retired object.serial (graph.resume state history) := by
  induction history generalizing state with
  | nil =>
    obtain ⟨moment, member, -⟩ := forgotten
    exact absurd member List.not_mem_nil
  | cons moment history ih =>
    have change : graph.Change moment.1 state (graph.step moment.1 state moment.2).1
      moment.2.forgets? := change_step moment.2
    by_cases now : moment.2.forgets? = some id
    · rw [now] at change
      cases change with
      | forgotten forgets => exact retired_resume (forgets.retired numbered kept) history
    · refine ih (change.numbered numbered) (change.retains now kept) ?_
      obtain ⟨later, member, forgets⟩ := forgotten
      rcases List.mem_cons.mp member with rfl | inside
      · exact absurd forgets now
      · exact ⟨later, inside, forgets⟩

/-- A class that a lookup hands out is kept afterwards by its loader under its name. -/
theorem LookupEffect.defined?_object {seen : FileTree → Prop} {name : String}
    {object : ClassObject} (effect : graph.LookupEffect files name before after (.ok object))
    (faithful : graph.Faithful seen before) :
    object.definition.name = name ∧
      after.defined? object.definition.definer object.definition.name = some object := by
  cases effect with
  | known owned kept =>
    obtain ⟨defined, rfl⟩ := faithful.names kept
    rw [defined]
    exact ⟨rfl, kept⟩
  | fresh owned made absent =>
    obtain ⟨rfl, defined, -⟩ := Backing.define_eq_ok made
    rw [← defined] at absent
    exact ⟨rfl, by rw [defined?_define before _ absent, if_pos ⟨rfl, rfl⟩]⟩

/-- A lookup that hands out a class changes at most one cell, and in it only the class of one
name. -/
theorem LookupEffect.frame {name : String} {object : ClassObject}
    (effect : graph.LookupEffect files name before after (.ok object)) :
    (∀ id, (after.cell id).listeners = (before.cell id).listeners ∧
        (after.cell id).disposed = (before.cell id).disposed) ∧
      (∀ id, id ≠ object.definition.definer → after.cell id = before.cell id) ∧
      ∀ other, other ≠ object.definition.name →
        after.defined? object.definition.definer other =
          before.defined? object.definition.definer other := by
  cases effect with
  | known owned kept =>
    exact ⟨fun id => ⟨rfl, rfl⟩, fun id differs => rfl, fun other differs => rfl⟩
  | @fresh own definition owned made absent =>
    obtain ⟨rfl, defined, -⟩ := Backing.define_eq_ok made
    rw [← defined] at absent
    refine ⟨before.define_keeps definition, fun id => before.cell_define_of_ne definition, ?_⟩
    intro other differs
    rw [defined?_define before definition absent, if_neg fun same => differs same.2]

private theorem LookupEffect.eq_of_toOption_eq_none {name : String}
    {answer : Except LoadError ClassObject}
    (effect : graph.LookupEffect files name before after answer)
    (failed : answer.toOption = none) : after = before := by
  cases effect with
  | failed error => rfl
  | known owned kept => rfl
  | fresh owned made absent => cases failed

/-- A lookup that hands out no class changes nothing. -/
theorem step_eq_of_object?_eq_none (state : State) (loader : graph.Member) {action : Action}
    (lookup : action.isLookup = true)
    (withheld : (graph.step files state (.ask loader action)).2.object? = none) :
    (graph.step files state (.ask loader action)).1 = state := by
  cases asks : action.className? with
  | some name =>
    obtain ⟨answer, handsOut, effect⟩ :=
      @exists_lookupEffect graph files state name loader action asks
    exact effect.eq_of_toOption_eq_none (handsOut.symm.trans withheld)
  | none =>
    cases action with
    | loadClass name => cases asks
    | findOwnClass name => cases asks
    | listen listener => cases lookup
    | dispose => cases lookup
    | _ => rfl

/-- A lookup that finds the loader and the name of an object that is kept hands out that object. -/
theorem LookupEffect.eq_of_names {seen : FileTree → Prop} {name : String}
    {object other : ClassObject} (faithful : graph.Faithful seen before)
    (kept : before.defined? object.definition.definer object.definition.name = some object)
    (effect : graph.LookupEffect files name before after (.ok other))
    (sameDefiner : object.definition.definer = other.definition.definer)
    (sameName : object.definition.name = other.definition.name) : object = other := by
  rw [sameDefiner, sameName] at kept
  cases effect with
  | known owned keptOther =>
    obtain ⟨defined, named⟩ := faithful.names keptOther
    rw [defined, named, keptOther] at kept
    exact (Option.some.inj kept).symm
  | @fresh own definition owned made absent =>
    obtain ⟨rfl, defined, -⟩ := Backing.define_eq_ok made
    rw [defined, absent] at kept
    cases kept

/-- A lookup that hands out the number of an object that is kept finds its loader and its name. -/
theorem LookupEffect.names_eq_of_serial_eq {seen : FileTree → Prop} {name : String}
    {object other : ClassObject} (numbered : Numbered before)
    (faithful : graph.Faithful seen before)
    (kept : before.defined? object.definition.definer object.definition.name = some object)
    (effect : graph.LookupEffect files name before after (.ok other))
    (same : object.serial = other.serial) :
    object.definition.definer = other.definition.definer ∧
      object.definition.name = other.definition.name := by
  cases effect with
  | known owned keptOther =>
    obtain ⟨defined, named⟩ := faithful.names keptOther
    rw [← defined, ← named] at keptOther
    exact numbered.apart kept keptOther same
  | fresh owned made absent => exact absurd same (Nat.ne_of_lt (numbered.below kept))

/-- A lookup never hands out an object whose number is retired. -/
theorem LookupEffect.serial_ne {name : String} {other : ClassObject} {serial : Nat}
    (retired : Retired serial before)
    (effect : graph.LookupEffect files name before after (.ok other)) : serial ≠ other.serial := by
  cases effect with
  | known owned kept => exact (retired.absent kept).symm
  | fresh owned made absent => exact Nat.ne_of_lt retired.below

/-- Two answers of a run hand out the same object exactly when they have the same defining loader
and the same name, and nothing in between has made that loader forget its classes. -/
theorem serial_eq_iff (past between : List graph.Moment) (first second : graph.Moment)
    {object other : ClassObject} (handed : (graph.answer past first).object? = some object)
    (handedLater :
      (graph.answer (past ++ first :: between) second).object? = some other) :
    (object.serial = other.serial ↔
        object.definition.definer = other.definition.definer ∧
          object.definition.name = other.definition.name ∧
            ∀ moment ∈ between, moment.2.forgets? ≠ some object.definition.definer) ∧
      (object.serial = other.serial → object = other) := by
  obtain ⟨name, effect⟩ := exists_lookupEffect_of_object? handed
  obtain ⟨nameLater, effectLater⟩ := exists_lookupEffect_of_object? handedLater
  obtain ⟨-, kept⟩ := effect.defined?_object (graph.faithful_run past)
  have numbered : Numbered (graph.step first.1 (graph.run past) first.2).1 :=
    (change_step first.2).numbered (numbered_resume numbered_initial past)
  have faithful := graph.faithful_run (past ++ first :: between)
  rw [run_append_cons] at effectLater faithful
  by_cases forgotten : ∃ moment ∈ between, moment.2.forgets? = some object.definition.definer
  · have apart := effectLater.serial_ne
      (retired_resume_of_forgets numbered kept between forgotten)
    obtain ⟨moment, member, forgets⟩ := forgotten
    refine ⟨⟨fun same => absurd same apart, ?_⟩, fun same => absurd same apart⟩
    rintro ⟨-, -, spared⟩
    exact absurd forgets (spared moment member)
  · have spared : ∀ moment ∈ between, moment.2.forgets? ≠ some object.definition.definer :=
      fun moment member forgets => forgotten ⟨moment, member, forgets⟩
    have keptLater := defined?_resume kept between spared
    have numberedLater := numbered_resume numbered between
    refine ⟨⟨fun same => ?_, ?_⟩, fun same => ?_⟩
    · obtain ⟨sameDefiner, sameName⟩ :=
        effectLater.names_eq_of_serial_eq numberedLater faithful keptLater same
      exact ⟨sameDefiner, sameName, spared⟩
    · rintro ⟨sameDefiner, sameName, -⟩
      rw [effectLater.eq_of_names faithful keptLater sameDefiner sameName]
    · obtain ⟨sameDefiner, sameName⟩ :=
        effectLater.names_eq_of_serial_eq numberedLater faithful keptLater same
      exact effectLater.eq_of_names faithful keptLater sameDefiner sameName

/-- A lookup that hands out a class looks it up by its name. -/
theorem className?_eq_of_object? (history : List graph.Moment) (loader : graph.Member)
    {action : Action} {object : ClassObject}
    (handed : (graph.step files (graph.run history) (.ask loader action)).2.object? =
      some object) :
    action.className? = some object.definition.name ∧
      graph.LookupEffect files object.definition.name (graph.run history)
        (graph.step files (graph.run history) (.ask loader action)).1 (.ok object) := by
  cases asks : action.className? with
  | some name =>
    obtain ⟨answer, handsOut, effect⟩ :=
      @exists_lookupEffect graph files (graph.run history) name loader action asks
    rw [handsOut] at handed
    cases answer with
    | ok other =>
      obtain rfl := Option.some.inj handed
      obtain ⟨rfl, -⟩ := effect.defined?_object (graph.faithful_run history)
      exact ⟨rfl, effect⟩
    | error error => cases handed
  | none =>
    cases action with
    | loadClass name => cases asks
    | findOwnClass name => cases asks
    | _ => cases handed

/-- **Classes are defined once, and lookups leave everything else alone.** Over a whole run, two
answers hand out one object exactly when they have the same defining loader and name and that loader
was not made to forget its classes in between. A lookup that hands out no class changes nothing; one
that does changes at most what the defining loader keeps under the name of the class. -/
theorem defines_once (graph : Graph) :
    (∀ (past between : List graph.Moment) (first second : graph.Moment)
        (object other : ClassObject),
      (graph.answer past first).object? = some object →
        (graph.answer (past ++ first :: between) second).object? = some other →
          (object.serial = other.serial ↔
              object.definition.definer = other.definition.definer ∧
                object.definition.name = other.definition.name ∧
                  ∀ moment ∈ between, moment.2.forgets? ≠ some object.definition.definer) ∧
            (object.serial = other.serial → object = other)) ∧
      ∀ (history : List graph.Moment) (files : FileTree) (loader : graph.Member)
        (action : Action), action.isLookup = true →
          let before := graph.run history
          let (after, answer) := graph.step files before (.ask loader action)
          (answer.object? = none → after = before) ∧
            ∀ object, answer.object? = some object →
              action.className? = some object.definition.name ∧
                (∀ id, (after.cell id).listeners = (before.cell id).listeners ∧
                  (after.cell id).disposed = (before.cell id).disposed) ∧
                (∀ id, id ≠ object.definition.definer → after.cell id = before.cell id) ∧
                ∀ name, name ≠ object.definition.name →
                  after.defined? object.definition.definer name =
                    before.defined? object.definition.definer name := by
  constructor
  · intro past between first second object other handed handedLater
    exact serial_eq_iff past between first second handed handedLater
  · intro history files loader action lookup
    refine ⟨step_eq_of_object?_eq_none (graph.run history) loader lookup, ?_⟩
    intro object handed
    obtain ⟨named, effect⟩ := className?_eq_of_object? history loader handed
    exact ⟨named, effect.frame⟩

/-- A loader that has one class, in a table. -/
def oneClass : Backing where
  id := ⟨0⟩
  artifact := "app"
  identity := ⟨"app", none⟩
  rules := {}
  source := .ofTables
    [("a.C", ⟨⟨{ scheme := "mem".toList, path := .plain ['C'] }⟩, ClassFile.magic⟩)] []

/-- What lets the package of that class through. -/
def onePackage : Wrapper where
  id := ⟨1⟩
  exports := .ofLists ["a"] []
  services := {}
  verbosity := ⟨false⟩

/-- The loader of one class, with a wrapper in front of it. -/
def oneClassWrapped : Graph :=
  wrapped onePackage oneClass (by decide)

/-- A class that was loaded through a wrapper is the object that its loader hands out after the
wrapper has been disposed, and a lookup of another class leaves the loaders as they are. -/
theorem oneClassWrapped_defines_once :
    let front : oneClassWrapped.Member := ⟨_, List.mem_cons_self⟩
    let behind : oneClassWrapped.Member := ⟨_, List.mem_cons_of_mem _ List.mem_cons_self⟩
    let load : oneClassWrapped.Moment := (.empty, .ask front (.loadClass "a.C"))
    let dispose : oneClassWrapped.Moment := (.empty, .ask front .dispose)
    let find : oneClassWrapped.Moment := (.empty, .ask behind (.findOwnClass "a.C"))
    let failing : oneClassWrapped.Request := .ask front (.loadClass "a.D")
    (∃ object, (oneClassWrapped.answer [] load).object? = some object ∧
        (oneClassWrapped.answer [load, dispose] find).object? = some object) ∧
      (oneClassWrapped.step .empty (oneClassWrapped.run [load]) failing).1 =
        oneClassWrapped.run [load] := by
  intro front behind load dispose find failing
  have once := oneClassWrapped.defines_once
  constructor
  · obtain ⟨object, handed⟩ : ∃ object, (oneClassWrapped.answer [] load).object? = some object :=
      ⟨_, rfl⟩
    obtain ⟨other, handedLater⟩ :
        ∃ other, (oneClassWrapped.answer [load, dispose] find).object? = some other := ⟨_, rfl⟩
    have compared := once.1 [] [dispose] load find object other handed handedLater
    have same : object.serial = other.serial := by
      obtain rfl := Option.some.inj handed
      obtain rfl := Option.some.inj handedLater
      rfl
    obtain rfl := compared.2 same
    exact ⟨object, handed, handedLater⟩
  · exact (once.2 [load] .empty front (.loadClass "a.D") rfl).1 rfl

end Graph

end Isolation
