import Isolation.Proofs.Loader.Mirror

/-!
# Runs of loaders that mirror each other

Two loaders that agree, with the same parent, resolve a name to one class, each in its own number
(`Isolation.Loader.resolveClass_under`). So one operation keeps their states mirrored and is
answered alike (`Isolation.Loader.serve_mirrored`), and by induction so is every sequence of
operations (`Isolation.Loader.answers_mirrored`).
-/

namespace Isolation

variable {files : FileTree} {left right : State} {name : String}

private theorem firstAnswer_map {α β : Type} (change : α → β) (name artifact : String)
    (first second : Reported (Except LoadError α)) :
    firstAnswer name artifact (first.map (·.map change)) (second.map (·.map change)) =
      (firstAnswer name artifact first second).map (·.map change) := by
  unfold firstAnswer
  have sameMiss : misses (first.map (·.map change)).answer = misses first.answer :=
    misses_map change first.answer
  rw [sameMiss]
  split
  · exact congrArg (Reported.mk · _) (map_renameMiss change name artifact second.answer).symm
  · rfl

namespace Backing

variable {first second : LoaderId}

/-- What a loader is ready to define, it defines itself. -/
theorem definer_of_resolve {own : Backing} {state : State} {definition : Definition}
    (resolved : own.resolve files state name = .ok (.fresh definition)) :
    definition.definer = own.id := by
  unfold resolve at resolved
  cases kept : state.defined? own.id name with
  | some object =>
    rw [kept] at resolved
    cases resolved
  | none =>
    rw [kept] at resolved
    obtain ⟨other, made, same⟩ := exists_of_map_eq_ok resolved
    cases same
    exact (define_eq_ok made).2.1

/-- A loader that is neither of the two resolves a name to the same class in both states. -/
theorem resolve_elsewhere (mirrors : State.MirrorsClasses first second left right)
    {own : Backing} (notFirst : own.id ≠ first) (notSecond : own.id ≠ second) :
    own.resolve files right name =
      (own.resolve files left name).map (Resolution.renumber first second) := by
  unfold resolve
  rw [mirrors.others own.id notFirst notSecond]
  cases kept : left.defined? own.id name with
  | some object =>
    have foreign := mirrors.foreign own.id notFirst notSecond name object kept
    simp only [Except.map, Resolution.renumber, ClassObject.renumber_of_ne foreign second]
  | none =>
    cases made : own.define files name with
    | error error => rfl
    | ok definition =>
      have foreign : definition.definer ≠ first := (define_eq_ok made).2.1 ▸ notFirst
      simp only [Except.map, Resolution.renumber, Definition.renumber_of_ne foreign second]

/-- Two loaders that agree resolve a name to one class, each in its own number. -/
theorem Agrees.resolve {own other : Backing} (agrees : own.Agrees other files)
    (mirrors : State.MirrorsClasses own.id other.id left right) (slashless : '/' ∉ name.toList) :
    other.resolve files right name =
      (own.resolve files left name).map (Resolution.renumber own.id other.id) := by
  unfold Backing.resolve
  rw [mirrors.own]
  cases left.defined? own.id name with
  | some object => rfl
  | none =>
    simp only [Option.map_none]
    unfold define
    rw [agrees.artifact, agrees.source.classes name own.artifact slashless]
    cases own.source.findClass files name own.artifact with
    | error error => rfl
    | ok record =>
      simp only [Except.map, Resolution.renumber, Definition.renumber, LoaderId.renumber_self]

end Backing

namespace Loader

/-- What becomes of both answers becomes of the one that counts. -/
theorem resolveClass_child {own other : Backing} {parent : Loader}
    (rules : other.rules = own.rules) (artifact : other.artifact = own.artifact)
    {change : Resolution → Resolution}
    (here : other.resolve files right name = (own.resolve files left name).map change)
    (above : parent.resolveClass files right name =
      (parent.resolveClass files left name).map (·.map change)) :
    (child other parent).resolveClass files right name =
      ((child own parent).resolveClass files left name).map (·.map change) := by
  have answered : (⟨other.resolve files right name, []⟩ : Reported (Except LoadError Resolution)) =
      Reported.map (·.map change) ⟨own.resolve files left name, []⟩ :=
    congrArg (Reported.mk · []) here
  unfold resolveClass
  rw [rules, artifact]
  cases own.rules.orderFor name with
  | childOnly => exact answered
  | parentFirst =>
    simp only
    rw [above, answered, firstAnswer_map]
  | childFirst =>
    simp only
    rw [above, answered, firstAnswer_map]

/-- Loaders that are neither of the two resolve a name to the same class in both states. -/
theorem resolveClass_elsewhere {first second : LoaderId}
    (mirrors : State.MirrorsClasses first second left right) {loader : Loader}
    (apart : ∀ owner ∈ loader.owners, owner.id ≠ first ∧ owner.id ≠ second) :
    loader.resolveClass files right name =
      (loader.resolveClass files left name).map (·.map (Resolution.renumber first second)) := by
  induction loader with
  | root own =>
    obtain ⟨notFirst, notSecond⟩ := apart own (List.mem_singleton_self own)
    exact congrArg (Reported.mk · []) (Backing.resolve_elsewhere mirrors notFirst notSecond)
  | child own parent ih =>
    obtain ⟨notFirst, notSecond⟩ := apart own List.mem_cons_self
    apply resolveClass_child rfl rfl
    · exact Backing.resolve_elsewhere mirrors notFirst notSecond
    · exact ih fun owner above => apart owner (List.mem_cons_of_mem own above)
  | filtering wrapper inner ih =>
    unfold resolveClass
    split
    · rw [ih apart]
      rfl
    · rfl
  | failing loader => rfl

section Under

variable {own other : Backing} {parent : Option Loader}

/-- A loader has the number of what defines its classes, with a parent and without. -/
@[simp] theorem id_under (own : Backing) (parent : Option Loader) :
    (own.under parent).id = own.id := by
  cases parent <;> rfl

@[simp] private theorem artifact_under (own : Backing) (parent : Option Loader) :
    (own.under parent).artifact = own.artifact := by
  cases parent <;> rfl

@[simp] private theorem own?_under (own : Backing) (parent : Option Loader) :
    (own.under parent).own? = some own := by
  cases parent <;> rfl

/-- Two loaders that agree resolve a name to one class, each in its own number. -/
theorem resolveClass_under (agrees : own.Agrees other files)
    (apart : ∀ above ∈ parent, ∀ owner ∈ above.owners, owner.id ≠ own.id ∧ owner.id ≠ other.id)
    (mirrors : State.MirrorsClasses own.id other.id left right) (slashless : '/' ∉ name.toList) :
    (other.under parent).resolveClass files right name =
      ((own.under parent).resolveClass files left name).map
        (·.map (Resolution.renumber own.id other.id)) := by
  have here := @Backing.Agrees.resolve files left right name own other agrees mirrors slashless
  cases parent with
  | none => exact congrArg (Reported.mk · []) here
  | some parent =>
    exact resolveClass_child agrees.rules agrees.artifact here
      (resolveClass_elsewhere mirrors (apart parent rfl))

/-- What a loader is ready to define is a class of its own or of a loader above it. -/
theorem definer_of_resolveClass
    (apart : ∀ above ∈ parent, ∀ owner ∈ above.owners, owner.id ≠ own.id ∧ owner.id ≠ other.id)
    {definition : Definition}
    (resolved : ((own.under parent).resolveClass files left name).answer =
      .ok (.fresh definition)) :
    definition.definer = own.id ∨
      definition.definer ≠ own.id ∧ definition.definer ≠ other.id := by
  obtain ⟨owner, among, resolves⟩ := exists_owner_of_resolveClass resolved
  rw [Backing.definer_of_resolve resolves]
  cases parent with
  | none =>
    rw [List.mem_singleton.mp among]
    exact .inl rfl
  | some parent =>
    rcases List.mem_cons.mp among with rfl | above
    · exact .inl rfl
    · exact .inr (apart parent rfl owner above)

/-- Settling keeps two states mirrored, for it touches no listener. -/
theorem mirrors_settleAnswer {first second : Loader}
    (mirrors : State.Mirrors first second left right) {answer : Except LoadError Resolution}
    (apart : ∀ definition, answer = .ok (.fresh definition) → definition.definer = first.id ∨
      definition.definer ≠ first.id ∧ definition.definer ≠ second.id) :
    State.Mirrors first second (left.settleAnswer answer).1
        (right.settleAnswer (answer.map (Resolution.renumber first.id second.id))).1 ∧
      (right.settleAnswer (answer.map (Resolution.renumber first.id second.id))).2 =
        (left.settleAnswer answer).2.map (ClassObject.renumber first.id second.id) := by
  obtain ⟨classes, same⟩ := mirrors.classes.settleAnswer apart
  refine ⟨⟨classes, ?_⟩, same⟩
  exact mirrors.listeners.keep (State.settleAnswer_keeps left answer)
    (State.settleAnswer_keeps right _)

section Serve

variable (agrees : own.Agrees other files)
  (apart : ∀ above ∈ parent, ∀ owner ∈ above.owners, owner.id ≠ own.id ∧ owner.id ≠ other.id)
  (mirrors : State.Mirrors (own.under parent) (other.under parent) left right)

include agrees apart mirrors

private theorem loadClass_mirrored (slashless : '/' ∉ name.toList) :
    State.Mirrors (own.under parent) (other.under parent)
        ((own.under parent).loadClass files left name).1
        ((other.under parent).loadClass files right name).1 ∧
      ((other.under parent).loadClass files right name).2 =
        ((own.under parent).loadClass files left name).2.map
          (·.map (ClassObject.renumber own.id other.id)) := by
  have classes := mirrors.classes
  rw [id_under, id_under] at classes
  have definer := fun definition resolved => @definer_of_resolveClass files left name own other
    parent apart definition resolved
  have settled := @mirrors_settleAnswer left right _ _ mirrors
    ((own.under parent).resolveClass files left name).answer
  rw [id_under, id_under] at settled
  obtain ⟨after, same⟩ := settled definer
  rw [loadClass_eq_settled, loadClass_eq_settled, resolveClass_under agrees apart classes slashless]
  exact ⟨after, congrArg (Reported.mk · _) same⟩

omit apart in
private theorem findOwnClass_mirrored (slashless : '/' ∉ name.toList) :
    State.Mirrors (own.under parent) (other.under parent)
        ((own.under parent).findOwnClass files left name).1
        ((other.under parent).findOwnClass files right name).1 ∧
      ((other.under parent).findOwnClass files right name).2 =
        ((own.under parent).findOwnClass files left name).2.map
          (ClassObject.renumber own.id other.id) := by
  have classes := mirrors.classes
  rw [id_under, id_under] at classes
  have resolveOwn : ∀ (loader : Backing) (state : State),
      (loader.under parent).resolveOwnClass files state name = loader.resolve files state name := by
    intro loader state
    cases parent <;> rfl
  have settled := @mirrors_settleAnswer left right _ _ mirrors (own.resolve files left name)
  rw [id_under, id_under] at settled
  rw [findOwnClass_eq_settleAnswer, findOwnClass_eq_settleAnswer, resolveOwn, resolveOwn,
    agrees.resolve classes slashless]
  exact settled fun definition resolved => .inl (Backing.definer_of_resolve resolved)

omit apart mirrors in
/-- Resources do not depend on which of the two loaders is asked. -/
theorem resources_mirrored (name : String) :
    (other.under parent).getResource? files name = (own.under parent).getResource? files name ∧
      (other.under parent).getResources files name = (own.under parent).getResources files name ∧
      (other.under parent).findResource? files name = (own.under parent).findResource? files name ∧
      (other.under parent).findResources files name =
        (own.under parent).findResources files name := by
  have first := agrees.source.first name
  have all := agrees.source.all name
  cases parent with
  | none =>
    simp only [Backing.under, getResource?, getResources, findResource?, findResources, first, all,
      and_self]
  | some parent =>
    simp only [Backing.under, getResource?, getResources, findResource?, findResources, first, all,
      and_self]

/-- **One operation keeps two loaders from being told apart.** -/
theorem serve_mirrored {operation otherOperation : Operation}
    (mirrored : Operation.Mirrors (own.under parent) (other.under parent) operation
      otherOperation) :
    State.Mirrors (own.under parent) (other.under parent)
        ((own.under parent).serve files left operation).1
        ((other.under parent).serve files right otherOperation).1 ∧
      ((other.under parent).serve files right otherOperation).2 =
        ((own.under parent).serve files left operation).2.renumber own.id other.id := by
  cases mirrored with
  | @loadClass name slashless =>
    obtain ⟨after, same⟩ :=
      @loadClass_mirrored files left right name own other parent agrees apart mirrors slashless
    exact ⟨after, congrArg Answer.loaded same⟩
  | @findOwnClass name slashless =>
    obtain ⟨after, same⟩ :=
      @findOwnClass_mirrored files left right name own other parent agrees mirrors slashless
    exact ⟨after, congrArg Answer.foundClass same⟩
  | getResource name =>
    exact ⟨mirrors, congrArg Answer.resource (resources_mirrored agrees name).1⟩
  | getResources name =>
    exact ⟨mirrors, congrArg Answer.resources (resources_mirrored agrees name).2.1⟩
  | findResource name =>
    obtain ⟨-, -, same, -⟩ := @resources_mirrored files own other parent agrees name
    exact ⟨mirrors, congrArg (fun locator => Answer.resource ⟨locator, []⟩) same⟩
  | findResources name =>
    obtain ⟨-, -, -, same⟩ := @resources_mirrored files own other parent agrees name
    exact ⟨mirrors, congrArg (fun locators => Answer.resources ⟨locators, []⟩) same⟩
  | findLocalResource name =>
    obtain ⟨-, -, same, -⟩ := @resources_mirrored files own other parent agrees name
    rw [← findLocalResource?_eq, ← findLocalResource?_eq] at same
    exact ⟨mirrors, congrArg (fun locator => Answer.resource ⟨locator, []⟩) same⟩
  | @listen listener otherListener listens =>
    have here := addListener_of_own? (own?_under own parent) left listener
    have there := addListener_of_own? (own?_under other parent) right otherListener
    unfold serve perform
    simp only [here, there]
    refine ⟨⟨?_, mirrors.listeners.listen listens⟩, rfl⟩
    exact mirrors.classes.same (left.sameClasses_listen _ listener)
      (right.sameClasses_listen _ otherListener)
  | dispose =>
    have defines : ∀ loader : Backing, (loader.under parent).own?.isSome = true := by
      intro loader
      rw [own?_under]
      rfl
    have same : (other.under parent).artifact = (own.under parent).artifact := by
      rw [artifact_under, artifact_under, agrees.artifact]
    obtain ⟨after, tags, events⟩ := mirrors.dispose (defines own) (defines other) same
    exact ⟨after, congrArg₂ Answer.disposed tags events⟩

omit agrees in
/-- **No sequence of operations tells two loaders apart** that agree each time. -/
theorem answers_mirrored {history otherHistory : List (FileTree × Operation)}
    (agree : ∀ moment ∈ history, own.Agrees other moment.1)
    (mirrored : List.Forall₂
      (fun moment otherMoment => otherMoment.1 = moment.1 ∧
        Operation.Mirrors (own.under parent) (other.under parent) moment.2 otherMoment.2)
      history otherHistory) :
    (other.under parent).answers right otherHistory =
      ((own.under parent).answers left history).map (Answer.renumber own.id other.id) := by
  induction mirrored generalizing left right with
  | nil => rfl
  | @cons moment otherMoment history otherHistory first later ih =>
    obtain ⟨files, operation⟩ := moment
    obtain ⟨otherFiles, otherOperation⟩ := otherMoment
    obtain ⟨rfl, asked⟩ := first
    obtain ⟨after, same⟩ := @serve_mirrored otherFiles left right own other parent
      (agree _ List.mem_cons_self) apart mirrors operation otherOperation asked
    have onward := ih after fun moment member => agree moment (List.mem_cons_of_mem _ member)
    exact congrArg₂ List.cons same onward

end Serve

end Under

end Loader

end Isolation
