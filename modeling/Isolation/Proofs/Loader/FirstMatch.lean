import Isolation.Proofs.Loader.Run
import Isolation.Proofs.Loader.Source

/-!
# Class lookups as a search along a list

However loaders are nested, a class lookup is a search along one list: the loaders that are asked,
in the order that search rules and wrappers give (`Isolation.Loader.askOrder`). The first of them
whose source has the class, or fails on it, decides; what has been defined, disposed or registered
before does not (`Isolation.Graph.loadClass_eq_firstHit`).
-/

namespace Isolation

namespace Loader

/-- The loaders that are asked for a class, in order, none of them a wrapper. A wrapper that does
not export the class asks nobody. -/
def askOrder : Loader → String → List Loader
  | root own, _ => [root own]
  | child own parent, name =>
    match own.rules.orderFor name with
    | .childOnly => [child own parent]
    | .parentFirst => parent.askOrder name ++ [child own parent]
    | .childFirst => child own parent :: parent.askOrder name
  | filtering wrapper inner, name =>
    if wrapper.exports.admitsClass name then inner.askOrder name else []
  | failing loader, _ => [failing loader]

/-- What a loader finds in its own source, whatever it has defined. -/
def findFresh (files : FileTree) : Loader → String → Except LoadError Definition
  | root own, name => own.define files name
  | child own _, name => own.define files name
  | filtering _ inner, name => inner.findFresh files name
  | failing loader, _ => .error (.file (.other loader.reason))

/-- What a loader answers when none of those that are asked has the class: a loader that defines
classes says so in the words of its own artifact, and so does a wrapper that does not export it. -/
def missError : Loader → String → LoadError
  | root own, name => .classNotFound name own.artifact
  | child own _, name => .classNotFound name own.artifact
  | filtering wrapper inner, name =>
    if wrapper.exports.admitsClass name then inner.missError name
    else .notExported name inner.artifact wrapper.exports
  | failing loader, name => .classNotFound name loader.artifact

private theorem isNotFound_missError (loader : Loader) (name : String) :
    (loader.missError name).isNotFound = true := by
  induction loader with
  | root own => rfl
  | child own parent => rfl
  | filtering wrapper inner ih =>
    unfold missError
    by_cases admitted : wrapper.exports.admitsClass name = true
    · rw [if_pos admitted]
      exact ih
    · rw [if_neg admitted]
      rfl
  | failing loader => rfl

end Loader

variable {α β : Type}

/-- The first answer that is not that nothing was found; a given failure if there is none. -/
def firstHit (missed : LoadError) (answers : List (Except LoadError α)) : Except LoadError α :=
  (answers.find? (!misses ·)).getD (.error missed)

private theorem firstHit_cons_of_misses {answer : Except LoadError α}
    (misses : misses answer = true) (missed : LoadError) (answers : List (Except LoadError α)) :
    firstHit missed (answer :: answers) = firstHit missed answers := by
  unfold firstHit
  rw [List.find?_cons_of_neg (by simp [misses])]

private theorem firstHit_cons_of_not_misses {answer : Except LoadError α}
    (hit : ¬ misses answer = true) (missed : LoadError) (answers : List (Except LoadError α)) :
    firstHit missed (answer :: answers) = answer := by
  unfold firstHit
  rw [List.find?_cons_of_pos (by simp [hit])]
  rfl

/-- A search along two lists goes on to the second when the first has no answer. -/
theorem firstHit_append {first missed : LoadError} (notFound : first.isNotFound = true)
    (answers more : List (Except LoadError α)) :
    firstHit missed (answers ++ more) =
      if misses (firstHit first answers) then firstHit missed more
      else firstHit first answers := by
  induction answers with
  | nil =>
    have missing : misses (firstHit first ([] : List (Except LoadError α))) = true := notFound
    rw [if_pos missing]
    rfl
  | cons answer answers ih =>
    by_cases missing : misses answer = true
    · rw [List.cons_append, firstHit_cons_of_misses missing, firstHit_cons_of_misses missing, ih]
    · rw [List.cons_append, firstHit_cons_of_not_misses missing,
        firstHit_cons_of_not_misses missing, if_neg missing]

/-- Putting a miss in other words is searching with another failure in mind. -/
theorem renameMiss_firstHit {missed : LoadError} (notFound : missed.isNotFound = true)
    (name artifact : String) (answers : List (Except LoadError α)) :
    renameMiss name artifact (firstHit missed answers) =
      firstHit (.classNotFound name artifact) answers := by
  induction answers with
  | nil =>
    have missing : misses (firstHit missed ([] : List (Except LoadError α))) = true := notFound
    exact renameMiss_of_misses missing name artifact
  | cons answer answers ih =>
    by_cases missing : misses answer = true
    · rw [firstHit_cons_of_misses missing, firstHit_cons_of_misses missing, ih]
    · rw [firstHit_cons_of_not_misses missing, firstHit_cons_of_not_misses missing,
        renameMiss_of_not_misses missing]

/-- Whether an answer is a miss does not depend on what is made of its result. -/
theorem misses_map (change : α → β) (answer : Except LoadError α) :
    misses (answer.map change) = misses answer := by
  cases answer with
  | ok value => rfl
  | error error => rfl

/-- A miss is told in other words whatever is made of the result of an answer. -/
theorem map_renameMiss (change : α → β) (name artifact : String) (answer : Except LoadError α) :
    (renameMiss name artifact answer).map change =
      renameMiss name artifact (answer.map change) := by
  cases answer with
  | ok value => rfl
  | error error => rfl

/-- Asking a second loader after a first one searches the lists of both, one after the other. -/
theorem map_firstAnswer_eq_firstHit (change : α → β) (name artifact : String)
    {first second : Reported (Except LoadError α)} {missedFirst missedSecond : LoadError}
    {answers more : List (Except LoadError β)}
    (notFoundFirst : missedFirst.isNotFound = true)
    (notFoundSecond : missedSecond.isNotFound = true)
    (searchFirst : first.answer.map change = firstHit missedFirst answers)
    (searchSecond : second.answer.map change = firstHit missedSecond more) :
    (firstAnswer name artifact first second).answer.map change =
      firstHit (.classNotFound name artifact) (answers ++ more) := by
  rw [firstHit_append notFoundFirst, ← searchFirst, misses_map]
  unfold firstAnswer
  by_cases missing : misses first.answer = true
  · rw [if_pos missing, if_pos missing]
    change (renameMiss name artifact second.answer).map change = _
    rw [map_renameMiss, searchSecond, renameMiss_firstHit notFoundSecond]
  · rw [if_neg missing, if_neg missing]

/-- A search of one source is a search along a list of one. -/
theorem Backing.define_eq_firstHit (files : FileTree) (own : Backing) (name : String) :
    own.define files name =
      firstHit (.classNotFound name own.artifact) [own.define files name] := by
  by_cases missing : misses (own.define files name) = true
  · rw [firstHit_cons_of_misses missing]
    unfold Backing.define at missing ⊢
    rw [misses_map] at missing
    cases found : own.source.findClass files name own.artifact with
    | ok record =>
      rw [found] at missing
      cases missing
    | error error =>
      rw [found] at missing
      rw [Source.eq_classNotFound_of_findClass found missing]
      rfl
  · rw [firstHit_cons_of_not_misses missing]

namespace Graph

variable {graph : Graph} {files : FileTree} {state : State} {name : String}

/-- As long as the files stay as they are, a loader resolves a name to what it would find now. -/
theorem Faithful.definition_resolve (faithful : graph.Faithful (· = files) state) {own : Backing}
    (owned : graph.Owns own) :
    (own.resolve files state name).map Resolution.definition = own.define files name := by
  unfold Backing.resolve
  cases kept : state.defined? own.id name with
  | some object =>
    obtain ⟨other, seen, ownedToo, numbered, rfl, made⟩ := faithful kept
    obtain rfl := owned.eq_of_id_eq ownedToo numbered.symm
    exact made.symm
  | none =>
    cases own.define files name with
    | ok definition => rfl
    | error error => rfl

/-- What a name is resolved to is the first hit along the loaders that are asked. -/
theorem Faithful.definition_resolveClass (faithful : graph.Faithful (· = files) state)
    {loader : Loader} (member : loader ∈ graph.loaders) :
    (loader.resolveClass files state name).answer.map Resolution.definition =
      firstHit (loader.missError name)
        ((loader.askOrder name).map fun asked => asked.findFresh files name) := by
  induction loader with
  | root own =>
    exact (faithful.definition_resolve (owns_of_mem member rfl)).trans
      (own.define_eq_firstHit files name)
  | child own parent ih =>
    have above := ih (graph.built.mem_of_asked? member rfl)
    have here : (own.resolve files state name).map Resolution.definition =
        firstHit (.classNotFound name own.artifact) [own.define files name] :=
      (faithful.definition_resolve (owns_of_mem member rfl)).trans
        (own.define_eq_firstHit files name)
    unfold Loader.resolveClass Loader.askOrder
    cases own.rules.orderFor name with
    | childOnly => exact here
    | parentFirst =>
      rw [List.map_append]
      exact map_firstAnswer_eq_firstHit _ name own.artifact (parent.isNotFound_missError name) rfl
        above here
    | childFirst =>
      change _ = firstHit _ ([own.define files name] ++ _)
      exact map_firstAnswer_eq_firstHit _ name own.artifact rfl (parent.isNotFound_missError name)
        here above
  | filtering wrapper inner ih =>
    unfold Loader.resolveClass Loader.askOrder Loader.missError
    by_cases admitted : wrapper.exports.admitsClass name = true
    · simp only [admitted, if_true]
      exact ih (graph.built.mem_of_asked? member rfl)
    · simp only [admitted]
      rfl
  | failing loader => rfl

/-- Settling a resolution hands out the class that was resolved. -/
theorem definition_settleAnswer (answer : Except LoadError Resolution) :
    (state.settleAnswer answer).2.map ClassObject.definition =
      answer.map Resolution.definition := by
  cases answer with
  | ok resolution =>
    cases resolution with
    | known object => rfl
    | fresh definition => rfl
  | error error => rfl

/-- **A class lookup is a search along a list.** Whatever was looked up, registered or disposed
before, as long as the files have not changed, a lookup comes to what the first of the loaders that
are asked finds in its own source or fails with; and when none of them has the class, to the failure
that the loader itself reports. -/
theorem loadClass_eq_firstHit (graph : Graph) (files : FileTree) (requests : List graph.Request)
    (loader : graph.Member) (name : String) :
    (loader.val.loadClass files (graph.run (requests.map fun request => (files, request)))
        name).2.answer.map ClassObject.definition =
      firstHit (loader.val.missError name)
        ((loader.val.askOrder name).map fun asked => asked.findFresh files name) := by
  have faithful : graph.Faithful (· = files)
      (graph.run (requests.map fun request => (files, request))) := by
    apply faithful_resume (faithful_initial _) _
    intro moment member
    obtain ⟨request, -, rfl⟩ := List.mem_map.mp member
    rfl
  rw [loader.val.loadClass_eq_settled]
  exact (definition_settleAnswer _).trans (faithful.definition_resolveClass loader.property)

end Graph

end Isolation
