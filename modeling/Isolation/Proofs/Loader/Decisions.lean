import Isolation.Proofs.Loader.Run

/-!
# What wrappers report of their decisions

A wrapper answers a call from its table of services, passes it on to the loader behind it, or
refuses it, and reports which of these it does. Before that it reports a service that its table
misses. The verbosity of the wrapper is the level of these reports and nothing else
(`Isolation.Loader.decisions_reported`). One decision goes unreported: that all resources of a name
are exported, if the loader behind the wrapper then fails to list them
(`Isolation.Loader.exists_unreported_decision`).
-/

namespace Isolation

/-- A call that a wrapper decides on. -/
inductive Inquiry where
  | loadClass (name : String)
  | getResource (name : String)
  | getResources (name : String)

namespace Inquiry

/-- The name that is asked for. -/
def name : Inquiry → String
  | loadClass name => name
  | getResource name => name
  | getResources name => name

/-- What kind of lookup a call is. -/
def kind : Inquiry → LookupKind
  | loadClass _ => .classLookup
  | getResource _ => .resource
  | getResources _ => .resources

/-- What a wrapper is asked to do. -/
def action : Inquiry → Action
  | loadClass name => .loadClass name
  | getResource name => .getResource name
  | getResources name => .getResources name

/-- What the loader behind a wrapper is asked to do, if the call is passed on. -/
def passedOn : Inquiry → Action
  | loadClass name => .loadClass name
  | getResource name => .findResource name
  | getResources name => .findResources name

/-- The interface whose service is asked for. A class is no service. -/
def interface? : Inquiry → Option String
  | loadClass _ => none
  | getResource name => Service.interfaceOf? name
  | getResources name => Service.interfaceOf? name

/-- Whether what is asked for is exported. -/
def admitted (exports : Exports) : Inquiry → Bool
  | loadClass name => exports.admitsClass name
  | getResource name => exports.admitsResource name
  | getResources name => exports.admitsResource name

/-- The answer that gives the locators of a service, or the first of them. -/
def served (locators : List Locator) : Inquiry → Answer
  | loadClass _ => .resource ⟨locators.head?, []⟩
  | getResource _ => .resource ⟨locators.head?, []⟩
  | getResources _ => .resources ⟨.ok locators, []⟩

/-- The answer that gives nothing. -/
def refused (exports : Exports) (artifact : String) : Inquiry → Answer
  | loadClass name => .loaded ⟨.error (.notExported name artifact exports), []⟩
  | getResource _ => .resource ⟨none, []⟩
  | getResources _ => .resources ⟨.ok [], []⟩

/-- Whether the loader behind a wrapper fails to list the resources that are asked for. -/
def Fails (files : FileTree) (inner : Loader) (inquiry : Inquiry) : Prop :=
  ∃ name error, inquiry = getResources name ∧ inner.findResources files name = .error error

end Inquiry

/-- What an event says, but for its level and its artifact. -/
structure Note where
  kind : LookupKind
  subject : String
  decision : Decision
  showsFound : Bool

/-- The note that a call is decided on by its own name. -/
def Inquiry.note (inquiry : Inquiry) (decision : Decision) (showsFound : Bool) : Note :=
  ⟨inquiry.kind, inquiry.name, decision, showsFound⟩

/-- The event that says it. -/
def Note.event (verbosity : Verbosity) (artifact : String) (note : Note) : Event :=
  .decided verbosity artifact note.kind note.subject note.decision note.showsFound

/-- The events that say some notes. -/
def Note.events (verbosity : Verbosity) (artifact : String) (notes : List Note) : List Event :=
  notes.map (Note.event verbosity artifact)

private theorem Note.events_append (verbosity : Verbosity) (artifact : String)
    (first second : List Note) :
    Note.events verbosity artifact (first ++ second) =
      Note.events verbosity artifact first ++ Note.events verbosity artifact second :=
  List.map_append

/-- The note that a table misses a service. -/
def Note.missing (interfaceName : String) : Note :=
  ⟨.service, interfaceName, .serviceMissing, false⟩

/-- The note that a table has a service. -/
def Note.found (interfaceName : String) : Note :=
  ⟨.service, interfaceName, .serviceFound, true⟩

/-- An answer with further events before its own. -/
def Answer.after (events : List Event) : Answer → Answer
  | loaded answer => .loaded ⟨answer.answer, events ++ answer.events⟩
  | foundClass answer => .foundClass answer
  | resource answer => .resource ⟨answer.answer, events ++ answer.events⟩
  | resources answer => .resources ⟨answer.answer, events ++ answer.events⟩
  | listening more => .listening (events ++ more)
  | disposed tags more => .disposed tags (events ++ more)

private theorem Answer.after_resource (events : List Event) (found : Option Locator) :
    (resource ⟨found, []⟩).after events = resource ⟨found, events⟩ := by
  rw [after, List.append_nil]

private theorem Answer.after_resources (events : List Event)
    (found : Except LoadError (List Locator)) :
    (resources ⟨found, []⟩).after events = resources ⟨found, events⟩ := by
  rw [after, List.append_nil]

namespace Wrapper

/-- A wrapper whose decisions are reported at another level. -/
def withVerbosity (wrapper : Wrapper) (verbosity : Verbosity) : Wrapper :=
  { wrapper with verbosity := verbosity }

/-- Whether the table of a wrapper misses the service of an interface that is asked for. -/
def Misses (wrapper : Wrapper) (inquiry : Inquiry) (interfaceName : String) : Prop :=
  inquiry.interface? = some interfaceName ∧ wrapper.services.all interfaceName = []

/-- Whether no service that is asked for is bound. -/
def Unbound (wrapper : Wrapper) (inquiry : Inquiry) : Prop :=
  ∀ interfaceName, inquiry.interface? = some interfaceName →
    wrapper.services.all interfaceName = []

/-- Whether a note tells what a wrapper does with a call, and what comes of it: the locators of a
service are those of its table, what is exported is answered by the loader behind it, and all else
is refused. -/
inductive Tells (files : FileTree) (state : State) (wrapper : Wrapper) (inner : Loader)
    (inquiry : Inquiry) : Note → State × Answer → Prop
  | service {interfaceName : String} (asked : inquiry.interface? = some interfaceName)
      (bound : wrapper.services.all interfaceName ≠ []) :
      Tells files state wrapper inner inquiry (.found interfaceName)
        (state, inquiry.served (wrapper.services.all interfaceName))
  | exported (unbound : wrapper.Unbound inquiry)
      (admitted : inquiry.admitted wrapper.exports = true) :
      Tells files state wrapper inner inquiry
        (inquiry.note .exported (inquiry.kind != .classLookup))
        (inner.perform files state inquiry.passedOn)
  | hidden (unbound : wrapper.Unbound inquiry)
      (kept : inquiry.admitted wrapper.exports = false) :
      Tells files state wrapper inner inquiry (inquiry.note .hidden false)
        (state, inquiry.refused wrapper.exports inner.artifact)

/-- Whether a wrapper deals with a call as its notes say. The first of them are about a service that
the table misses, and then one tells what the wrapper does; it is left out only if what is exported
could not be listed. -/
structure Deals (files : FileTree) (state : State) (wrapper : Wrapper) (inner : Loader)
    (inquiry : Inquiry) (missing final : List Note) (verdict : Note) (outcome : State × Answer) :
    Prop where
  tells : wrapper.Tells files state inner inquiry verdict outcome
  missed : ∀ interfaceName, wrapper.Misses inquiry interfaceName →
    missing = [.missing interfaceName]
  unmissed : (∀ interfaceName, ¬ wrapper.Misses inquiry interfaceName) → missing = []
  reported : ¬ (verdict.decision = .exported ∧ inquiry.Fails files inner) → final = [verdict]
  unreported : verdict.decision = .exported ∧ inquiry.Fails files inner → final = []

section Table

variable {wrapper : Wrapper} {inquiry : Inquiry} {interfaceName name : String}

/-- The notes on a service, if one is asked for and the table of a wrapper misses it. -/
def missingNotes (wrapper : Wrapper) : Option String → List Note
  | some interfaceName =>
    if wrapper.services.all interfaceName = [] then [.missing interfaceName] else []
  | none => []

private theorem missingNotes_of_misses (misses : wrapper.Misses inquiry interfaceName) :
    wrapper.missingNotes inquiry.interface? = [.missing interfaceName] := by
  rw [misses.1]
  exact if_pos misses.2

private theorem missingNotes_of_bound (asked : inquiry.interface? = some interfaceName)
    {first : Locator} {rest : List Locator}
    (bound : wrapper.services.all interfaceName = first :: rest) :
    wrapper.missingNotes inquiry.interface? = [] := by
  rw [asked, missingNotes, bound]
  exact if_neg (List.cons_ne_nil first rest)

private theorem missingNotes_of_not_misses
    (bound : ∀ interfaceName, ¬ wrapper.Misses inquiry interfaceName) :
    wrapper.missingNotes inquiry.interface? = [] := by
  cases asked : inquiry.interface? with
  | none => rfl
  | some interfaceName => exact if_neg fun unbound => bound interfaceName ⟨asked, unbound⟩

/-- A service that is asked for is bound, or none is. -/
theorem bound_or_unbound (wrapper : Wrapper) (inquiry : Inquiry) :
    (∃ interfaceName first rest, inquiry.interface? = some interfaceName ∧
        wrapper.services.all interfaceName = first :: rest) ∨ wrapper.Unbound inquiry := by
  cases asked : inquiry.interface? with
  | none => exact .inr fun other asks => nomatch asked.symm.trans asks
  | some interfaceName =>
    cases listed : wrapper.services.all interfaceName with
    | nil =>
      refine .inr fun other asks => ?_
      obtain rfl := Option.some.inj (asked.symm.trans asks)
      exact listed
    | cons first rest => exact .inl ⟨interfaceName, first, rest, rfl, listed⟩

variable (verbosity : Verbosity) (artifact : String)

/-- A table that has no service for a name gives nothing, and the notes on the one that it
misses. -/
theorem serviceLocators_of_unbound (unbound : wrapper.Unbound (.getResources name)) :
    (wrapper.withVerbosity verbosity).serviceLocators artifact name =
      ⟨[], Note.events verbosity artifact
        (wrapper.missingNotes (Service.interfaceOf? name))⟩ := by
  unfold serviceLocators
  cases asked : Service.interfaceOf? name with
  | none => rfl
  | some interfaceName =>
    have absent := unbound interfaceName asked
    simp only [withVerbosity, missingNotes, absent, if_true]
    rfl

private theorem serviceLocator?_of_unbound (unbound : wrapper.Unbound (.getResource name)) :
    (wrapper.withVerbosity verbosity).serviceLocator? artifact name =
      ⟨none, Note.events verbosity artifact
        (wrapper.missingNotes (Service.interfaceOf? name))⟩ := by
  unfold serviceLocator?
  cases asked : Service.interfaceOf? name with
  | none => rfl
  | some interfaceName =>
    have absent := unbound interfaceName asked
    simp only [withVerbosity, wrapper.services.first?_eq_head?, missingNotes, absent, if_true]
    rfl

variable {first : Locator} {rest : List Locator}

/-- A table that has a service gives its locators, and the note that it does. -/
theorem serviceLocators_of_bound (asked : Service.interfaceOf? name = some interfaceName)
    (bound : wrapper.services.all interfaceName = first :: rest) :
    (wrapper.withVerbosity verbosity).serviceLocators artifact name =
      ⟨first :: rest, [(Note.found interfaceName).event verbosity artifact]⟩ := by
  unfold serviceLocators
  simp only [withVerbosity, asked, bound]
  rfl

private theorem serviceLocator?_of_bound (asked : Service.interfaceOf? name = some interfaceName)
    (bound : wrapper.services.all interfaceName = first :: rest) :
    (wrapper.withVerbosity verbosity).serviceLocator? artifact name =
      ⟨some first, [(Note.found interfaceName).event verbosity artifact]⟩ := by
  unfold serviceLocator?
  simp only [withVerbosity, asked, wrapper.services.first?_eq_head?, bound, List.head?_cons]
  rfl

end Table

variable {files : FileTree} {state : State} {wrapper : Wrapper} {inner : Loader}
  {inquiry : Inquiry} {verdict : Note} {outcome : State × Answer}

/-- What a wrapper does is reported in one note, unless the loader behind it fails. -/
theorem Tells.deals (tells : wrapper.Tells files state inner inquiry verdict outcome)
    (lists : ¬ (verdict.decision = .exported ∧ inquiry.Fails files inner)) :
    wrapper.Deals files state inner inquiry (wrapper.missingNotes inquiry.interface?) [verdict]
      verdict outcome where
  tells := tells
  missed _ := missingNotes_of_misses
  unmissed := missingNotes_of_not_misses
  reported _ := rfl
  unreported fails := absurd fails lists

end Wrapper

namespace Loader

open Wrapper

variable (files : FileTree) (state : State) (wrapper : Wrapper) (inner : Loader) (name : String)

/-- Whether a call is answered as its notes say, at any level. -/
def ReportsAs (files : FileTree) (state : State) (wrapper : Wrapper) (inner : Loader)
    (inquiry : Inquiry) : Prop :=
  ∃ missing final verdict outcome,
    wrapper.Deals files state inner inquiry missing final verdict outcome ∧
      ∀ verbosity, (filtering (wrapper.withVerbosity verbosity) inner).perform files state
          inquiry.action =
        (outcome.1, outcome.2.after (Note.events verbosity inner.artifact (missing ++ final)))

variable {files state name} in
private theorem perform_getResource {loader : Loader} {found : Option Locator} {events : List Event}
    (answered : loader.getResource? files name = ⟨found, events⟩) :
    loader.perform files state (.getResource name) =
      (state, (Answer.resource ⟨found, []⟩).after events) := by
  rw [Answer.after_resource, ← answered]
  rfl

variable {files state name} in
private theorem perform_getResources {loader : Loader} {found : Except LoadError (List Locator)}
    {events : List Event} (answered : loader.getResources files name = ⟨found, events⟩) :
    loader.perform files state (.getResources name) =
      (state, (Answer.resources ⟨found, []⟩).after events) := by
  rw [Answer.after_resources, ← answered]
  rfl

private theorem reportsAs_loadClass : ReportsAs files state wrapper inner (.loadClass name) := by
  have unbound : wrapper.Unbound (.loadClass name) := fun _ asked => nomatch asked
  have lists : ¬ Inquiry.Fails files inner (.loadClass name) := fun ⟨_, _, same, _⟩ => nomatch same
  cases admitted : wrapper.exports.admitsClass name with
  | true =>
    have tells : wrapper.Tells files state inner _ _ _ := .exported unbound admitted
    refine ⟨_, _, _, _, tells.deals fun fails => lists fails.2, fun verbosity => ?_⟩
    have goesOn : (filtering (wrapper.withVerbosity verbosity) inner).loadClass files state name =
        ((inner.loadClass files state name).1, (inner.loadClass files state name).2.after
          (.decided verbosity inner.artifact .classLookup name .exported false)) :=
      if_pos admitted
    exact congrArg (fun found => (found.1, Answer.loaded found.2)) goesOn
  | false =>
    have tells : wrapper.Tells files state inner _ _ _ := .hidden unbound admitted
    refine ⟨_, _, _, _, tells.deals fun fails => lists fails.2, fun verbosity => ?_⟩
    have stops : (filtering (wrapper.withVerbosity verbosity) inner).loadClass files state name =
        (state, ⟨.error (.notExported name inner.artifact wrapper.exports),
          [.decided verbosity inner.artifact .classLookup name .hidden false]⟩) :=
      if_neg (Bool.eq_false_iff.mp admitted)
    exact congrArg (fun found => (found.1, Answer.loaded found.2)) stops

/-- A wrapper that has no service for a name looks behind it, or refuses. -/
theorem getResource?_of_unbound (unbound : wrapper.Unbound (.getResource name))
    (verbosity : Verbosity) :
    (filtering (wrapper.withVerbosity verbosity) inner).getResource? files name =
      if wrapper.exports.admitsResource name then
        ⟨inner.findResource? files name, Note.events verbosity inner.artifact
          (wrapper.missingNotes (Service.interfaceOf? name) ++
            [(Inquiry.getResource name).note .exported true])⟩
      else
        ⟨none, Note.events verbosity inner.artifact
          (wrapper.missingNotes (Service.interfaceOf? name) ++
            [(Inquiry.getResource name).note .hidden false])⟩ := by
  rw [Note.events_append, Note.events_append, getResource?,
    serviceLocator?_of_unbound verbosity inner.artifact unbound]
  rfl

private theorem getResources_of_unbound (unbound : wrapper.Unbound (.getResources name))
    (verbosity : Verbosity) :
    (filtering (wrapper.withVerbosity verbosity) inner).getResources files name =
      if wrapper.exports.admitsResource name then
        match inner.findResources files name with
        | .error error => ⟨.error error, Note.events verbosity inner.artifact
            (wrapper.missingNotes (Service.interfaceOf? name))⟩
        | .ok locators => ⟨.ok locators, Note.events verbosity inner.artifact
            (wrapper.missingNotes (Service.interfaceOf? name) ++
              [(Inquiry.getResources name).note .exported true])⟩
      else
        ⟨.ok [], Note.events verbosity inner.artifact
          (wrapper.missingNotes (Service.interfaceOf? name) ++
            [(Inquiry.getResources name).note .hidden false])⟩ := by
  simp only [Note.events_append]
  rw [getResources, serviceLocators_of_unbound verbosity inner.artifact unbound]
  rfl

private theorem reportsAs_getResource :
    ReportsAs files state wrapper inner (.getResource name) := by
  have lists : ¬ Inquiry.Fails files inner (.getResource name) :=
    fun ⟨_, _, same, _⟩ => nomatch same
  rcases wrapper.bound_or_unbound (.getResource name) with
    ⟨interfaceName, first, rest, asked, bound⟩ | unbound
  · have tells : wrapper.Tells files state inner _ _ _ :=
      .service asked (bound ▸ List.cons_ne_nil first rest)
    refine ⟨_, _, _, _, tells.deals fun fails => lists fails.2, fun verbosity => ?_⟩
    have served : (filtering (wrapper.withVerbosity verbosity) inner).getResource? files name =
        ⟨some first, [(Note.found interfaceName).event verbosity inner.artifact]⟩ := by
      rw [getResource?, serviceLocator?_of_bound verbosity inner.artifact asked bound]
    rw [missingNotes_of_bound asked bound, Inquiry.served, bound]
    exact perform_getResource served
  · have answered := getResource?_of_unbound files wrapper inner name unbound
    cases admitted : wrapper.exports.admitsResource name with
    | true =>
      have tells : wrapper.Tells files state inner _ _ _ := .exported unbound admitted
      refine ⟨_, _, _, _, tells.deals fun fails => lists fails.2, fun verbosity => ?_⟩
      exact perform_getResource ((answered verbosity).trans (if_pos admitted))
    | false =>
      have tells : wrapper.Tells files state inner _ _ _ := .hidden unbound admitted
      refine ⟨_, _, _, _, tells.deals fun fails => lists fails.2, fun verbosity => ?_⟩
      have kept := Bool.eq_false_iff.mp admitted
      exact perform_getResource ((answered verbosity).trans (if_neg kept))

private theorem reportsAs_getResources :
    ReportsAs files state wrapper inner (.getResources name) := by
  rcases wrapper.bound_or_unbound (.getResources name) with
    ⟨interfaceName, first, rest, asked, bound⟩ | unbound
  · have tells : wrapper.Tells files state inner _ _ _ :=
      .service asked (bound ▸ List.cons_ne_nil first rest)
    refine ⟨_, _, _, _, tells.deals fun fails => (by cases fails.1), fun verbosity => ?_⟩
    have served : (filtering (wrapper.withVerbosity verbosity) inner).getResources files name =
        ⟨.ok (first :: rest), [(Note.found interfaceName).event verbosity inner.artifact]⟩ := by
      rw [getResources, serviceLocators_of_bound verbosity inner.artifact asked bound]
    rw [missingNotes_of_bound asked bound, Inquiry.served, bound]
    exact perform_getResources served
  · have answered := getResources_of_unbound files wrapper inner name unbound
    cases admitted : wrapper.exports.admitsResource name with
    | true =>
      have tells : wrapper.Tells files state inner _ _ _ := .exported unbound admitted
      change Tells _ _ _ _ _ _ (state, .resources ⟨inner.findResources files name, []⟩) at tells
      simp only [admitted, if_true] at answered
      cases listed : inner.findResources files name with
      | error error =>
        rw [listed] at tells
        simp only [listed] at answered
        -- The loader behind the wrapper fails before the decision is reported.
        have fails : Inquiry.Fails files inner (.getResources name) := ⟨name, error, rfl, listed⟩
        refine ⟨_, [], _, _, ⟨tells, fun _ => missingNotes_of_misses, missingNotes_of_not_misses,
          fun lists => absurd ⟨rfl, fails⟩ lists, fun _ => rfl⟩, fun verbosity => ?_⟩
        rw [List.append_nil]
        exact perform_getResources (answered verbosity)
      | ok locators =>
        rw [listed] at tells
        simp only [listed] at answered
        have lists : ¬ Inquiry.Fails files inner (.getResources name) := by
          rintro ⟨other, error, same, failed⟩
          obtain rfl := Inquiry.getResources.inj same
          cases listed.symm.trans failed
        refine ⟨_, _, _, _, tells.deals fun fails => lists fails.2, fun verbosity => ?_⟩
        exact perform_getResources (answered verbosity)
    | false =>
      have tells : wrapper.Tells files state inner _ _ _ := .hidden unbound admitted
      refine ⟨_, _, _, _, tells.deals fun fails => (by cases fails.1), fun verbosity => ?_⟩
      have kept := Bool.eq_false_iff.mp admitted
      exact perform_getResources ((answered verbosity).trans (if_neg kept))

/-- **One call is answered as its notes say.** -/
theorem reportsAs (inquiry : Inquiry) : ReportsAs files state wrapper inner inquiry := by
  cases inquiry with
  | loadClass name => exact reportsAs_loadClass files state wrapper inner name
  | getResource name => exact reportsAs_getResource files state wrapper inner name
  | getResources name => exact reportsAs_getResources files state wrapper inner name

/-- The state after a list of calls, each with the files when it is made. -/
def stateAfter (loader : Loader) (start : State) (calls : List (FileTree × Inquiry)) : State :=
  calls.foldl (fun state call => (loader.perform call.1 state call.2.action).1) start

/-- Calls come to the same state at any level. -/
theorem stateAfter_withVerbosity (verbosity : Verbosity) (start : State)
    (calls : List (FileTree × Inquiry)) :
    (filtering (wrapper.withVerbosity verbosity) inner).stateAfter start calls =
      (filtering wrapper inner).stateAfter start calls := by
  induction calls generalizing start with
  | nil => rfl
  | cons call calls ih =>
    obtain ⟨missing, final, verdict, outcome, -, performed⟩ :=
      reportsAs call.1 start wrapper inner call.2
    have there := congrArg Prod.fst (performed verbosity)
    have here := congrArg Prod.fst (performed wrapper.verbosity)
    change ((filtering wrapper inner).perform call.1 start call.2.action).1 = outcome.1 at here
    unfold stateAfter at ih ⊢
    rw [List.foldl_cons, List.foldl_cons, there, here]
    exact ih outcome.1

/-- **Every decision of a wrapper is reported, and reports change nothing.** After any calls, a call
leaves a note on a service that is asked for and missed, if there is one, and then a note that tells
what the wrapper does with it; only that resources are exported is not noted when the loader behind
the wrapper fails to list them. The events are these notes at the level of the wrapper, before those
of the loader behind it, and at any other level the states, the answers and the notes are the
same. -/
theorem decisions_reported (start : State) (earlier : List (FileTree × Inquiry))
    (inquiry : Inquiry) :
    ∃ missing final verdict outcome,
      wrapper.Deals files ((filtering wrapper inner).stateAfter start earlier) inner inquiry missing
          final verdict outcome ∧
        ∀ verbosity,
          let front := filtering (wrapper.withVerbosity verbosity) inner
          front.stateAfter start earlier = (filtering wrapper inner).stateAfter start earlier ∧
            front.perform files (front.stateAfter start earlier) inquiry.action =
              (outcome.1,
                outcome.2.after (Note.events verbosity inner.artifact (missing ++ final))) := by
  obtain ⟨missing, final, verdict, outcome, deals, performed⟩ :=
    reportsAs files ((filtering wrapper inner).stateAfter start earlier) wrapper inner inquiry
  refine ⟨missing, final, verdict, outcome, deals, fun verbosity => ?_⟩
  have same := stateAfter_withVerbosity wrapper inner verbosity start earlier
  exact ⟨same, by rw [same, performed]⟩

/-- A resource is exported, and the loader behind the wrapper fails to list it: nothing is
reported. -/
theorem exists_unreported_decision :
    ∃ wrapper inner name, ∃ error : LoadError,
      wrapper.exports.admitsResource name = true ∧ Service.interfaceOf? name = none ∧
        ∀ files, (filtering wrapper inner).getResources files name = ⟨.error error, []⟩ := by
  refine ⟨⟨⟨2⟩, .ofLists [] ["a.txt"], {}, ⟨true⟩⟩, .failing ⟨⟨1⟩, "app", "disk on fire"⟩, "a.txt",
    .file (.other "disk on fire"), by decide +kernel, by decide +kernel, fun files => ?_⟩
  have unbound : Wrapper.Unbound ⟨⟨2⟩, .ofLists [] ["a.txt"], {}, ⟨true⟩⟩ (.getResources "a.txt") :=
    fun _ _ => rfl
  exact getResources_of_unbound files _ (.failing ⟨⟨1⟩, "app", "disk on fire"⟩) "a.txt" unbound _

end Loader

end Isolation
