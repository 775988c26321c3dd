import Isolation.Verbosity

/-!
# Events

What loaders report while they answer: the decisions of wrappers, and listeners that come too late.
Of what a lookup found, an event tells only whether it is shown. Lines that are of use only to who
looks for a fault are no events.
-/

namespace Isolation

/-- What kind of lookup was decided on. -/
inductive LookupKind where
  | classLookup
  | resource
  | resources
  | service
  deriving DecidableEq

/-- The name of a kind of lookup. -/
def LookupKind.name : LookupKind → String
  | classLookup => "class"
  | resource => "resource"
  | resources => "resources"
  | service => "service"

/-- What was decided. -/
inductive Decision where
  | exported
  | hidden
  | serviceFound
  | serviceMissing
  deriving DecidableEq

/-- The wording of a decision. -/
def Decision.text : Decision → String
  | exported => "exported"
  | hidden => "filtered"
  | serviceFound => "exported service found"
  | serviceMissing => "exported service not found, using standard lookup"

/-- What a loader reports. -/
inductive Event where
  | decided (verbosity : Verbosity) (artifact : String) (kind : LookupKind) (name : String)
      (decision : Decision) (showsFound : Bool)
  | lateListener (artifact : String)
  deriving DecidableEq

/-- The message of an event. -/
def Event.message : Event → String
  | decided _ _ _ _ _ _ => "classloading decision"
  | lateListener _ => "Ignoring shutdown listener registered on disposed filtering loader"

/-- Whether an event is a decision that is reported as information. -/
def Event.isVerboseDecision : Event → Bool
  | decided verbosity _ _ _ _ _ => verbosity.verbose
  | lateListener _ => false

/-- An answer and the events on the way to it. -/
structure Reported (α : Type) where
  answer : α
  events : List Event := []

namespace Reported

/-- An answer changed, with the same events. -/
def map {α β : Type} (f : α → β) (reported : Reported α) : Reported β :=
  ⟨f reported.answer, reported.events⟩

/-- An answer with an event before all others. -/
def after {α : Type} (event : Event) (reported : Reported α) : Reported α :=
  ⟨reported.answer, event :: reported.events⟩

end Reported

end Isolation
