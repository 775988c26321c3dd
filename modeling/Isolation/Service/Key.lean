import Isolation.Text.Split

/-!
# Service keys

A resource name that holds the marker `META-INF/services/` asks for the descriptor of a service: the
text after the first marker names the service interface.
-/

namespace Isolation.Service

/-- What marks the name of a service descriptor. -/
def marker : String :=
  "META-INF/services/"

/-- The interface whose descriptor a resource name asks for, if it asks for one. -/
def interfaceOf? (name : String) : Option String :=
  match Text.cutFirst marker.toList name.toList with
  | some (_, []) => none
  | some (_, key) => some (.ofList key)
  | none => none

end Isolation.Service
