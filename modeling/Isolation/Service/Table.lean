import Isolation.Locator
import Isolation.Rejection

/-!
# Exported services

A binding says where the descriptor of a service is. Bindings stand in a table in the order in which
they were made; several may have the same interface, and the earliest comes first.
-/

namespace Isolation.Service

/-- A service interface and the locator of a descriptor for it. -/
structure Binding where
  interfaceName : String
  locator : Locator
  named : interfaceName ≠ ""

/-- Binds an interface, which must not be empty. -/
def Binding.make (interfaceName : String) (locator : Locator) : Except Rejection Binding :=
  if named : interfaceName = "" then .error .emptyInterface
  else .ok ⟨interfaceName, locator, named⟩

/-- Bindings in the order in which they were made. -/
structure Table where
  bindings : List Binding := []
  deriving Inhabited

namespace Table

/-- The locators of all bindings of an interface, in order. -/
def all (table : Table) (interfaceName : String) : List Locator :=
  (table.bindings.filter (·.interfaceName == interfaceName)).map (·.locator)

/-- The locator of the earliest binding of an interface. -/
def first? (table : Table) (interfaceName : String) : Option Locator :=
  (table.bindings.find? (·.interfaceName == interfaceName)).map (·.locator)

/-- Whether some binding has this locator. -/
def holds (table : Table) (locator : Locator) : Bool :=
  table.bindings.any (·.locator.text == locator.text)

/-- The first locator of an interface is the first of all its locators. -/
theorem first?_eq_head? (table : Table) (interfaceName : String) :
    table.first? interfaceName = (table.all interfaceName).head? := by
  simp [first?, all, List.head?_map, List.head?_filter]

end Table

end Isolation.Service
