import Isolation.Json.Reader
import Isolation.Json.Value
import Isolation.Rejection

/-!
# Declared services

An artifact declares services: an interface and the name of its implementation. The interface
becomes the name of a descriptor file, so it must be a plain file name.
-/

namespace Isolation.Service

open Json

/-- Whether a text is a plain file name: no separator of either kind, and not a dot or two dots. -/
def isFileName (name : String) : Bool :=
  !(name.toList.any fun c => c == '/' || c == '\\') && name != "." && name != ".."

/-- A service that an artifact declares. -/
structure Declaration where
  interfaceName : String
  implementation : String
  named : interfaceName ≠ ""
  plain : isFileName interfaceName = true
  implemented : implementation ≠ ""
  deriving DecidableEq

namespace Declaration

/-- Declares a service. -/
def make (interfaceName implementation : String) : Except Rejection Declaration :=
  if named : interfaceName = "" then .error .emptyInterface
  else if plain : isFileName interfaceName = true then
    if implemented : implementation = "" then .error (.emptyImplementation interfaceName)
    else .ok ⟨interfaceName, implementation, named, plain, implemented⟩
  else .error (.interfaceNoFileName interfaceName)

/-- A declared service as a document. -/
def toJson (service : Declaration) : Json :=
  .object [
    ("service_interface", .string service.interfaceName),
    ("service_implementation", .string service.implementation)]

/-- A declared service of which some fields have been read. -/
structure Draft where
  interfaceName : Option String := none
  implementation : Option String := none

/-- The fields of a declared service. -/
def fields : List (Member Draft) := [
  .of "service_interface" true (·.interfaceName) (readString "a string") fun value draft =>
    { draft with interfaceName := value },
  .of "service_implementation" true (·.implementation) (readString "a string") fun value draft =>
    { draft with implementation := value }]

/-- Reads a declared service; one that may not be declared is refused. -/
def read : Reader Declaration := fun text => do
  let (draft, rest) ← readDraft "struct RawExportedService" fields {} text
  match make (draft.interfaceName.getD "") (draft.implementation.getD "") with
  | .ok service => return (service, rest)
  | .error rejection => throw (.mismatch (.refused rejection.message))

end Declaration

end Isolation.Service
