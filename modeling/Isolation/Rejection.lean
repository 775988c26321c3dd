/-!
# Rejected arguments

Why an argument is refused. A service needs an interface that is the name of a file and an
implementation, and a loader reads only locators of its own artifact.
-/

namespace Isolation

/-- Why an argument is refused. -/
inductive Rejection where
  | emptyInterface
  | interfaceNoFileName (interfaceName : String)
  | emptyImplementation (interfaceName : String)
  | foreignLocator (locator artifact : String)
  | other (reason : String)
  deriving DecidableEq, Inhabited

namespace Rejection

/-- What a rejection says. -/
def reason : Rejection → String
  | emptyInterface => "Service interface cannot be empty"
  | interfaceNoFileName name => "Service interface '" ++ name ++ "' must be a plain file name"
  | emptyImplementation name => "Service implementation for '" ++ name ++ "' cannot be empty"
  | foreignLocator locator artifact =>
    "Locator " ++ locator ++ " does not belong to artifact '" ++ artifact ++ "'"
  | other reason => reason

/-- A rejection as an error message. -/
def message (rejection : Rejection) : String :=
  "Invalid argument: " ++ rejection.reason

end Rejection

end Isolation
