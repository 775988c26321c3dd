import Isolation.Exports
import Isolation.FileError
import Isolation.Rejection

/-!
# Failures of lookups

Why a class or a resource could not be had. A class that is not there and a class that is not
exported both count as not found; any other failure ends a search.
-/

namespace Isolation

/-- What is wrong with the bytes of a class. -/
inductive ClassDefect where
  | missingMagic
  | unreadable
  | other (reason : String)
  deriving DecidableEq, Inhabited

/-- What a defect says. -/
def ClassDefect.reason : ClassDefect → String
  | missingMagic => "missing CAFEBABE magic"
  | unreadable => "Failed to parse class"
  | other reason => reason

/-- Why a lookup fails. -/
inductive LoadError where
  | classNotFound (className artifact : String)
  | notExported (className artifact : String) (exports : Exports)
  | invalidClass (className : String) (defect : ClassDefect)
  | file (error : FileError)
  | rejected (rejection : Rejection)
  deriving DecidableEq

namespace LoadError

/-- Whether a failure means that there is no such class, so that a search goes on. -/
def isNotFound : LoadError → Bool
  | classNotFound _ _ => true
  | notExported _ _ _ => true
  | _ => false

/-- That a class was not found, in the words of the artifact that was asked. -/
def notFoundText (className artifact : String) : String :=
  "Class '" ++ className ++ "' not found in classloader for artifact '" ++ artifact ++ "'"

/-- What a failure says. -/
def message : LoadError → String
  | classNotFound className artifact => notFoundText className artifact
  | notExported className artifact exports =>
    notFoundText className artifact ++ " (not exported by filter " ++ exports.describe ++ ")"
  | invalidClass className defect =>
    "Invalid class definition for '" ++ className ++ "': " ++ defect.reason
  | file error => "I/O error: " ++ error.message
  | rejected rejection => rejection.message

end LoadError

end Isolation
