import Isolation.Json.Reader
import Isolation.Json.Value
import Isolation.Text.Blank

/-!
# Verbosity

Whether decisions about lookups are reported at the level of information or only for tracing. The
setting is a document of its own, or comes from an environment variable.
-/

namespace Isolation

/-- Whether every decision of a filtering loader is reported. -/
structure Verbosity where
  verbose : Bool := false
  deriving DecidableEq, Inhabited

namespace Verbosity

open Json

/-- The environment variable that turns reports on. -/
def variableName : String := "ARTISCOPE_LOG_VERBOSE_CLASSLOADING"

/-- Whether a text says yes, in either case and with blanks around it. -/
def saysYes (text : String) : Bool :=
  ["true", "1", "yes", "on"].contains
    (String.ofList ((Text.trim text).toList.map Char.toLower))

/-- The setting that an environment variable gives, if it is set. -/
def ofVariable (value : Option String) : Verbosity :=
  ⟨(value.map saysYes).getD false⟩

/-- The setting as a document. -/
def toJson (setting : Verbosity) : Json :=
  .object [("verbose_classloading", .boolean setting.verbose)]

/-- The only field of the setting. -/
def fields : List (Member (Option Bool)) := [
  .of "verbose_classloading" false id readBoolean fun value _ => some value]

/-- Reads the setting. -/
def read : Reader Verbosity := fun text => do
  let (draft, rest) ← readDraft "struct ClassLoadingConfig" fields none text
  return (⟨draft.getD false⟩, rest)

end Verbosity

end Isolation
