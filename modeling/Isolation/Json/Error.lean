import Isolation.Text.Quoted

/-!
# Why a JSON text is refused

A text ends too early, is malformed, or is well formed so far and has the wrong shape. Reading goes
once from left to right, so the first of these that the text shows is the one reported.
-/

namespace Isolation.Json

/-- What kind of value was found. -/
inductive Found where
  | null
  | boolean (value : Bool)
  | integer (text : String)
  | floating (text : String)
  | string (text : String)
  | sequence
  | map
  deriving DecidableEq

/-- How a value of the wrong kind is described. -/
def Found.description : Found → String
  | .null => "null"
  | .boolean value => "boolean `" ++ (if value then "true" else "false") ++ "`"
  | .integer text => "integer `" ++ text ++ "`"
  | .floating text => "floating point `" ++ text ++ "`"
  | .string text => "string " ++ Text.quote text
  | .sequence => "sequence"
  | .map => "map"

/-- How a value has the wrong shape. -/
inductive Mismatch where
  | wrongKind (found : Found) (expected : String)
  | tooFewItems (count : Nat) (expected : String)
  | missingField (name : String)
  | duplicateField (name : String)
  | unknownVariant (name : String) (expected : List String)
  | refused (reason : String)
  deriving DecidableEq

/-- A name between grave accents. -/
def ticked (name : String) : String :=
  "`" ++ name ++ "`"

/-- What a mismatch says. -/
def Mismatch.message : Mismatch → String
  | .wrongKind found expected => "invalid type: " ++ found.description ++ ", expected " ++ expected
  | .tooFewItems count expected =>
    "invalid length " ++ toString count ++ ", expected " ++ expected
  | .missingField name => "missing field " ++ ticked name
  | .duplicateField name => "duplicate field " ++ ticked name
  | .unknownVariant name expected =>
    "unknown variant " ++ ticked name ++ ", expected one of " ++
      String.intercalate ", " (expected.map ticked)
  | .refused reason => reason

/-- Why a text is refused. -/
inductive ReadError where
  | truncated
  | malformed
  | mismatch (cause : Mismatch)
  deriving DecidableEq

end Isolation.Json
