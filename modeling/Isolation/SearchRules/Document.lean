import Isolation.Json.Reader
import Isolation.Json.Value
import Isolation.SearchRules

/-!
# Search rules as documents

Search rules are an object with the usual order and the orders of packages. Both may be missing: the
parent is then asked first, and no package has an order of its own.
-/

namespace Isolation.SearchRules

open Json

/-- Search rules as a document, with the packages in increasing order. -/
def toJson (rules : SearchRules) : Json :=
  .object [
    ("default", .string rules.standard.name),
    ("packages", .object (rules.packages.entries.map fun (package, order) =>
      (package, .string order.name)))]

/-- Search rules of which some fields have been read. -/
structure Draft where
  standard : Option SearchOrder := none
  packages : Option (NameMap SearchOrder) := none

/-- Reads a search order. -/
def readOrder : Reader SearchOrder :=
  readVariant ["parent_first", "child_first", "child_only"] SearchOrder.ofName?

/-- The fields of search rules. -/
def fields : List (Member Draft) := [
  .of "default" false (·.standard) readOrder fun value draft => { draft with standard := value },
  .of "packages" false (·.packages) (readMap readOrder) fun value draft =>
    { draft with packages := value }]

/-- Reads search rules. -/
def read : Reader SearchRules := fun text => do
  let (draft, rest) ← readDraft "struct ClassLoaderLookupPolicy" fields {} text
  return (⟨draft.standard.getD .parentFirst, draft.packages.getD .empty⟩, rest)

end Isolation.SearchRules
