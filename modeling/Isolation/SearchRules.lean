import Isolation.ClassName
import Isolation.NameMap

/-!
# Search rules

Search rules say in which order a loader asks its parent and itself for a class. A package may have
an order of its own, which also holds for the packages below it; of the packages that cover a class
the longest decides.
-/

namespace Isolation

/-- The order in which a loader asks its parent and itself. -/
inductive SearchOrder where
  | parentFirst
  | childFirst
  | childOnly
  deriving DecidableEq, Inhabited, Repr

namespace SearchOrder

/-- The name of an order in documents. -/
def name : SearchOrder → String
  | parentFirst => "parent_first"
  | childFirst => "child_first"
  | childOnly => "child_only"

/-- The order that a name stands for. -/
def ofName? (text : String) : Option SearchOrder :=
  [parentFirst, childFirst, childOnly].find? fun order => order.name == text

end SearchOrder

/-- An order for most classes, and the orders of some packages. -/
structure SearchRules where
  standard : SearchOrder := .parentFirst
  packages : NameMap SearchOrder := .empty
  deriving DecidableEq, Inhabited

namespace SearchRules

/-- Whether `package` is `ancestor` or lies below it. -/
def covers (ancestor package : List Char) : Bool :=
  match ancestor.isPrefixOf? package with
  | some [] => true
  | some (next :: _) => next == '.'
  | none => false

/-- Keeps the longer of two bindings; of two equally long ones the one already held. -/
def preferLonger (held : Option (String × SearchOrder)) (found : String × SearchOrder) :
    Option (String × SearchOrder) :=
  match held with
  | some best => if found.1.utf8ByteSize ≤ best.1.utf8ByteSize then some best else some found
  | none => some found

/-- The order in which a class is searched for. -/
def orderFor (rules : SearchRules) (className : String) : SearchOrder :=
  let package := ClassName.packageChars className.toList
  let covering := rules.packages.entries.filter fun (ancestor, _) => covers ancestor.toList package
  ((covering.foldl preferLonger none).map (·.2)).getD rules.standard

end SearchRules

end Isolation
