import Isolation.Text.Digits

/-!
# Tables of code points

A table is written as rows with blanks or line ends between them. A row is a few numbers in
hexadecimal with dashes between them; a row that gives a range may have only one number.
-/

namespace Isolation.Text

/-- The number that hexadecimal digits write. -/
def hexNumber (digits : List Char) : Nat :=
  digits.foldl (fun total c => total * 16 + (hexValue? c).getD 0) 0

/-- The rows of a table. -/
def tableRows (text : String) : Array (List Nat) :=
  let rows := (text.toList.splitOnP fun c => c == ' ' || c == '\n').filter (· ≠ [])
  (rows.map fun row => (row.splitOn '-').map hexNumber).toArray

/-- The closed ranges that rows of one or two numbers give. -/
def tableRanges (text : String) : Array (Nat × Nat) :=
  (tableRows text).filterMap fun
    | [low] => some (low, low)
    | [low, high] => some (low, high)
    | _ => none

/-- What the first row of a table that answers at all answers. -/
def findInRows {α : Type} (rows : Array (List Nat)) (answer? : List Nat → Option α) : Option α :=
  rows.findSome? answer?

end Isolation.Text
