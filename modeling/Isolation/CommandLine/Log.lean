import Isolation.FileTree
import Isolation.Loader.Event

/-!
# Logs

What a run reports is also kept in a log. There is one log a day, named after the day; what is in it
already stays, and new lines are put at its end.
-/

namespace Isolation.CommandLine

/-- A day of the calendar. -/
structure Day where
  year : Nat := 1970
  month : Nat := 1
  day : Nat := 1
  deriving DecidableEq

/-- A number in decimal, with zeros in front if it has too few digits. -/
def padded (width n : Nat) : List Char :=
  (Nat.toDigits 10 n).leftpad width '0'

namespace Day

/-- The day so many days after the first of March of a year that four hundred divides; years run
from March, so that a leap day is the last day of its year. -/
def ofMarchDays (start days : Nat) : Day :=
  let century := min 3 (days / 36524)
  let days := days - 36524 * century
  let leap := days / 1461
  let days := days - 1461 * leap
  let year := min 3 (days / 365)
  let days := days - 365 * year
  let month := (5 * days + 2) / 153
  let year := start + 100 * century + 4 * leap + year
  { year := if month < 10 then year else year + 1
    month := if month < 10 then month + 3 else month - 9
    day := days - (153 * month + 2) / 5 + 1 }

/-- The day on which so many seconds have passed since 1970 began. -/
def ofSeconds (seconds : Nat) : Day :=
  let days := seconds / 86400 + 719468
  ofMarchDays (400 * (days / 146097)) (days % 146097)

example : [0, 951782400, 951868799, 951868800, 1709164800, 4107542400].map ofSeconds =
    [⟨1970, 1, 1⟩, ⟨2000, 2, 29⟩, ⟨2000, 2, 29⟩, ⟨2000, 3, 1⟩, ⟨2024, 2, 29⟩, ⟨2100, 3, 1⟩] := by
  decide

/-- A day as it is written: year, month and day of the month, with dashes between. -/
def text (day : Day) : String :=
  .ofList (padded 4 day.year ++ '-' :: padded 2 day.month ++ '-' :: padded 2 day.day)

/-- The name of the log of a day. -/
def logName (day : Day) : String :=
  "cli." ++ day.text

end Day

/-- What a run needs to know for its log: the day, and the lines that tell what was reported. They
bear the time at which they are written, and so they are given. -/
structure Log where
  day : Day := {}
  lines : List Event → Bytes := fun _ => []

end Isolation.CommandLine
