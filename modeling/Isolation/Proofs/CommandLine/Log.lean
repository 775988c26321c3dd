import Isolation.CommandLine.Session
import Isolation.Proofs.FileTree.Below
import Isolation.Proofs.Service.Publish

/-!
# The log of a run

Whatever the day is, its log is a file of its own in the directory for logs
(`Isolation.CommandLine.proper_logName`). Opening the log changes that file and makes directories on
the way (`Isolation.CommandLine.makes_or_isLogAt_of_openLog`), and writing to it changes nothing but
the file (`Isolation.CommandLine.same_or_isLogAt_writeLog`), which keeps the lines that it has
(`Isolation.CommandLine.read_writeLog`).
-/

namespace Isolation.CommandLine

/-- A number is written with digits alone. -/
theorem isDigit_of_mem_padded {width n : Nat} {c : Char} (member : c ∈ padded width n) :
    c.isDigit = true := by
  rcases List.mem_append.mp member with zero | digit
  · obtain rfl := List.eq_of_mem_replicate zero
    rfl
  · exact Nat.isDigit_of_mem_toDigits (by decide) (by decide) digit

/-- No slash stands in a day. -/
theorem slash_notMem_text (day : Day) : '/' ∉ day.text.toList := by
  have noDigit : ∀ {width n}, '/' ∉ padded width n :=
    fun member => absurd (isDigit_of_mem_padded member) (by decide)
  rw [Day.text, String.toList_ofList, List.mem_append, List.mem_append, List.mem_cons,
    List.mem_cons]
  simp only [noDigit, or_false, false_or]
  decide

/-- The name of a log is one step of a path. -/
theorem proper_logName (day : Day) : FileName.Proper (Utf8.ofString day.logName) := by
  have chars : day.logName.toList = "cli.".toList ++ day.text.toList := String.toList_append
  have differs : ∀ other : String, other.toList.head? ≠ some 'c' → day.logName ≠ other := by
    rintro _ apart rfl
    rw [chars] at apart
    exact apart rfl
  refine Utf8.proper_ofString (differs "" (by decide)) (differs "." (by decide))
    (differs ".." (by decide)) fun slash => ?_
  rw [chars] at slash
  exact (List.mem_append.mp slash).elim (by decide) (slash_notMem_text day)

namespace Surroundings

variable (surroundings : Surroundings) {files after : FileTree} {day : Day} {lines : Bytes}
  {place : Location}

private theorem open_logDirectory : surroundings.logDirectory.Open :=
  Path.open_child _ (by decide) (by decide)

/-- Whether a place is that of the log of a day: the child of the directory for logs that has the
name of the log. -/
def IsLogAt (files : FileTree) (day : Day) (place : Location) : Prop :=
  ∃ logs, files.resolve surroundings.logDirectory = .ok logs ∧
    place = logs ++ [Utf8.ofString day.logName]

variable {surroundings}

/-- A log stays where it is. -/
theorem IsLogAt.later (isLog : surroundings.IsLogAt files day place)
    (extended : files.Extends after) : surroundings.IsLogAt after day place := by
  obtain ⟨logs, leads, here⟩ := isLog
  exact ⟨logs, extended.resolve leads, here⟩

/-- Writing to a log writes one file or none. -/
theorem writeLog_cases (surroundings : Surroundings) (files : FileTree) (day : Day)
    (lines : Bytes) :
    surroundings.writeLog files day lines = files ∨
      ∃ content, files.write (surroundings.logFile day) content =
        .ok (surroundings.writeLog files day lines) := by
  unfold writeLog
  cases appended : files.append (surroundings.logFile day) lines with
  | error error => exact .inl rfl
  | ok written =>
    refine .inr ?_
    unfold FileTree.append at appended
    split at appended
    · exact ⟨_, appended⟩
    · exact ⟨_, appended⟩

/-- Writing to a log takes nothing away. -/
theorem extends_writeLog (surroundings : Surroundings) (files : FileTree) (day : Day)
    (lines : Bytes) : files.Extends (surroundings.writeLog files day lines) := by
  rcases surroundings.writeLog_cases files day lines with same | ⟨content, written⟩
  · rw [same]
    exact .refl files
  · exact FileTree.extends_write written

/-- **Writing to a log changes nothing but the log.** -/
theorem same_or_isLogAt_writeLog (surroundings : Surroundings) (files : FileTree) (day : Day)
    (lines : Bytes) (place : Location) :
    (surroundings.writeLog files day lines).node? place = files.node? place ∨
      surroundings.IsLogAt files day place := by
  rcases surroundings.writeLog_cases files day lines with same | ⟨content, written⟩
  · exact .inl (by rw [same])
  · obtain ⟨logs, leads, -, others⟩ := FileTree.exists_above_of_write_child
      surroundings.open_logDirectory (proper_logName day) written
    by_cases here : place = logs ++ [Utf8.ofString day.logName]
    · exact .inr ⟨logs, leads, here⟩
    · exact .inl (others place here)

/-- Opening a log takes nothing away. -/
theorem extends_openLog (surroundings : Surroundings) (files : FileTree) (day : Day) :
    files.Extends (surroundings.openLog files day) :=
  (FileTree.extends_ensureDirectory files _).trans (surroundings.extends_writeLog _ day [])

/-- **What opening a log changes** is the log, or a directory made on the way to the one for
logs. -/
theorem makes_or_isLogAt_of_openLog
    (changed : (surroundings.openLog files day).node? place ≠ files.node? place) :
    files.Makes (surroundings.openLog files day) surroundings.logDirectory place ∨
      surroundings.IsLogAt (surroundings.openLog files day) day place := by
  obtain ⟨-, same_or_makes⟩ := FileTree.makesOnly_ensureDirectory files surroundings.logDirectory
  have written := surroundings.extends_writeLog
    (files.ensureDirectory surroundings.logDirectory).1 day []
  rcases same_or_makes place with unmade | makes
  · rw [← unmade] at changed
    have isLog := (surroundings.same_or_isLogAt_writeLog _ day [] place).resolve_left changed
    exact .inr (isLog.later written)
  · exact .inl (makes.later written)

/-- **A log keeps its lines**: what is written to it comes after them. -/
theorem read_writeLog {old : Bytes}
    (readable : files.read (surroundings.logFile day) = .ok old) :
    (surroundings.writeLog files day lines).read (surroundings.logFile day) =
      .ok (old ++ lines) := by
  obtain ⟨written, succeeds, reads⟩ := FileTree.exists_write_child_of_read
    surroundings.open_logDirectory (proper_logName day) readable (old ++ lines)
  have appended : files.append (surroundings.logFile day) lines = .ok written := by
    unfold FileTree.append
    rw [readable]
    exact succeeds
  unfold writeLog
  rw [appended]
  exact reads

end Surroundings

end Isolation.CommandLine
