import Isolation.ClassFile.Kind
import Isolation.Loader.State
import Isolation.Text.Table

/-!
# Reports

What the command line prints about classes, resources and the entries of a classpath, as text for
people or as JSON. Every report ends with a line end.
-/

namespace Isolation.CommandLine

/-- A JSON report. -/
def jsonReport (value : Json) : String :=
  value.pretty ++ "\n"

/-- What is said when no resource is visible. -/
def noResource (name : String) : String :=
  "No visible resource named '" ++ name ++ "'"

/-- What is told about a class. Its kind is left out if the class file cannot be read to its end. -/
structure ClassReport where
  definition : Definition
  kind : Option ClassFile.Kind

namespace ClassReport

/-- The report of a class. -/
def of (definition : Definition) : ClassReport :=
  ⟨definition, (ClassFile.inspect definition.name definition.bytes).toOption⟩

/-- A report as a JSON value. -/
def toJson (report : ClassReport) : Json :=
  let kind := match report.kind with
    | some kind => [("kind", Json.string kind.name)]
    | none => []
  .object ([
    ("name", .string report.definition.name),
    ("artifact_id", .string report.definition.artifact),
    ("defining_loader", .string (Text.hex report.definition.definer.number)),
    ("source", .string report.definition.origin.text),
    ("size", .number report.definition.bytes.length)] ++ kind)

/-- A report as lines of text. -/
def text (report : ClassReport) : String :=
  (report.kind.getD .ordinary).name ++ " " ++ report.definition.name ++ "\n" ++
    "  Artifact: " ++ report.definition.artifact ++ "\n" ++
    "  Loader:   " ++ Text.hex report.definition.definer.number ++ "\n" ++
    "  Source:   " ++ report.definition.origin.text ++ "\n" ++
    "  Size:     " ++ toString report.definition.bytes.length ++ " bytes\n"

end ClassReport

/-- The report of a class. -/
def classReport (json : Bool) (definition : Definition) : String :=
  if json then jsonReport (ClassReport.of definition).toJson else (ClassReport.of definition).text

/-- The report of the resources with a name. -/
def resourceReport (json : Bool) (name : String) (locators : List Locator) : String :=
  if json then jsonReport (.array (locators.map fun locator => .string locator.text))
  else
    match locators with
    | [] => noResource name ++ ".\n"
    | _ :: _ => .join (locators.map fun locator => locator.text ++ "\n")

/-- An entry of a classpath, whether it is a class file, and whether it is exported. -/
structure EntryReport where
  name : String
  isClass : Bool
  exported : Bool

namespace EntryReport

/-- The report of the entry with a name; a class file is exported if its class is. -/
def of (exports : Exports) (name : String) : EntryReport :=
  match ClassName.ofClassFile? name with
  | some className => ⟨name, true, exports.admitsClass className⟩
  | none => ⟨name, false, exports.admitsResource name⟩

/-- What kind of entry it is. -/
def kind (report : EntryReport) : String :=
  if report.isClass then "class" else "resource"

/-- A report as a JSON value. -/
def toJson (report : EntryReport) : Json :=
  .object [("entry", .string report.name), ("kind", .string report.kind),
    ("exported", .boolean report.exported)]

/-- A report as a row of a table. -/
def row (report : EntryReport) : List String :=
  [report.name, report.kind, if report.exported then "true" else "false"]

end EntryReport

/-- The entries of a classpath, all of them or only the exported ones. -/
def entryReports (exports : Exports) (onlyExported : Bool) (names : List String) :
    List EntryReport :=
  (names.map (EntryReport.of exports)).filter fun report => report.exported || !onlyExported

/-- Entries as a table. -/
def entryTable (reports : List EntryReport) : String :=
  match reports with
  | [] => "No entries.\n"
  | _ :: _ =>
    (Text.Table.mk ["Entry", "Kind", "Exported"] (reports.map (·.row))).render ++ "\n"

/-- The services of an artifact, if there are any. -/
def serviceLines (services : Service.Table) : String :=
  match services.bindings with
  | [] => ""
  | bindings => "\nExported services:\n" ++ .join (bindings.map fun binding =>
      "  " ++ binding.interfaceName ++ " -> " ++ binding.locator.text ++ "\n")

/-- The report of the entries of a classpath; as text it tells the services too. -/
def listReport (json : Bool) (reports : List EntryReport) (services : Service.Table) : String :=
  if json then jsonReport (.array (reports.map (·.toJson)))
  else entryTable reports ++ serviceLines services

end Isolation.CommandLine
