import Isolation.Assembly
import Isolation.CommandLine.Arguments
import Isolation.CommandLine.Log
import Isolation.CommandLine.Report
import Isolation.Loader.ClassLookup
import Isolation.Loader.ResourceLookup

/-!
# Sessions

One run of the command line: the artifact is assembled from its manifest, asked once, and what comes
of it is printed. A run ends with the code 0, with 1 if it fails, and with 2 if its arguments make
no sense.
-/

namespace Isolation.CommandLine

/-- What a run finds around it: the home directory of the user, and the variable that turns reports
of decisions on. -/
structure Surroundings where
  home : Path
  verbose : Option String := none

/-- The directory for what is kept for a user. -/
def Surroundings.stateDirectory (surroundings : Surroundings) : Path :=
  surroundings.home.child ".artiscope"

/-- The directory for logs. -/
def Surroundings.logDirectory (surroundings : Surroundings) : Path :=
  surroundings.stateDirectory.child "logs"

/-- The file for the log of a day. -/
def Surroundings.logFile (surroundings : Surroundings) (day : Day) : Path :=
  surroundings.logDirectory.child day.logName

/-- Puts lines at the end of the log of a day, if it can be written. -/
def Surroundings.writeLog (surroundings : Surroundings) (files : FileTree) (day : Day)
    (lines : Bytes) : FileTree :=
  match files.append (surroundings.logFile day) lines with
  | .ok written => written
  | .error _ => files

/-- Opens the log of a day, which is made with its directory if it is missing. -/
def Surroundings.openLog (surroundings : Surroundings) (files : FileTree) (day : Day) : FileTree :=
  surroundings.writeLog (files.ensureDirectory surroundings.logDirectory).1 day []

/-- A character of an artifact's name as it stands in the name of a directory. -/
def directoryChar (c : Char) : Char :=
  if c.isAlphanum || c == '-' || c == '.' then c else '_'

/-- The directory for the descriptors of an artifact's services, unless another one is asked for. -/
def Surroundings.serviceDirectory (surroundings : Surroundings) (artifact : String) : Path :=
  (surroundings.stateDirectory.child "services").child
    (.ofList (artifact.toList.map directoryChar))

/-- The path of the manifest. -/
def Request.manifestPath (request : Request) : Path :=
  .ofString (request.options.manifest.getD "artifact.json")

/-- The directory for the descriptors of the services of the artifact. -/
def Request.serviceDirectory (request : Request) (surroundings : Surroundings)
    (manifest : Manifest) : Path :=
  match request.options.services with
  | some directory => .ofString directory
  | none => surroundings.serviceDirectory manifest.artifact

/-- Why a run fails. -/
inductive Failure where
  | assembly (error : AssemblyError)
  | lookup (error : LoadError)
  | noResource (name : String)

/-- What a failure says. -/
def Failure.message : Failure → String
  | assembly error => error.message
  | lookup error => error.message
  | noResource name => CommandLine.noResource name

/-- Asks an artifact; the answer is what is printed. -/
def Task.perform (files : FileTree) (json : Bool) (assembly : Assembly) :
    Task → Reported (Except Failure Bytes)
  | loadClass name =>
    (assembly.loader.loadClass files {} name).2.map fun answer =>
      (answer.mapError .lookup).map fun object =>
        Utf8.ofString (classReport json object.definition)
  | resource name =>
    (assembly.loader.getResource? files name).map fun found =>
      .ok (Utf8.ofString (resourceReport json name found.toList))
  | resources name =>
    (assembly.loader.getResources files name).map fun answer =>
      (answer.mapError .lookup).map fun found =>
        Utf8.ofString (resourceReport json name found)
  | findResource name =>
    ⟨.ok (Utf8.ofString
      (resourceReport json name (assembly.loader.findResource? files name).toList)), []⟩
  | list onlyExported =>
    let reports := entryReports assembly.wrapper.exports onlyExported (assembly.entries files)
    ⟨.ok (Utf8.ofString (listReport json reports assembly.wrapper.services)), []⟩
  | cat name =>
    (assembly.loader.getResource? files name).map fun
      | none => .error (.noResource name)
      | some locator => (assembly.read files locator).mapError .lookup

/-- What a run leaves behind: the code it ends with, what it prints, what it says about a failure,
what was reported on the way, and the files. -/
structure Outcome where
  code : Nat
  output : Bytes := []
  failure : Option Failure := none
  events : List Event := []
  files : FileTree

/-- The text for the version. -/
def versionText : String := "artiscope 0.1.0\n"

/-- The outcome of a command line that asks for no task. The texts that explain the usage, printed
for help and on misuse, are not part of it. -/
def Stop.outcome (files : FileTree) : Stop → Outcome
  | version => { code := 0, output := Utf8.ofString versionText, files := files }
  | help => { code := 0, files := files }
  | misuse => { code := 2, files := files }

/-- The outcome of asking an assembled artifact. -/
def Request.ask (request : Request) (files : FileTree) (assembly : Assembly) : Outcome :=
  let reported := request.task.perform files request.options.json assembly
  match reported.answer with
  | .ok output => { code := 0, output := output, events := reported.events, files := files }
  | .error failure =>
    { code := 1, failure := some failure, events := reported.events, files := files }

/-- Carries a request out: the artifact is assembled from its manifest and asked. -/
def Request.carryOut (surroundings : Surroundings) (files : FileTree) (request : Request) :
    Outcome :=
  match Manifest.load files request.manifestPath with
  | .error error => { code := 1, failure := some (.assembly error), files := files }
  | .ok manifest =>
    let attempt := manifest.assemble files (.ofVariable surroundings.verbose) ⟨1⟩
      (request.serviceDirectory surroundings manifest)
    match attempt.result with
    | .error error => { code := 1, failure := some (.assembly error), files := attempt.files }
    | .ok assembly => request.ask attempt.files assembly

/-- Runs a request. Its log is opened first and gets what was reported; a run that can keep no log
goes on without one. -/
def Request.run (surroundings : Surroundings) (files : FileTree) (request : Request)
    (log : Log := {}) : Outcome :=
  let outcome := request.carryOut surroundings (surroundings.openLog files log.day)
  { outcome with
    files := surroundings.writeLog outcome.files log.day (log.lines outcome.events) }

/-- Runs a command line. -/
def run (surroundings : Surroundings) (files : FileTree) (arguments : List String)
    (log : Log := {}) : Outcome :=
  match Request.ofArguments arguments with
  | .error stop => stop.outcome files
  | .ok request => request.run surroundings files log

end Isolation.CommandLine
