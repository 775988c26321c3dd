import Isolation.CommandLine.Session

/-!
# The program

Brings the files that a run may look at from the disk into a file tree, runs the command line on it,
and writes back what the run changed. Everything is decided by `Isolation.CommandLine.run`.
-/

namespace Isolation.CommandLine

/-- Puts what stands at an absolute path into a tree, with everything under it. What cannot be read
is left out. -/
partial def gather (files : FileTree) (path : String) : IO FileTree := do
  try
    let place ← IO.FS.realPath path
    if ← place.isDir then
      let mut grown := (files.ensureDirectory (.ofString path)).1
      for entry in ← place.readDir do
        grown ← gather grown (path ++ "/" ++ entry.fileName)
      return grown
    let content ← IO.FS.readBinFile place
    let grown := (Service.ensureParent files (.ofString path)).1
    match grown.write (.ofString path) content.toList with
    | .ok written => return written
    | .error _ => return grown
  catch _ => return files

/-- Puts what stands at a path into a tree; a relative path starts at the working directory. -/
def gatherPath (working : String) (files : FileTree) (path : Path) : IO FileTree :=
  match ((Path.ofString working).join path).toString? with
  | some absolute => gather files absolute
  | none => pure files

/-- The files that a request looks at. -/
def gatherFor (surroundings : Surroundings) (working : String) (request : Request) :
    IO FileTree := do
  let start := (FileTree.empty.ensureDirectory (.ofString working)).1
  let start := match start.resolve (.ofString working) with
    | .ok location => start.workingAt location
    | .error _ => start
  let start ← gatherPath working start surroundings.stateDirectory
  let files ← gatherPath working start request.manifestPath
  match Manifest.load files request.manifestPath with
  | .error _ => return files
  | .ok manifest =>
    (manifest.classpath ++ [request.serviceDirectory surroundings manifest]).foldlM
      (gatherPath working) files

/-- Writes what one tree has and another has not. -/
def writeChanges (before after : FileTree) : IO Unit := do
  for (location, node) in after.nodes do
    if before.node? location ≠ some node then
      match location.path.toString?, node with
      | some name, .directory => IO.FS.createDirAll name
      | some name, .file content => IO.FS.writeBinFile name ⟨content.toArray⟩
      | none, _ => pure ()

/-- An event as a line, if it is shown at all. -/
def eventLine? : Event → Option String
  | event@(.decided verbosity artifact kind name decision _) =>
    if verbosity.verbose then
      some ("INFO " ++ event.message ++ " artifact=" ++ artifact ++ " kind=" ++ kind.name ++
        " name=" ++ name ++ " decision=" ++ decision.text)
    else none
  | event@(.lateListener artifact) => some ("WARN " ++ event.message ++ " artifact=" ++ artifact)

/-- The log of today, in which events are the same lines as where they are shown. -/
def logOfToday : IO Log := do
  let written ← IO.FS.withTempFile fun _ path => do return (← path.metadata).modified
  return {
    day := .ofSeconds written.sec.toNat
    lines := fun events => Utf8.ofString (.join ((events.filterMap eventLine?).map (· ++ "\n"))) }

/-- Shows what a run leaves behind, and answers with its code. -/
def Outcome.finish (outcome : Outcome) : IO UInt32 := do
  for line in outcome.events.filterMap eventLine? do
    IO.eprintln line
  let output ← IO.getStdout
  output.write ⟨outcome.output.toArray⟩
  output.flush
  if let some failure := outcome.failure then
    IO.eprintln ("Error: " ++ failure.message)
  return UInt32.ofNat outcome.code

end Isolation.CommandLine

open Isolation Isolation.CommandLine in
/-- Runs the program. -/
def main (arguments : List String) : IO UInt32 := do
  let home := (← IO.getEnv "HOME").getD "."
  let surroundings : Surroundings := ⟨.ofString home, ← IO.getEnv Verbosity.variableName⟩
  match Request.ofArguments arguments with
  | .error stop => (stop.outcome .empty).finish
  | .ok request =>
    let working := toString (← IO.currentDir)
    let files ← gatherFor surroundings working request
    let outcome := request.run surroundings files (← logOfToday)
    writeChanges files outcome.files
    outcome.finish
