/-!
# Arguments of the command line

Arguments are read from left to right, and the first that makes no sense, or asks for help or for
the version, decides. Options may stand before and after the name of the task: once at either place,
and the one after it counts. After `--` every argument is an operand.
-/

namespace Isolation.CommandLine

/-- What can be asked for by name. -/
inductive Verb where
  | loadClass
  | resource
  | resources
  | findResource
  | list
  | cat
  | help
  deriving DecidableEq

/-- The word for a task. -/
def Verb.word : Verb → String
  | loadClass => "load-class"
  | resource => "resource"
  | resources => "resources"
  | findResource => "find-resource"
  | list => "list"
  | cat => "cat"
  | help => "help"

/-- All that can be asked for. -/
def Verb.all : List Verb :=
  [loadClass, resource, resources, findResource, list, cat, help]

/-- What a word asks for. -/
def Verb.ofWord? (word : String) : Option Verb :=
  all.find? fun verb => verb.word == word

/-- What is to be done. -/
inductive Task where
  | loadClass (name : String)
  | resource (name : String)
  | resources (name : String)
  | findResource (name : String)
  | list (onlyExported : Bool)
  | cat (name : String)
  deriving DecidableEq

/-- Options that hold for every task. -/
structure Options where
  manifest : Option String := none
  services : Option String := none
  json : Bool := false
  deriving DecidableEq

/-- A command line that asks for a task. -/
structure Request where
  options : Options
  task : Task
  deriving DecidableEq

/-- Why a command line asks for no task. -/
inductive Stop where
  | version
  | help
  | misuse
  deriving DecidableEq

/-- How one argument reads by itself. -/
inductive Word where
  | separator
  | long (name : String) (value : Option String)
  | short (flag : Char)
  | plain (text : String)

/-- How an argument reads: a lone dash is plain text, and what follows the first flag of a group has
no say. -/
def Word.ofArgument (argument : String) : Word :=
  match argument.toList with
  | ['-', '-'] => separator
  | '-' :: '-' :: rest =>
    match rest.dropWhile (· ≠ '=') with
    | _ :: value => long (.ofList (rest.takeWhile (· ≠ '='))) (some (.ofList value))
    | [] => long (.ofList rest) none
  | '-' :: flag :: _ => short flag
  | _ => plain argument

/-- Options that take a value. -/
inductive Setting where
  | manifest
  | services
  deriving DecidableEq

namespace Options

/-- Sets a value, which may not be empty, once. -/
def set (options : Options) (setting : Setting) (value : String) : Except Stop Options :=
  if value = "" then .error .misuse
  else
    match setting with
    | .manifest =>
      if options.manifest.isSome then .error .misuse
      else .ok { options with manifest := some value }
    | .services =>
      if options.services.isSome then .error .misuse
      else .ok { options with services := some value }

/-- Asks for JSON, once. -/
def setJson (options : Options) : Except Stop Options :=
  if options.json then .error .misuse else .ok { options with json := true }

/-- The options before a task with those after it, which count first. -/
def override (before after : Options) : Options where
  manifest := after.manifest.or before.manifest
  services := after.services.or before.services
  json := after.json || before.json

end Options

/-- What has been read so far: the options before the task, what is asked for, the options after it
and its operands, an option that waits for its value, and whether all that follows is operands. -/
structure Reading where
  before : Options := {}
  verb : Option Verb := none
  after : Options := {}
  onlyExported : Bool := false
  operand : Option String := none
  waiting : Option Setting := none
  literal : Bool := false

namespace Reading

/-- Changes the options at the place that has been reached. -/
def change (reading : Reading) (f : Options → Except Stop Options) : Except Stop Reading :=
  match reading.verb with
  | none => do return { reading with before := ← f reading.before }
  | some _ => do return { reading with after := ← f reading.after }

/-- Takes the value of an option. -/
def setValue (reading : Reading) (setting : Setting) (value : String) : Except Stop Reading :=
  ({ reading with waiting := none }).change (·.set setting value)

/-- Takes an option that needs a value, attached or yet to come. -/
def takeSetting (reading : Reading) (setting : Setting) : Option String → Except Stop Reading
  | some value => reading.setValue setting value
  | none => .ok { reading with waiting := some setting }

/-- Takes an option by its name. -/
def takeOption (reading : Reading) (name : String) (value : Option String) : Except Stop Reading :=
  match name, value with
  | "config", value => reading.takeSetting .manifest value
  | "descriptor-dir", value => reading.takeSetting .services value
  | "json", none => reading.change (·.setJson)
  | "exported", none =>
    if reading.verb = some .list ∧ reading.onlyExported = false then
      .ok { reading with onlyExported := true }
    else .error .misuse
  | "help", none => .error .help
  | "version", none => .error (if reading.verb = none then .version else .misuse)
  | _, _ => .error .misuse

/-- Takes a flag of one letter. -/
def takeFlag (reading : Reading) (flag : Char) : Except Stop Reading :=
  if flag = 'h' then .error .help
  else if flag = 'V' ∧ reading.verb = none then .error .version
  else .error .misuse

/-- Takes an operand: the name that a task is about. -/
def takeOperand (reading : Reading) (text : String) : Except Stop Reading :=
  if reading.operand.isSome then .error .misuse
  else
    match reading.verb with
    | none => .error .misuse
    | some .list => .error .misuse
    | some .help =>
      if (Verb.ofWord? text).isSome then .ok { reading with operand := some text }
      else .error .misuse
    | some _ => .ok { reading with operand := some text }

/-- Takes plain text: the name of a task, or an operand. -/
def takeText (reading : Reading) (text : String) : Except Stop Reading :=
  match reading.verb, Verb.ofWord? text with
  | none, some verb => .ok { reading with verb := some verb, literal := verb == .help }
  | _, _ => reading.takeOperand text

/-- Takes the next argument. -/
def take (reading : Reading) (argument : String) : Except Stop Reading :=
  if reading.literal then reading.takeOperand argument
  else
    match Word.ofArgument argument, reading.waiting with
    | .plain text, some setting => reading.setValue setting text
    | .plain text, none => reading.takeText text
    | .separator, none => .ok { reading with literal := true }
    | .long name value, none => reading.takeOption name value
    | .short flag, none => reading.takeFlag flag
    | _, some _ => .error .misuse

/-- The task that has been read. -/
def task (reading : Reading) : Except Stop Task :=
  match reading.verb, reading.operand with
  | some .list, _ => .ok (.list reading.onlyExported)
  | some .loadClass, some name => .ok (.loadClass name)
  | some .resource, some name => .ok (.resource name)
  | some .resources, some name => .ok (.resources name)
  | some .findResource, some name => .ok (.findResource name)
  | some .cat, some name => .ok (.cat name)
  | some .help, _ => .error .help
  | _, _ => .error .misuse

/-- What the arguments ask for when there are no more. -/
def finish (reading : Reading) : Except Stop Request :=
  if reading.waiting.isSome then .error .misuse
  else reading.task.map fun task => ⟨reading.before.override reading.after, task⟩

end Reading

/-- What a command line asks for. -/
def Request.ofArguments (arguments : List String) : Except Stop Request := do
  (← arguments.foldlM Reading.take {}).finish

end Isolation.CommandLine
