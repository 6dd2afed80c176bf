import SparkGateway.Command.Numbers
import SparkGateway.Command.Words
import SparkGateway.Session.Basic
import SparkGateway.Text.Casing

/-!
# Grammar of the command line

The program has two groups of commands, one for batches and one for sessions.  Options of the program
stand before the group, options of the group before the command, and those of the command after it.

Main statement: `kindWord_name` (a dialect is found under its own name).
-/

namespace SparkGateway.Command

/-- A whole number in a word. -/
def wholeWord (word : String) : Except Refused Int :=
  match wholeNumber? word with
  | some n => .ok n
  | none => .error .unreadable

/-- A whole number in each of some words. -/
def wholeWords (words : List String) : Except Refused (List Int) := words.mapM wholeWord

/-- A number in a word. -/
def realWord (word : String) : Except Refused Number :=
  match realNumber? word with
  | some x => .ok (.real x)
  | none => .error .unreadable

/-- A value in a word that may be missing. -/
def optional {α : Type} (read : String → Except Refused α) :
    Option String → Except Refused (Option α)
  | none => .ok none
  | some word => (read word).map some

/-- The only argument of a command. -/
def onlyArgument (r : Reading) : Except Refused String :=
  match r.arguments with
  | [word] => .ok word
  | _ => .error .unreadable

/-- The options of a group. -/
structure GroupOptions where
  /-- The address of the gateway. -/
  url : Option String
  /-- How often an operation is tried. -/
  attempts : Option Int
  /-- The pause between two attempts. -/
  pause : Option Number

/-- The groups of commands. -/
inductive Group where
  /-- The commands for batches. -/
  | batches
  /-- The commands for sessions. -/
  | sessions
  deriving DecidableEq, Repr

/-- The commands of a group. -/
def Group.commands : Group → List String
  | batches => ["list", "submit", "status", "logs", "kill", "wait", "driver", "containers"]
  | sessions => ["run", "kill"]

/-- The group with a name. -/
def Group.ofName? (name : String) : Option Group :=
  if name = "batches" then some .batches
  else if name = "sessions" then some .sessions
  else none

/-- A command that has been found: what stands before its own words has been read. -/
structure Invocation where
  /-- Whether everything in the log is shown. -/
  verbose : Bool
  /-- The group of the command. -/
  group : Group
  /-- The options of the group. -/
  options : GroupOptions
  /-- The name of the command. -/
  command : String
  /-- The words of the command itself. -/
  words : List String

/-- The options of the program. -/
def programFlags : List Flag := [⟨"verbose", "--verbose", some 'v', false⟩]

/-- The options of both groups. -/
def groupFlags : List Flag :=
  [⟨"url", "--url", some 'u', true⟩, ⟨"retries", "--retries", none, true⟩,
    ⟨"delay", "--delay", none, true⟩]

/-- The options of a group in what was read. -/
def groupOptions (r : Reading) : Except Refused GroupOptions := do
  let attempts ← optional wholeWord (r.value? "retries")
  let pause ← optional realWord (r.value? "delay")
  return ⟨r.value? "url", attempts, pause⟩

/-- What becomes of words that start with no known command: they are read once more from the start, so
that a word for help is understood also after the end of the options, and are refused otherwise. -/
def unknownCommand {α : Type} (flags : List Flag) (words : List String) : Except Refused α := do
  let _ ← readOrHelp flags false words
  throw .unreadable

/-- Reads the words of a group. -/
def readGroup (verbose : Bool) (group : Group) (words : List String) :
    Except Refused Invocation := do
  let r ← readOrHelp groupFlags false words
  let options ← groupOptions r
  match r.arguments with
  | [] => throw .help
  | command :: rest =>
    if group.commands.contains command then return ⟨verbose, group, options, command, rest⟩
    unknownCommand groupFlags r.arguments

/-- Reads a command line as far as the name of the command. -/
def find (words : List String) : Except Refused Invocation := do
  let r ← readOrHelp programFlags false words
  match r.arguments with
  | [] => throw .unreadable
  | name :: rest =>
    match Group.ofName? name with
    | some group => readGroup (r.has "verbose") group rest
    | none => unknownCommand programFlags r.arguments

/-- What is to be submitted, as it is said on the command line. -/
structure SubmitOptions where
  /-- The application file. -/
  file : String
  /-- The main class. -/
  className : Option String
  /-- The arguments of the application. -/
  args : List String
  /-- Archives of classes. -/
  jars : List String
  /-- Modules for an interpreter. -/
  pyFiles : List String
  /-- Further settings. -/
  conf : List String
  /-- The name of the batch. -/
  name : Option String
  /-- The queue. -/
  queue : Option String
  /-- Whether the log is followed. -/
  logs : Bool
  /-- Whether the end of the batch is waited for. -/
  watch : Bool
  deriving DecidableEq, Repr

/-- The commands for batches. -/
inductive BatchCommand where
  /-- Lists all batches. -/
  | list
  /-- Submits a batch. -/
  | submit (options : SubmitOptions)
  /-- Shows the state of a batch. -/
  | status (id : Int)
  /-- Shows the log of a batch, all at once or as it comes. -/
  | logs (id : Int) (whole : Bool)
  /-- Kills batches, possibly after a question. -/
  | kill (ids : List Int) (confirm : Bool)
  /-- Waits for batches. -/
  | wait (ids : List Int)
  /-- Shows where the driver of a batch runs. -/
  | driver (id : Int)
  /-- Lists the containers of a batch. -/
  | containers (id : Int)
  deriving DecidableEq, Repr

/-- The options of a submission. -/
def submitFlags : List Flag :=
  [⟨"class", "--class", some 'c', true⟩, ⟨"arg", "--arg", some 'a', true⟩,
    ⟨"jar", "--jar", none, true⟩, ⟨"py-file", "--py-file", none, true⟩,
    ⟨"conf", "--conf", none, true⟩, ⟨"name", "--name", none, true⟩,
    ⟨"queue", "--queue", some 'q', true⟩, ⟨"logs", "--logs", some 'l', false⟩,
    ⟨"watch", "--watch", some 'w', false⟩]

/-- The submission in what was read. -/
def submitOptions (r : Reading) : Except Refused SubmitOptions := do
  return {
    file := ← onlyArgument r
    className := r.value? "class"
    args := r.values "arg"
    jars := r.values "jar"
    pyFiles := r.values "py-file"
    conf := r.values "conf"
    name := r.value? "name"
    queue := r.value? "queue"
    logs := r.has "logs"
    watch := r.has "watch" }

/-- The options that turn the question before a kill on and off; the last one counts. -/
def confirmFlags : List Flag :=
  [⟨"confirm", "--confirm", none, false⟩, ⟨"no-confirm", "--no-confirm", none, false⟩]

/-- Whether there is a question before a kill. -/
def wantsConfirm (r : Reading) : Bool :=
  match r.options.getLast? with
  | some g => g.name == "confirm"
  | none => true

/-- Reads a command whose only word is the number of a batch or session. -/
def readNumber (words : List String) : Except Refused Int := do
  wholeWord (← onlyArgument (← readOrHelp [] true words))

/-- Reads the words of a command for batches. -/
def readBatch (command : String) (words : List String) : Except Refused BatchCommand :=
  match command with
  | "list" => do
    let r ← readOrHelp [] true words
    if r.arguments.isEmpty then return .list else throw .unreadable
  | "submit" => do
    return .submit (← submitOptions (← readOrHelp submitFlags true words))
  | "status" => do return .status (← readNumber words)
  | "logs" => do
    let r ← readOrHelp [⟨"all", "--all", none, false⟩] true words
    return .logs (← wholeWord (← onlyArgument r)) (r.has "all")
  | "kill" => do
    let r ← readOrHelp confirmFlags true words
    return .kill (← wholeWords r.arguments) (wantsConfirm r)
  | "wait" => do
    let r ← readOrHelp [] true words
    if r.arguments.isEmpty then throw .unreadable
    return .wait (← wholeWords r.arguments)
  | "driver" => do return .driver (← readNumber words)
  | "containers" => do return .containers (← readNumber words)
  | _ => .error .unreadable

/-- The commands for sessions. -/
inductive SessionCommand where
  /-- Runs code in a session of its own. -/
  | run (code : Option String) (kind : Session.Kind) (name : Option String)
  /-- Kills a session. -/
  | kill (id : Int)
  deriving DecidableEq, Repr

/-- A word without regard to case: also the old long form of the letter s is one. -/
def foldCase (word : String) : String :=
  String.ofList ((Text.lowerChars word.toList).map fun c => if c = 'ſ' then 's' else c)

/-- The dialect in a word, in any case. -/
def kindWord (word : String) : Except Refused Session.Kind :=
  match Session.Kind.ofName? (foldCase word) with
  | some kind => .ok kind
  | none => .error .unreadable

/-- The options of a run. -/
def runFlags : List Flag :=
  [⟨"file", "--file", some 'f', true⟩, ⟨"kind", "--kind", some 'k', true⟩,
    ⟨"name", "--name", none, true⟩]

/-- The text with every kind of line break written as a line feed. -/
def plainLines : List Char → List Char
  | '\r' :: '\n' :: rest => '\n' :: plainLines rest
  | '\r' :: rest => '\n' :: plainLines rest
  | c :: rest => c :: plainLines rest
  | [] => []

/-- Whether a step on the way to a file leads somewhere else. -/
def isProperStep (step : List Char) : Bool := step != [] && step != ['.']

/-- The name of a file without steps on the way to it that lead nowhere. -/
def fileName (word : String) : String :=
  let steps := (word.toList.splitOn '/').filter isProperStep
  let way := String.ofList (List.intercalate ['/'] steps)
  if word.toList.head? = some '/' then "/" ++ way
  else if steps.isEmpty then "."
  else way

/-- The text of a file that has to be there. -/
def fileWord (files : String → Option String) (word : String) : Except Refused String :=
  match files (fileName word) with
  | some text => .ok (String.ofList (plainLines text.toList))
  | none => .error .unreadable

/-- The code in what was read: that of the file if there is one, and else the argument. -/
def codeOf (files : String → Option String) (r : Reading) : Except Refused (Option String) := do
  let fromFile ← optional (fileWord files) (r.value? "file")
  match r.arguments with
  | [] => return fromFile
  | [code] => return some (fromFile.getD code)
  | _ => throw .unreadable

/-- Reads the words of a command for sessions; `files` says what files hold. -/
def readSession (files : String → Option String) (command : String) (words : List String) :
    Except Refused SessionCommand :=
  match command with
  | "run" => do
    let r ← readOrHelp runFlags true words
    let code ← codeOf files r
    let kind ← optional kindWord (r.value? "kind")
    return .run code (kind.getD .pyspark) (r.value? "name")
  | "kill" => do return .kill (← readNumber words)
  | _ => .error .unreadable

/-- The file that a command reads its code from. -/
def Invocation.file? (i : Invocation) : Option String :=
  if i.group = .sessions ∧ i.command = "run" then
    (readOrHelp runFlags true i.words).toOption.bind fun r => (r.value? "file").map fileName
  else none

/-- A dialect is found under its own name. -/
theorem kindWord_name (kind : Session.Kind) : kindWord kind.name = .ok kind := by
  have h : Session.Kind.ofName? (foldCase kind.name) = some kind := by
    cases kind <;> decide +kernel
  simp [kindWord, h]

end SparkGateway.Command
