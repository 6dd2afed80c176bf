import SparkGateway.Batch.Snapshot
import SparkGateway.Batch.State
import SparkGateway.Exchange
import SparkGateway.Json.Named
import SparkGateway.Terminal.Markup

/-!
# Reports

What the commands tell the person at the terminal: remarks of four kinds, named values, lines of logs,
tables and the output of statements; and the ways in which a command ends with a report.
-/

namespace SparkGateway.Terminal

variable {σ τ α : Type}

/-- Shows a line of markup. -/
def showLine (markup : String) : Run σ τ Unit := Run.display (.line markup)

/-- Shows that work goes on. -/
def showStatus (message : String) : Run σ τ Unit := Run.display (.status message)

/-- Shows a remark. -/
def showInfo (message : String) : Run σ τ Unit := showLine s!"[title]›[/] {message}"

/-- Shows that something has gone well. -/
def showSuccess (message : String) : Run σ τ Unit := showLine s!"[ok]✓[/] {message}"

/-- Shows a warning. -/
def showWarning (message : String) : Run σ τ Unit := showLine s!"[warn]⚠[/] {message}"

/-- Shows an error. -/
def showError (message : String) : Run σ τ Unit :=
  let shown := escape message
  showLine s!"[err]✗[/] {shown}"

/-- Shows named values, one to a line. -/
def showNamed : Json.Named → Run σ τ Unit
  | [] => return
  | (name, v) :: rest => do
    let label := name.display
    let shown := escape v.display
    showLine s!"[meta]{label}[/]: {shown}"
    showNamed rest

/-- Shows fields, one to a line. -/
def showFields (fields : Json.Fields) : Run σ τ Unit := showNamed (.ofFields fields)

/-- The markup of a line of a log. -/
def logMarkup (severity : Severity) (line : String) : String :=
  let shown := escape line
  match severity with
  | .error => s!"[err]{shown}[/]"
  | .log => shown

/-- Shows a line of a log. -/
def showLogLine (severity : Severity) (line : String) : Run σ τ Unit :=
  showLine (logMarkup severity line)

/-- Shows the lines of a log. -/
def showLogLines : List String → Run σ τ Unit
  | [] => return
  | line :: lines => do
    showLogLine .log line
    showLogLines lines

/-- Shows an item of a log that is followed. -/
def showItem : Item → Run σ τ Unit
  | .line severity text => showLogLine severity text
  | .container host id => showLine s!"{host} {id}"

/-- Asks for yes or no. -/
def askYes (message : String) (default : Bool) : Run σ τ Bool := do
  showLine "[meta]Use y/n then Enter[/]"
  Run.confirm s!"[livyops] {message}" default

/-- A cell of a table: only text can be drawn. -/
def cellText : Option Json → Except Misfit String
  | none => .ok ""
  | some (.str s) => .ok s
  | some _ => .error .notDrawable

/-- The row of a batch. -/
def batchRow (s : Batch.Snapshot) : Except Misfit (List String) := do
  let state := s.state.getD ""
  let shown := if state.isEmpty then "-" else state
  return [s.id.repr, styledState state shown, ← cellText s.application]

/-- The title of a table of batches, unless there is another one. -/
def batchesTitle : String := "Batches"

/-- Shows a table of batches. -/
def showBatches (batches : List Batch.Snapshot) (title : String) : Run σ τ Unit := do
  let rows ← Run.ofMisfit (batches.mapM batchRow)
  Run.display (.table title ["Batch ID", "State", "Application ID"] rows)

/-- The end of a batch: its number, the word for its state, and what was said about it. -/
structure Ending where
  /-- The number of the batch. -/
  id : Int
  /-- The word for its last state. -/
  state : String
  /-- What was said about its end. -/
  diagnostics : String
  deriving DecidableEq, Repr

/-- The row of the end of a batch. -/
def endingRow (e : Ending) : List String :=
  [e.id.repr, styledState e.state e.state, escape e.diagnostics]

/-- The title of a table of ends, unless there is another one. -/
def endingsTitle : String := "Batch results"

/-- Shows a table of the ends of batches. -/
def showEndings (endings : List Ending) (title : String) : Run σ τ Unit :=
  Run.display (.table title ["Batch ID", "State", "Diagnostics"] (endings.map endingRow))

/-- The title of a table of containers, unless there is another one. -/
def containersTitle : String := "Containers"

/-- Shows a table of containers, each with its host. -/
def showContainers (containers : List (String × String)) (title : String) : Run σ τ Unit :=
  Run.display (.table title ["Container ID", "Host"] (containers.map fun c => [c.2, c.1]))

/-- Shows the output of a statement: its plain text if it has one, and all of it otherwise. -/
def showOutput (data : Json.Named) : Run σ τ Unit :=
  match (data.get? "text/plain").getD .null with
  | .null => showNamed data
  | text => showLine (escape text.display)

/-- Ends the program. -/
def exitWith (code : Int) : Run σ τ α := Run.stop (.exit code)

/-- Ends the program well, with a remark if there is anything to say. -/
def exitOk (message : String) : Run σ τ α := do
  if !message.isEmpty then showInfo message
  exitWith 0

/-- Ends the program with an error. -/
def exitError (message : String) (code : Int) : Run σ τ α := do
  showError message
  exitWith code

/-- Ends the program with a warning. -/
def exitWarning (message : String) (code : Int) : Run σ τ α := do
  showWarning message
  exitWith code

end SparkGateway.Terminal
