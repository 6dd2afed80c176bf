import SparkGateway.Command.Basic
import SparkGateway.Session.Work

/-!
# Commands for sessions

Running code in a session that exists only for that code, and killing a session.
-/

namespace SparkGateway.Command

open Terminal

variable {σ : Type}

/-- The name of a session that is given none. -/
def defaultName : String := "livyops"

/-- A session behind the gateway of some settings. -/
def sessionOf (s : Settings) (name : String) (kind : Session.Kind) : Session Number :=
  Session.behind s.sessionsBase name kind Session.defaultDeadline Session.defaultPause

/-- Creates a session, runs code in it and closes it again. -/
def runWithin (session : Session Number) (code : String) : Run Session.Memory Number Json.Named :=
  session.within do
    session.create
    let id := (← session.number).repr
    showInfo s!"Session {id} created, waiting until it is ready..."
    session.runCode code

/-- Runs code in a session of its own and shows its output. -/
def runCode (s : Settings) (code : Option String) (kind : Session.Kind) (name : Option String) :
    Run σ Number Unit := do
  let code := code.getD ""
  if Text.isBlankText code then exitError "Nothing to run: pass code or --file" 1
  let name := name.getD ""
  let session := sessionOf s (if name.isEmpty then defaultName else name) kind
  let data ← orExit (Run.withMemory {} (runWithin session code))
  showOutput data

/-- Kills a session. -/
def killSession (s : Settings) (id : Int) : Run σ Number Unit := do
  let session := sessionOf s (Session.attachedName id) .spark
  orExit (Run.withMemory (Session.Memory.attached id) session.kill)
  let number := id.repr
  showSuccess s!"Session {number} killed"

/-- Carries out a command for sessions. -/
def performSession (s : Settings) : SessionCommand → Run σ Number Unit
  | .run code kind name => runCode s code kind name
  | .kill id => killSession s id

end SparkGateway.Command
