import SparkGateway.Command.Grammar
import SparkGateway.Settings
import SparkGateway.Terminal.Report

/-!
# Running commands

What all commands have in common: the settings they work with, and what becomes of a failure.  A failure
in the work with the gateway is shown and ends the program with exit code 1, and so does an interruption
with exit code 130; everything else goes through.

Main statement: `orExit_ok` (work that gives a value is left alone).
-/

namespace SparkGateway.Command

open Terminal

/-- The settings for a command: those of the environment, with the options of the group in their
place. -/
def settingsFor (environment : List (String × String)) (o : GroupOptions) : Settings :=
  (Settings.ofEnvironment environment).overridden
    { address := o.url, attempts := o.attempts, pause := o.pause }

variable {σ τ α : Type}

/-- The settings for a command, once they have been checked. -/
def usableSettings (environment : List (String × String)) (o : GroupOptions) : Run σ τ Settings :=
  match (settingsFor environment o).checked with
  | .ok s => return s
  | .error problem => exitError problem.message 1

/-- The command line, once it has been read. -/
def readable : Except Refused α → Run σ τ α
  | .ok a => return a
  | .error e => exitWith e.code

/-- Shows the trace of a statement that has failed. -/
def showTrace : List Json → Run σ τ Unit
  | [] => return
  | .str line :: lines => do
    showLogLine .error (Text.trimEndWhere (· == '\n') line)
    showTrace lines
  | _ :: _ => Run.stop (.misfit .notText)

/-- Shows a fault. -/
def showFault : Fault → Run σ τ Unit
  | .statementFailed name value traceback => do
    showTrace traceback
    showError (Fault.statementFailed name value traceback).message
  | f => showError f.message

/-- Work whose failure ends the program. -/
def orExit (work : Run σ τ α) : Run σ τ α := do
  match ← work.attempt with
  | .ok a => return a
  | .error (.fault f) => do
    showFault f
    exitWith 1
  | .error .interrupted => do
    showError "Interrupted"
    exitWith 130
  | .error e => Run.stop e

/-- The exit code of a program: zero if its work gives a value, and one if the work fails in a way that
nobody has shown. -/
def exitCode : Except Stop α → Int
  | .ok _ => 0
  | .error (.exit code) => code
  | .error _ => 1

/-- Whether a remark is shown. -/
def showsNote (verbose : Bool) : Level → Bool
  | .warning => true
  | _ => verbose

/-- Work that gives a value is left alone. -/
theorem orExit_ok (work : Run σ τ α) (env : Surroundings τ) (w w' : World σ τ) (a : α)
    (h : work env w = (.ok a, w')) :
    orExit work env w = (.ok a, w') := by
  have hattempt : work.attempt env w = (.ok (.ok a), w') := by
    rw [Run.attempt_eq, h]
  unfold orExit
  rw [Run.bind_ok hattempt]
  rfl

end SparkGateway.Command
