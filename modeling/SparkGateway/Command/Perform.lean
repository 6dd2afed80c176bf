import SparkGateway.Command.Batches
import SparkGateway.Command.Sessions

/-!
# Carrying out a command line

A command that has been found is carried out in three steps: its settings are checked, its own words are
read, and it is performed.
-/

namespace SparkGateway.Command

/-- The settings that a command works with, if they can be used. -/
def Invocation.settings (i : Invocation) (environment : List (String × String)) :
    Except Settings.Problem Settings :=
  (settingsFor environment i.options).checked

/-- Carries out a command; `files` says what files hold. -/
def Invocation.perform (i : Invocation) (environment : List (String × String))
    (files : String → Option String) : Run Pages Number Unit := do
  let s ← usableSettings environment i.options
  Run.remember (noPages s)
  match i.group with
  | .batches => performBatch s (← readable (readBatch i.command i.words))
  | .sessions => performSession s (← readable (readSession files i.command i.words))

end SparkGateway.Command
