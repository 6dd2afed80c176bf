import SparkGateway.Fault
import SparkGateway.Text.Casing

/-!
# States of a batch

A batch is scheduled, runs and comes to one of four ends.  The gateway writes the state as a word, in
any case and possibly with blanks around it.

Main statements: `parse_word` (every state is read back from its word) and `not_preRun_of_done`.
-/

namespace SparkGateway.Batch

/-- The states of a batch. -/
inductive State where
  /-- It has been accepted and nothing more. -/
  | notStarted
  /-- It is being scheduled. -/
  | starting
  /-- It runs. -/
  | running
  /-- It has come to a good end. -/
  | success
  /-- It has failed. -/
  | dead
  /-- It was killed. -/
  | killed
  /-- It is taken over after a restart of the gateway. -/
  | recovering
  /-- It is at work for somebody. -/
  | busy
  /-- It waits for work. -/
  | idle
  /-- It has met an error. -/
  | error
  /-- It is on its way to an end. -/
  | shuttingDown
  deriving DecidableEq, Repr

namespace State

/-- All states. -/
def all : List State :=
  [notStarted, starting, running, success, dead, killed, recovering, busy, idle, error, shuttingDown]

/-- The word for a state. -/
def word : State → String
  | notStarted => "not_started"
  | starting => "starting"
  | running => "running"
  | success => "success"
  | dead => "dead"
  | killed => "killed"
  | recovering => "recovering"
  | busy => "busy"
  | idle => "idle"
  | error => "error"
  | shuttingDown => "shutting_down"

/-- The state with a word. -/
def ofWord? (word : String) : Option State := all.find? fun s => s.word == word

/-- The state that a text names, whatever its case and the blanks around it. -/
def parse (text : String) : Except Fault State :=
  match ofWord? (Text.lower (Text.trim text)) with
  | some s => .ok s
  | none =>
    let shown := Text.quoted text
    .error (.malformed s!"Unknown batch state {shown}" none none)

/-- Whether a batch in this state has come to its end. -/
def isDone : State → Bool
  | success | dead | killed | error => true
  | _ => false

/-- Whether a batch in this state has not run yet. -/
def isPreRun : State → Bool
  | notStarted | starting => true
  | _ => false

theorem ofWord?_word (s : State) : ofWord? s.word = some s := by
  cases s <;> decide

theorem parse_word (s : State) : parse s.word = .ok s := by
  have h : ofWord? (Text.lower (Text.trim s.word)) = some s := by
    cases s <;> decide +kernel
  simp [parse, h]

/-- A batch that has come to its end is not one that has not run yet. -/
theorem not_preRun_of_done (s : State) (h : s.isDone = true) : s.isPreRun = false := by
  revert h
  cases s <;> decide

end State

end SparkGateway.Batch
