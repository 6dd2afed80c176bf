import SparkGateway.Fault
import SparkGateway.Text.Casing

/-!
# States of a session

A session starts, waits for statements or runs one, and ends.  The gateway writes the state as a word,
in any case and possibly with blanks around it.

Main statements: `parse_word` (every state is read back from its word) and `ready_or_over_or_starting`
(what a session that is waited for may be).
-/

namespace SparkGateway.Session

/-- The states of a session. -/
inductive State where
  /-- It does not exist yet. -/
  | notStarted
  /-- It is being started. -/
  | starting
  /-- It waits for statements. -/
  | idle
  /-- It runs a statement. -/
  | busy
  /-- It is on its way to an end. -/
  | shuttingDown
  /-- It has met an error. -/
  | error
  /-- It has ended. -/
  | dead
  /-- It was killed. -/
  | killed
  /-- It has come to a good end. -/
  | success
  /-- It is taken over after a restart of the gateway. -/
  | recovering
  deriving DecidableEq, Repr

namespace State

/-- All states. -/
def all : List State :=
  [notStarted, starting, idle, busy, shuttingDown, error, dead, killed, success, recovering]

/-- The word for a state. -/
def word : State → String
  | notStarted => "not_started"
  | starting => "starting"
  | idle => "idle"
  | busy => "busy"
  | shuttingDown => "shutting_down"
  | error => "error"
  | dead => "dead"
  | killed => "killed"
  | success => "success"
  | recovering => "recovering"

/-- The state with a word. -/
def ofWord? (word : String) : Option State := all.find? fun s => s.word == word

/-- The state that a value names, whatever its case and the blanks around it. -/
def parse (v : Json) : Except Fault State :=
  match ofWord? (Text.lower (Text.trim v.display)) with
  | some s => .ok s
  | none =>
    let shown := v.written
    .error (.malformed s!"Unknown session state {shown}" none none)

/-- Whether a session in this state has been started. -/
def isStarted : State → Bool
  | starting | notStarted => false
  | _ => true

/-- Whether a session in this state is stopped, or about to be. -/
def isStopped : State → Bool
  | shuttingDown | notStarted | dead => true
  | _ => false

/-- Whether this state is an end that does not count as stopped. -/
def isFinal : State → Bool
  | error | killed | success => true
  | _ => false

/-- Whether a session in this state takes statements. -/
def isRunnable : State → Bool
  | idle | busy => true
  | _ => false

theorem parse_word (s : State) : parse (.str s.word) = .ok s := by
  have h : ofWord? (Text.lower (Text.trim s.word)) = some s := by
    cases s <;> decide +kernel
  simp [parse, Json.display, h]

/-- A session takes statements, or is over, or is still starting. -/
theorem ready_or_over_or_starting (s : State) :
    s.isRunnable = true ∨ (s.isStopped || s.isFinal) = true ∨ s = .starting ∨ s = .recovering := by
  cases s <;> simp [isRunnable, isStopped, isFinal]

end State

end SparkGateway.Session
