import SparkGateway.Exchange

/-!
# Polling

An operation that may have nothing to give yet is tried again, with a pause between two attempts, until
it gives a value or the attempts are used up.  A service that could not be reached also counts as
nothing yet; every other failure, and every end of the work, goes through at once.

Main statement: `seek_eq_stop` (an operation that may not be tried at all is a misuse and makes no step).
-/

namespace SparkGateway

/-- How often an operation is tried, and how long the pauses are. -/
structure Polling (τ : Type) where
  /-- The greatest number of attempts. -/
  attempts : Int
  /-- The pause between two attempts. -/
  pause : τ

namespace Polling

variable {σ τ α : Type}

/-- What an operation is called that has no name of its own. -/
def anything : String := "complete the operation"

/-- One attempt: the value it gives, if any, and the last failure to reach the service, which is `last`
if this attempt is none. -/
def tryOnce (p : Polling τ) (what : String) (number : Int) (last : Option String)
    (operation : Run σ τ (Option α)) : Run σ τ (Option α × Option String) := do
  match ← operation.reachable with
  | .ok found => return (found, last)
  | .error message =>
    let count := number.repr
    let most := p.attempts.repr
    Run.note .debug s!"Attempt {count}/{most} to {what} failed: {message}"
    return (none, some message)

/-- As many attempts as are left. -/
def tries [Timeline τ] (p : Polling τ) (what : String) (operation : Run σ τ (Option α)) :
    Nat → Option String → Run σ τ α
  | 0, last => Run.fail (.exhausted what p.attempts last)
  | left + 1, last => do
    let (found, last) ← p.tryOnce what (p.attempts - left) last operation
    match found with
    | some a => return a
    | none => do
      if left ≠ 0 then Run.sleep p.pause
      p.tries what operation left last

/-- The value of an operation, which is tried until it gives one. -/
def seek [Timeline τ] (p : Polling τ) (what : String) (operation : Run σ τ (Option α)) :
    Run σ τ α :=
  if p.attempts < 1 then Run.stop (.misuse .noAttempts)
  else p.tries what operation p.attempts.toNat none

theorem seek_eq_stop [Timeline τ] (p : Polling τ) (what : String) (operation : Run σ τ (Option α))
    (h : p.attempts < 1) :
    p.seek what operation = Run.stop (.misuse .noAttempts) := by
  simp [seek, h]

end Polling

end SparkGateway
