import SparkGateway.Json.Written
import SparkGateway.Text.Blank

/-!
# Faults

The ways in which work with the gateway fails, as causes; the wording of each is in one place.  A
connection that cannot be made is the one fault that a polling loop waits out; every other fault
reaches the caller at once.

Main statements: `snippet_length` (a body is cut to a bounded length in a message).
-/

namespace SparkGateway

/-- How many characters of a body a message shows. -/
def snippetLength : Nat := 500

/-- A body as a message shows it: without blanks around it, and cut if it is long. -/
def snippetChars (body : List Char) : List Char :=
  let s := Text.trimChars body
  if s.length ≤ snippetLength then s else s.take snippetLength ++ ['.', '.', '.']

/-- A body as a message shows it; a missing body shows nothing. -/
def snippet (body : Option String) : String :=
  String.ofList (snippetChars (body.getD "").toList)

/-- What the gateway has refused. -/
inductive Refusal where
  /-- A plain request. -/
  | request
  /-- The submission of a batch or the creation of a session. -/
  | submission
  /-- The end of a batch or session. -/
  | kill
  deriving DecidableEq, Repr

/-- A cause of failure in the work with the gateway or the resource manager. -/
inductive Fault where
  /-- The service could not be reached; trying again may help. -/
  | unreachable (message : String)
  /-- An operation that was tried again and again never gave a value. -/
  | exhausted (what : String) (attempts : Int) (last : Option String)
  /-- The service answered with an unexpected code. -/
  | refused (kind : Refusal) (message url : String) (code : Int) (body : Option String)
  /-- A document does not have the expected shape. -/
  | malformed (message : String) (url body : Option String)
  /-- A batch has no number yet. -/
  | unsubmitted (message : String)
  /-- No application has shown up before the deadline. -/
  | notStarted (message : String)
  /-- A running application was needed, and it has finished. -/
  | finished (message : String)
  /-- A session is used before it was created or after it has stopped. -/
  | sessionDown (message : String) (logs : List Json)
  /-- An application has no attempts. -/
  | noAttempt (message : String)
  /-- The interpreter reports that a statement has failed. -/
  | statementFailed (name value : Json) (traceback : List Json)
  /-- Any other failure. -/
  | other (message : String)

namespace Fault

/-- The wording of a fault. -/
def message : Fault → String
  | unreachable m => m
  | exhausted what attempts last =>
    let n := attempts.repr
    let m := s!"Failed to {what}: unknown service error after {n} attempt(s)"
    match last with
    | none => m
    | some e => s!"{m} (last error: {e})"
  | refused _ m url code body =>
    let c := code.repr
    let shown := snippet body
    Text.trimEnd s!"{m} [{c} {url}] {shown}"
  | malformed m url body =>
    let location := match url with
      | none => ""
      | some u => if u.isEmpty then "" else " from " ++ u
    let shown := snippet body
    Text.trimEndWhere (fun c => c == ':' || c == ' ') s!"{m}{location}: {shown}"
  | unsubmitted m => m
  | notStarted m => m
  | finished m => m
  | sessionDown m _ => m
  | noAttempt m => m
  | statementFailed name value _ => name.display ++ ": " ++ value.display
  | other m => m

end Fault

/-- What a message shows of a body is at most three characters longer than its bound. -/
theorem snippet_length (body : List Char) : (snippetChars body).length ≤ snippetLength + 3 := by
  unfold snippetChars
  simp only
  split
  · omega
  · have htake := List.length_take_le snippetLength (Text.trimChars body)
    rw [List.length_append]
    exact Nat.add_le_add_right htake 3

/-- A use that the library refuses without asking any service. -/
inductive Misuse where
  /-- An operation is to be tried no time at all. -/
  | noAttempts
  /-- A batch is submitted a second time. -/
  | alreadySubmitted (id : Int)
  /-- A batch without a workload is submitted. -/
  | nothingToSubmit
  /-- A workload has no application file. -/
  | emptyFile
  /-- A setting of a workload has no equals sign. -/
  | pairWithoutValue (entry : String)
  /-- A setting of a workload has no name. -/
  | pairWithoutKey (entry : String)
  /-- An operation needs the resource manager and has none. -/
  | noResourceManager
  deriving DecidableEq, Repr

namespace Misuse

/-- The wording of a misuse. -/
def message : Misuse → String
  | noAttempts => "retries_max must be >= 1"
  | alreadySubmitted id => "Batch job " ++ id.repr ++ " is already submitted"
  | nothingToSubmit => "No submission parameters to submit"
  | emptyFile => "file must be a non-empty string"
  | pairWithoutValue entry => s!"Invalid conf entry: '{entry}' (expected key=value)"
  | pairWithoutKey entry => s!"Invalid conf entry: '{entry}' (empty key)"
  | noResourceManager => "This operation needs a YarnAttemptResolver"

end Misuse

/-- What ends a piece of work without a value. -/
inductive Stop where
  /-- A failure in the work with the gateway. -/
  | fault (f : Fault)
  /-- A use that is refused. -/
  | misuse (m : Misuse)
  /-- A value that does not fit where it is used. -/
  | misfit (m : Misfit)
  /-- The work was cancelled. -/
  | cancelled
  /-- The person at the terminal has interrupted the program. -/
  | interrupted
  /-- The program ends with an exit code. -/
  | exit (code : Int)
  /-- The work has gone on for longer than anybody waits. -/
  | spent
  /-- Whoever follows a sequence has seen enough of it. -/
  | enough
  /-- A failure of the surroundings that the library knows nothing about. -/
  | foreign (kind message : String)

/-- Naming the cause of a failure leaves a value alone. -/
theorem mapError_ok {ε δ α : Type} (f : ε → δ) (a : α) :
    (Except.ok a : Except ε α).mapError f = .ok a := rfl

end SparkGateway
