import SparkGateway.Command.Perform
import SparkGateway.Command.Relay
import SparkGateway.Exchange.Replies
import SparkGateway.Terminal.Plain

/-!
# The program

The outer layer: it reads the command line, the environment and a file, and carries out the command with
the replies that it knows.  When the next step wants a reply, it writes the request to the output, reads
the answer from the input, and carries out the command anew.  Everything that is decided is decided by
the command.
-/

namespace SparkGateway

/-- How many rounds any loop of a command may take. -/
def commandPatience : Nat := 1000000000

/-- The settings in the environment of the program. -/
def readEnvironment : IO (List (String × String)) := do
  let mut found := []
  for name in Settings.environmentNames do
    let name := Settings.environmentMark ++ name
    match ← IO.getEnv name with
    | some value => found := found ++ [(name, value)]
    | none => pure ()
  return found

/-- What a file holds, if it is there and holds text. -/
def readText? (name : String) : IO (Option String) := do
  try
    return some (← IO.FS.readFile name)
  catch _ => return none

/-- A line of the input. -/
def readLine : IO String := do
  return Text.trim (← (← IO.getStdin).getLine)

/-- Does what a step wants to be done in the world.  What is asked has been shown already. -/
def performStep (verbose : Bool) (step : Step Number) : IO Unit :=
  match step with
  | .shown d => if step.isQuestion || step.isChoice then pure () else d.lines.forM IO.println
  | .noted level text => if Command.showsNote verbose level then IO.eprintln text else pure ()
  | .slept amount => IO.sleep ((amount.toFloat * 1000).toUInt32)
  | _ => pure ()

/-- Learns the reply to a step. -/
def learn (s : Settings) (r : Replies) (step : Step Number) : IO Replies := do
  match step.visit?, step with
  | some request, _ => do
    IO.println (Command.requestDocument s (Command.ownHeaders step) request).compact
    (← IO.getStdout).flush
    let answer := Command.answerOf ((Json.parse? (← readLine)).getD .null)
    return { r with answers := r.answers ++ [answer] }
  | none, .shown d => do
    d.lines.forM IO.println
    let words := (Text.words (← readLine).toList).map String.ofList
    match d with
    | .choose _ _ => return { r with picks := r.picks ++ [words.filterMap String.toNat?] }
    | .confirm _ default _ =>
      let decision := match words with
        | [] => default
        | word :: _ => word.toLower.startsWith "y"
      return { r with decisions := r.decisions ++ [decision] }
    | _ => return r
  | none, _ => return r

/-- Carries out a command with the replies that are known, and goes on as more become known; `done` steps
have been done before. -/
partial def carryOut (i : Command.Invocation) (environment : List (String × String))
    (files : String → Option String) (r : Replies) (done : Nat) : IO UInt32 := do
  let (outcome, w) := i.perform environment files (r.surroundings commandPatience)
    ⟨Page.Cache.empty (.whole 0) 0, .whole 0, []⟩
  let (known, unknown) := r.known w.trace
  (known.drop done).forM (performStep i.verbose)
  match unknown, i.settings environment with
  | step :: _, .ok s => carryOut i environment files (← learn s r step) known.length
  | _, _ => do
    match outcome with
    | .error (.fault f) => IO.eprintln f.message
    | .error (.misuse m) => IO.eprintln m.message
    | .error (.foreign _ message) => IO.eprintln message
    | _ => pure ()
    return (Command.exitCode outcome).toNat.toUInt32

end SparkGateway

open SparkGateway

/-- The program. -/
def main (args : List String) : IO UInt32 := do
  match Command.find args with
  | .error refused => return refused.code.toNat.toUInt32
  | .ok i => do
    let text ← match i.file? with
      | some name => readText? name
      | none => pure none
    carryOut i (← readEnvironment) (fun _ => text) {} 0
