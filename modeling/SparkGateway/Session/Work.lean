import SparkGateway.Session.Basic

/-!
# Work in a session

A session takes statements once it is idle or busy; one that is over never will.  Statements are run
only then.  The application that runs the session may show up late, which has a deadline.

Main statement: `awaitApplication_known` (an application that is known is given at once).
-/

namespace SparkGateway.Session

variable {τ : Type} [Timeline τ]

/-- One look at the session for its application. -/
def applicationRound (s : Session τ) (deadline : τ) : Run Memory τ (Run.Round Unit Json) := do
  s.refresh
  match (← snapshot).application with
  | some application => return .done application
  | none => do
    let t ← Run.now
    if Timeline.le deadline t then
      let limit := Timeline.text s.applicationDeadline
      Run.fail (.notStarted s!"{s.name} application isn't started in {limit} seconds.")
    Run.sleep s.pause
    return .again ()

/-- Waits for the application that runs the session. -/
def awaitApplication (s : Session τ) : Run Memory τ Json := do
  match (← snapshot).application with
  | some application => return application
  | none => do
    let deadline := Timeline.plus (← Run.now) s.applicationDeadline
    Run.rounds (fun () => s.applicationRound deadline) ()

/-- One look at the session for whether it takes statements. -/
def readyRound (s : Session τ) : Run Memory τ (Run.Round Unit Unit) := do
  s.refresh
  let now ← snapshot
  if now.state.isStopped || now.state.isFinal then
    let logs ← Run.ofMisfit (Json.joinTexts "\n" now.logs)
    let word := now.state.word
    Run.fail (.sessionDown s!"Session {s.name} is {word}. {logs}" now.logs)
  if now.state.isRunnable then return .done ()
  Run.sleep s.pause
  return .again ()

/-- Waits until the session takes statements. -/
def awaitReady (s : Session τ) : Run Memory τ Unit := Run.rounds (fun () => s.readyRound) ()

/-- Runs a statement, once the session takes statements, and gives the data of its result. -/
def runStatement (s : Session τ) (statement : Statement) : Run Memory τ Json.Named := do
  s.awaitReady
  let result ← statement.run (← s.url) s.pause
  if !result.ok then
    Run.fail (.statementFailed result.errorName result.errorValue result.traceback)
  Run.ofMisfit (Statement.Result.namedData result.data)

/-- Runs code in the dialect of the session. -/
def runCode (s : Session τ) (code : String) : Run Memory τ Json.Named := s.runStatement { code := code }

theorem awaitApplication_known (s : Session τ) (env : Surroundings τ) (w : World Memory τ)
    {application : Json} (h : w.memory.snapshot.application = some application) :
    s.awaitApplication env w = (.ok application, w) := by
  have hs : (snapshot : Run Memory τ Snapshot) env w = (.ok w.memory.snapshot, w) := rfl
  unfold awaitApplication
  rw [Run.bind_ok hs, h]
  rfl

end SparkGateway.Session
