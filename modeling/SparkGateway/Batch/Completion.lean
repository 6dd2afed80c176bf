import SparkGateway.Batch.Basic

/-!
# The end of a batch

A batch is complete when it has come to its end and the resource manager has put its logs together, or
given that up.  A batch that no application ran has no logs to wait for.
-/

namespace SparkGateway.Batch

variable {σ τ : Type} [Timeline τ]

/-- The pause between two looks at a batch, or at its logs. -/
def completionPause : τ := Timeline.seconds 1

/-- One look at the state of the batch, which ends the wait if the batch has come to its end. -/
def endRound (b : Batch τ) : Run σ τ (Run.Round Unit (Snapshot × State)) := do
  let (snapshot, word) ← b.pollStatus "get job state"
  let state ← Run.ofFault (State.parse word)
  if state.isDone then return .done (snapshot, state)
  Run.sleep completionPause
  return .again ()

/-- One look at the logs of an application, which ends the wait if nothing more will happen to them. -/
def logsRound (b : Batch τ) (c : Cluster τ) (application : String) :
    Run σ τ (Run.Round Unit String) := do
  let a ← c.application b.polling application
  if a.isAggregated then return .done a.diagnostics
  Run.note .debug s!"Log aggregation of {application} is {a.logAggregation}"
  Run.sleep completionPause
  return .again ()

/-- Waits until the batch is complete, and gives its last state and what the resource manager has to say
about its end. -/
def awaitCompletion (b : Batch τ) : Run σ τ (State × String) := do
  let (snapshot, state) ← Run.rounds (fun () => b.endRound) ()
  let id := (← Run.ofFault b.number).repr
  let word := state.word
  Run.note .info s!"Batch {id} finished with state {word}"
  match snapshot.application with
  | none => return (state, "")
  | some application => do
    let c ← b.manager
    let diagnostics ← Run.rounds (fun () => b.logsRound c application.display) ()
    return (state, diagnostics)

end SparkGateway.Batch
