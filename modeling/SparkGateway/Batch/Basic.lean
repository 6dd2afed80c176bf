import SparkGateway.Batch.LogPage
import SparkGateway.Batch.Snapshot
import SparkGateway.Batch.State
import SparkGateway.Cluster.Containers
import SparkGateway.Workload

/-!
# Batches

A batch is one workload on its way through the gateway.  The library knows no more of it than its
address and, once it has been submitted, its number; whatever else is wanted is asked anew, by polling
where it may take some time.

Main statements: `submit_of_number` (a batch that has a number is never submitted) and
`batchUrl_of_none`.
-/

namespace SparkGateway

/-- How one batch is worked with. -/
structure Batch (τ : Type) where
  /-- The address of all batches, without a slash at its end. -/
  uri : String
  /-- What the batch is to run; unknown if it was submitted elsewhere. -/
  workload : Option Workload
  /-- The resource manager, if it is needed. -/
  cluster : Option (Cluster τ)
  /-- How the gateway and the resource manager are polled. -/
  polling : Polling τ
  /-- The number of the batch, once it has one. -/
  id : Option Int

namespace Batch

variable {σ τ : Type}

/-- An address without the slashes at its end. -/
def bareUri (uri : String) : String := Text.trimEndWhere (· == '/') uri

/-- A batch that is to be submitted. -/
def fresh (uri : String) (workload : Option Workload) (cluster : Option (Cluster τ))
    (polling : Polling τ) : Batch τ :=
  ⟨bareUri uri, workload, cluster, polling, none⟩

/-- A batch that was submitted elsewhere. -/
def attached (uri : String) (id : Int) (cluster : Option (Cluster τ)) (polling : Polling τ) :
    Batch τ :=
  ⟨bareUri uri, none, cluster, polling, some id⟩

/-- The batch with another number of attempts. -/
def withAttempts (b : Batch τ) (attempts : Int) : Batch τ :=
  { b with polling := { b.polling with attempts := attempts } }

/-- The batch with another pause between attempts. -/
def withPause (b : Batch τ) (pause : τ) : Batch τ :=
  { b with polling := { b.polling with pause := pause } }

/-- The number of the batch. -/
def number (b : Batch τ) : Except Fault Int :=
  match b.id with
  | some id => .ok id
  | none => .error (.unsubmitted "Batch job has not been submitted yet")

/-- The address of the batch. -/
def batchUrl (b : Batch τ) : Except Fault String := do
  let id := (← b.number).repr
  return s!"{b.uri}/{id}"

/-- The address of a page of the log of the batch. -/
def logUrl (b : Batch τ) (start size : Nat) : Except Fault String := do
  let url ← b.batchUrl
  let first := start.repr
  let count := size.repr
  return s!"{url}/log?from={first}&size={count}"

/-- The resource manager. -/
def manager (b : Batch τ) : Run σ τ (Cluster τ) :=
  match b.cluster with
  | some c => return c
  | none => Run.stop (.misuse .noResourceManager)

/-- The snapshot in the reply to a submission; a reply without one refuses the submission. -/
def accepted (r : Reply) : Except Stop Snapshot :=
  match Snapshot.ofReply r with
  | .error (.fault (.malformed _ _ _)) =>
    .error (.fault (r.refused .submission "Bad batch job response"))
  | outcome => outcome

/-- Submits the batch, which gives it its number.  This is tried once only, since a second try could
start the workload twice. -/
def submit (b : Batch τ) : Run σ τ (Batch τ) :=
  match b.id, b.workload with
  | some id, _ => Run.stop (.misuse (.alreadySubmitted id))
  | none, none => Run.stop (.misuse .nothingToSubmit)
  | none, some workload => do
    let r ← Run.ask (.post b.uri workload.document)
    if !r.ok then Run.fail (r.refused .submission "Failed to submit batch job")
    let snapshot ← Run.ofStop (accepted r)
    let id := snapshot.id.repr
    let state := snapshot.state.getD "None"
    Run.note .info s!"Submitted batch {id} (state={state})"
    return { b with id := some snapshot.id }

/-- Kills the batch.  Every code up to 300 is fine. -/
def kill (b : Batch τ) : Run σ τ Unit := do
  let url ← Run.ofFault b.batchUrl
  let r ← Run.ask (.delete url)
  let id := (← Run.ofFault b.number).repr
  if r.code > 300 then Run.fail (r.refused .kill s!"Failed to kill batch {id}")
  Run.note .info s!"Killed batch {id}"

/-- The snapshot of the batch, unless the code of the reply says that there is nothing yet. -/
def status (b : Batch τ) : Run σ τ (Option Snapshot) := do
  let url ← Run.ofFault b.batchUrl
  match ← Cluster.lookUp url with
  | some r => return some (← Run.ofStop (Snapshot.ofReply r))
  | none => return none

/-- The whole log of the batch. -/
def fullLog (b : Batch τ) : Run σ τ (List String) := do
  let url ← Run.ofFault (b.logUrl 0 LogPage.wholeSize)
  let r ← Run.ask (.get url)
  let code := r.code.repr
  if !r.ok then Run.fail (r.malformed s!"Failed to get log (code {code})")
  return (← Run.ofStop (LogPage.ofReply r)).lines

variable [Timeline τ]

/-- A snapshot of the batch that names a state, and that state. -/
def pollStatus (b : Batch τ) (what : String) : Run σ τ (Snapshot × String) :=
  b.polling.seek what do
    match ← b.status with
    | some snapshot => return snapshot.state.map fun s => (snapshot, s)
    | none => return none

/-- The word for the state of the batch. -/
def pollState (b : Batch τ) : Run σ τ String := do
  let (_, state) ← b.pollStatus "get job state"
  return state

/-- The application that runs the batch. -/
def application (b : Batch τ) : Run σ τ Json :=
  b.polling.seek "get job application id" do
    match ← b.status with
    | some snapshot => return snapshot.application
    | none => return none

/-- Whether the batch has not come to its end. -/
def isAlive (b : Batch τ) : Run σ τ Bool := do
  let (_, state) ← b.pollStatus "detect job activity"
  return !(← Run.ofFault (State.parse state)).isDone

omit [Timeline τ] in
/-- All batches that the gateway knows. -/
def list (uri : String) : Run σ τ (List Snapshot) := do
  let url := bareUri uri
  let r ← Run.ask (.get url)
  let code := r.code.repr
  if !r.ok then
    Run.fail (.malformed s!"Failed to list batches (code {code})" (some url) r.body)
  Run.ofStop (Snapshot.listOfReply r)

omit [Timeline τ] in
/-- A batch that has a number is never submitted. -/
theorem submit_of_number (b : Batch τ) {id : Int} (h : b.id = some id) :
    (b.submit : Run σ τ (Batch τ)) = Run.stop (.misuse (.alreadySubmitted id)) := by
  simp [submit, h]

omit [Timeline τ] in
theorem batchUrl_of_none (b : Batch τ) (h : b.id = none) :
    b.batchUrl = .error (.unsubmitted "Batch job has not been submitted yet") := by
  simp [batchUrl, number, h, bind, Except.bind]

end Batch

end SparkGateway
