import SparkGateway.Batch.Driver
import SparkGateway.Batch.Tail
import SparkGateway.Command.Basic
import SparkGateway.Terminal.Choice

/-!
# Commands for batches

Listing, submitting, looking at, following, killing and waiting for batches, and finding the driver and
the containers of one that runs.
-/

namespace SparkGateway.Command

open Terminal

/-- The memory of the commands for batches: the pages that are kept. -/
abbrev Pages := Page.Cache Number

/-- How many pages are kept. -/
def pageRoom : Int := 256

/-- The memory that a command starts with. -/
def noPages (s : Settings) : Pages := Page.Cache.empty s.pageLifetime pageRoom

/-- How the gateway is polled under some settings. -/
def pollingOf (s : Settings) : Polling Number := ⟨s.attempts, s.pause⟩

/-- The resource manager behind the gateway of some settings. -/
def clusterOf (s : Settings) : Cluster Number :=
  Cluster.on s.batchesUrl s.root Cluster.defaultSettle

/-- A batch that was submitted before. -/
def batchOf (s : Settings) (id : Int) : Batch Number :=
  Batch.attached s.batchesUrl id (some (clusterOf s)) (pollingOf s)

/-- The workload that is said on the command line. -/
def workloadOf (o : SubmitOptions) : Except Misuse Workload := do
  let conf ← Workload.confPairs o.conf
  Workload.checked {
    file := o.file
    className := o.className
    args := o.args
    jars := o.jars
    pyFiles := o.pyFiles
    conf := conf
    name := o.name
    queue := o.queue }

/-- Lists all batches. -/
def listBatches (s : Settings) : Run Pages Number Unit := do
  showStatus "Loading batches..."
  let batches ← orExit (Batch.list s.batchesUrl)
  if batches.isEmpty then exitWarning "No batches found" 0
  showBatches batches batchesTitle

/-- Shows the log of a batch as it comes. -/
def followLog (b : Batch Number) : Run Pages Number Unit := orExit (b.tail showItem)

/-- Waits for batches and shows how they have ended. -/
def waitFor (batches : List (Batch Number)) : Run Pages Number Unit := do
  let ends ← orExit (watch [] batches)
  showEndings (ends.map fun (id, state, diagnostics) => ⟨id, state.word, diagnostics⟩) endingsTitle
  if ends.any fun (_, state, _) => state != .success then exitWith 1

/-- Submits a batch. -/
def submitBatch (s : Settings) (o : SubmitOptions) : Run Pages Number Unit := do
  match workloadOf o with
  | .error misuse => exitError misuse.message 1
  | .ok workload => do
    let b := Batch.fresh s.batchesUrl (some workload) (some (clusterOf s)) (pollingOf s)
    showStatus "Submitting batch..."
    let b ← orExit b.submit
    let id := (← Run.ofFault b.number).repr
    showSuccess s!"Batch submitted: id {id}"
    if o.logs then followLog b
    if o.watch then waitFor [b]

/-- Shows the state of a batch, and whether it is alive. -/
def showState (s : Settings) (id : Int) : Run Pages Number Unit := do
  let b := batchOf s id
  showStatus "Polling batch..."
  let (state, alive) ← orExit do
    let state ← b.pollState
    let alive ← b.isAlive
    return (state, alive)
  showFields [("batch", .int id), ("state", .str state),
    ("alive", .str (if alive then "yes" else "no"))]

/-- Shows the log of a batch. -/
def showLog (s : Settings) (id : Int) (whole : Bool) : Run Pages Number Unit := do
  let b := batchOf s id
  if whole then
    showStatus "Loading log..."
    showLogLines (← orExit b.fullLog)
  else followLog b

/-- The numbers of batches that the person chooses from all of them. -/
def chosenBatches (s : Settings) : Run Pages Number (List Int) := do
  showStatus "Loading batches..."
  let batches ← orExit (Batch.list s.batchesUrl)
  if batches.isEmpty then exitWarning "No batches found" 0
  return (← chooseBatches batches).map fun b => b.id

/-- Kills batches one after the other. -/
def killEach (s : Settings) : List Int → Run Pages Number Unit
  | [] => return
  | id :: rest => do
    orExit (batchOf s id).kill
    let number := id.repr
    showSuccess s!"Batch {number} killed"
    killEach s rest

/-- Kills batches, which the person chooses if none is named. -/
def killBatches (s : Settings) (ids : List Int) (confirm : Bool) : Run Pages Number Unit := do
  let ids ← if ids.isEmpty then chosenBatches s else pure ids
  if ids.isEmpty then exitWarning "No batches selected" 0
  if confirm then
    let count := ids.length.repr
    if !(← askYes s!"Kill {count} batch(es)?" false) then exitOk "Cancelled"
  killEach s ids

/-- Shows where the driver of a batch runs, and where its log is. -/
def showDriver (s : Settings) (id : Int) : Run Pages Number Unit := do
  let b := batchOf s id
  showStatus "Resolving driver..."
  let (host, url) ← orExit do
    let host ← b.driverHost
    let url ← b.driverLogUrl
    return (host, url)
  let url := url.getD ""
  showFields [("driver host", .str host), ("driver log", .str (if url.isEmpty then "-" else url))]

/-- Lists the containers of a batch whose logs are available. -/
def listContainers (s : Settings) (id : Int) : Run Pages Number Unit := do
  showStatus "Discovering containers..."
  let found ← orExit (batchOf s id).containers
  if found.isEmpty then exitWarning "No containers with available logs" 0
  showContainers found containersTitle

/-- Carries out a command for batches. -/
def performBatch (s : Settings) : BatchCommand → Run Pages Number Unit
  | .list => listBatches s
  | .submit o => submitBatch s o
  | .status id => showState s id
  | .logs id whole => showLog s id whole
  | .kill ids confirm => killBatches s ids confirm
  | .wait ids => waitFor (ids.map (batchOf s))
  | .driver id => showDriver s id
  | .containers id => listContainers s id

end SparkGateway.Command
