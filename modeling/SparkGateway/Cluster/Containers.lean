import SparkGateway.Cluster.Basic
import SparkGateway.Page.Loader
import SparkGateway.Text.Search

/-!
# Containers

The page of an attempt lists its containers, once the attempt has left its launch behind.  A container
is given if its row says where its logs are and that page holds any; a log page that cannot be loaded
is passed over.
-/

namespace SparkGateway

namespace Page

/-- The label of the row that tells the state of an attempt. -/
def stateLabel : String := "application attempt state:"

/-- What a row says of the state of an attempt, if it says anything. -/
def attemptState? (r : Row) : Option String :=
  match r.cellAt? 0, r.cellAt? 1 with
  | some label, some value =>
    if Text.lower (Text.trim label.text) = stateLabel then
      some (Text.lower (Text.trim value.text))
    else none
  | _, _ => none

/-- Whether the page of an attempt reports a state after the launch. -/
def isPastLaunch (p : Page) : Bool :=
  match p.table? "info" with
  | none => false
  | some info =>
    match info.rows.findSome? attemptState? with
    | none => false
    | some state => state != "launched"

/-- What a log page without a log says. -/
def noLogs : List Char := "no logs available".toList

/-- Whether the page of a log holds any. -/
def isLogAvailable (p : Page) : Bool :=
  !Text.occursIn noLogs (Text.lowerChars p.text.toList)

end Page

namespace Cluster

variable {τ : Type}

/-- A container as its row describes it: its identifier, its host and the link to its logs. -/
structure ContainerRow where
  /-- The text of the cell with the identifier. -/
  id : String
  /-- The text of the cell with the host. -/
  host : String
  /-- The link to the logs. -/
  logs : String
  deriving DecidableEq, Repr

namespace ContainerRow

/-- The container in a row, if the row describes one. -/
def ofRow? (r : Row) : Option ContainerRow :=
  match r.cellAt? 0, r.cellAt? 1, r.cellAt? 3 with
  | some id, some host, some logs =>
    match logs.href with
    | some link => if link.isEmpty then none else some ⟨id.text, host.text, link⟩
    | none => none
  | _, _, _ => none

/-- The name of the host: the text itself, or the host that it names if it is an address. -/
def hostName (c : ContainerRow) : Except Misfit String :=
  let text := Text.trim c.host
  match Url.parse? text.toList with
  | none => .error .badValue
  | some u => .ok ((u.host?.map String.ofList).getD text)

end ContainerRow

variable [Timeline τ]

/-- The page of an attempt, once it is past its launch. -/
def attemptPage (c : Cluster τ) (p : Polling τ) (attempt : String) :
    Run (Page.Cache τ) τ Page := do
  let url ← Run.ofMisfit (c.attemptPageUrl attempt)
  p.seek s!"load attempt page {url}" do
    Run.sleep c.settle
    let page ← Page.fetch url true
    if page.isPastLaunch then return some page
    Run.note .debug s!"Attempt {attempt} is not past LAUNCHED yet"
    return none

/-- The container of a row, if its logs are available; it is given to whoever follows. -/
def container (c : Cluster τ) (row : ContainerRow) :
    Run (Page.Cache τ) τ (Option (String × String)) := do
  match Url.join? c.gateway row.logs with
  | none => Run.stop (.misfit .badValue)
  | some url => do
    let id := Text.trim row.id
    match ← (Page.fetch url false).reachable with
    | .error message => do
      Run.note .debug s!"Skipping container {id}: {message}"
      return none
    | .ok page => do
      if !page.isLogAvailable then return none
      let host ← Run.ofMisfit row.hostName
      Run.give (.container host id)
      return some (host, id)

/-- The containers of some rows whose logs are available. -/
def containersOf (c : Cluster τ) : List ContainerRow → Run (Page.Cache τ) τ (List (String × String))
  | [] => return []
  | row :: rows => do
    let first ← c.container row
    let others ← c.containersOf rows
    return first.toList ++ others

/-- The containers of an attempt whose logs are available, each with its host. -/
def containers (c : Cluster τ) (p : Polling τ) (attempt : String) :
    Run (Page.Cache τ) τ (List (String × String)) := do
  let page ← c.attemptPage p attempt
  match page.table? "containers" with
  | none => return []
  | some table => c.containersOf (table.rows.filterMap ContainerRow.ofRow?)

end Cluster

end SparkGateway
