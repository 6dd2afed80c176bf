import SparkGateway.Json.Written
import SparkGateway.Reply
import SparkGateway.Text.Casing

/-!
# Applications

What the resource manager says of one application.  An application counts as finished if the resource
manager says so; if it says nothing about that, the word for its state decides.
-/

namespace SparkGateway.Cluster

/-- What is known of an application at one moment. -/
structure Application where
  /-- The identifier of the application. -/
  id : String
  /-- Where the application master is reached: a host and a port. -/
  masterAddress : Json
  /-- What the resource manager has to say about the end of the application. -/
  diagnostics : String
  /-- How far the logs of the application have been put together. -/
  logAggregation : String
  /-- Whether the application has finished. -/
  finished : Bool

namespace Application

/-- A value as it reads, where a value that does not count as given reads as nothing. -/
def textOf (v : Json) : String := (v.orElse (.str "")).display

/-- The words for the states of an application that has finished. -/
def finishedStates : List String := ["FINISHED", "FAILED", "KILLED"]

/-- Whether the fields of an application say that it has finished. -/
def isFinished (fields : Json.Fields) : Bool :=
  match fields.get "finished" with
  | .null => finishedStates.contains (Text.upper (textOf (fields.get "state")))
  | v => v.given

/-- The application in a reply. -/
def ofReply (r : Reply) : Except Fault Application := do
  let fields ← r.fields "application" (← r.document)
  let app ← r.fields "application" (fields.get "app")
  return {
    id := textOf (app.get "id")
    masterAddress := app.get "amHostHttpAddress"
    diagnostics := textOf (app.get "diagnostics")
    logAggregation := textOf (app.get "logAggregationStatus")
    finished := isFinished app }

/-- The words for logs that have been put together, or never will be. -/
def aggregatedStates : List String := ["SUCCEEDED", "FAILED"]

/-- Whether nothing more will happen to the logs of an application. -/
def isAggregated (a : Application) : Bool :=
  aggregatedStates.contains (Text.upper a.logAggregation)

end Application

end SparkGateway.Cluster
