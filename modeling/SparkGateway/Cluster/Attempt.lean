import SparkGateway.Json.Whole
import SparkGateway.Json.Written
import SparkGateway.Reply

/-!
# Attempts

An application runs in attempts, and the resource manager lists all of them.  It does not say which one
is current, so the one with the greatest number is taken, and of several with that number the first.

Main statement: `current?_eq_none_iff`.
-/

namespace SparkGateway.Cluster

/-- One attempt of an application. -/
structure Attempt where
  /-- The number of the attempt. -/
  id : Int
  /-- Its identifier. -/
  name : String
  /-- A link to its logs. -/
  logsLink : Json
  /-- The container of the application master. -/
  container : Json
  /-- Where the node of that container is reached. -/
  node : Json

namespace Attempt

/-- An attempt in an entry of a list.  An entry that is no attempt is a fault of the reply; only a
number beyond every bound is not. -/
def ofJson (r : Reply) (v : Json) : Except Stop Attempt :=
  let bad := .fault (r.malformed "Bad application attempt entry")
  match v with
  | .obj fields =>
    match (Json.Fields.get fields "id").toWhole with
    | .ok id =>
      match Json.Fields.get? fields "appAttemptId" with
      | some name =>
        .ok ⟨id, name.display, Json.Fields.get fields "logsLink",
          Json.Fields.get fields "containerId", Json.Fields.get fields "nodeHttpAddress"⟩
      | none => .error bad
    | .error .outOfRange => .error (.misfit .outOfRange)
    | .error _ => .error bad
  | _ => .error bad

/-- The attempts in a reply. -/
def listOfReply (r : Reply) : Except Stop (List Attempt) := do
  let document ← r.document.mapError .fault
  let fields ← (r.fields "application attempts" document).mapError .fault
  let attempts ← (r.fields "application attempts"
    ((fields.get "appAttempts").orElse (.obj []))).mapError .fault
  match (attempts.get "appAttempt").itemsIfGiven with
  | .ok items => items.mapM (ofJson r)
  | .error _ => throw (.fault (r.malformed "Bad application attempt entry"))

/-- The attempt with the greatest number, given one to beat. -/
def greatest (best : Attempt) (attempts : List Attempt) : Attempt :=
  attempts.foldl (fun best a => if best.id < a.id then a else best) best

/-- The current attempt, if there is any. -/
def current? : List Attempt → Option Attempt
  | [] => none
  | a :: rest => some (greatest a rest)

theorem current?_eq_none_iff (attempts : List Attempt) : current? attempts = none ↔ attempts = [] := by
  cases attempts <;> simp [current?]

end Attempt

end SparkGateway.Cluster
