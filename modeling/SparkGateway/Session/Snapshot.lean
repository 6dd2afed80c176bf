import SparkGateway.Reply
import SparkGateway.Session.State

/-!
# Snapshots of a session

What is known of a session at one moment: whether it exists on the gateway and under which number, the
application that runs it, its state and the last lines of its log.  A snapshot is read from a reply as
a whole or not at all.

Main statement: `ofJson_identity` (a snapshot that was read has a number).
-/

namespace SparkGateway.Session

/-- What is known of a session at one moment. -/
structure Snapshot where
  /-- The number of the session, once it exists on the gateway. -/
  identity : Option Int := none
  /-- The application that runs it, if there is one yet. -/
  application : Option Json := none
  /-- Its state. -/
  state : State := .notStarted
  /-- The last lines of its log. -/
  logs : List Json := []

namespace Snapshot

/-- A value that counts as given. -/
def present? (v : Json) : Option Json := if v.given then some v else none

/-- The snapshot in a document that came with a reply. -/
def ofJson (r : Reply) (v : Json) : Except Stop Snapshot := do
  let fields ← (r.fields "session" v).mapError .fault
  match fields.get "id" with
  | .num (.whole id) =>
    let state ← (State.parse (fields.get "state")).mapError .fault
    let logs ← (fields.get "log").itemsIfGiven.mapError .misfit
    return ⟨some id, present? (fields.get "appId"), state, logs⟩
  | _ => throw (.fault (r.malformed "Session response has no numeric id"))

/-- The snapshot in a reply. -/
def ofReply (r : Reply) : Except Stop Snapshot := do
  ofJson r (← r.document.mapError .fault)

/-- A snapshot that was read has a number. -/
theorem ofJson_identity (r : Reply) (v : Json) (s : Snapshot)
    (h : ofJson r v = .ok s) :
    ∃ id, s.identity = some id := by
  unfold ofJson at h
  cases v with
  | obj fields =>
    simp only [Reply.fields, mapError_ok, bind, Except.bind] at h
    split at h
    · next id _ =>
      split at h
      · cases h
      · split at h
        · cases h
        · cases h
          exact ⟨id, rfl⟩
    · cases h
  | _ => cases h

end Snapshot

end SparkGateway.Session
