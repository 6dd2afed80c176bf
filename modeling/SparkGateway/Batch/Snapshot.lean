import SparkGateway.Reply

/-!
# Snapshots of a batch

What the gateway says of one batch at one moment, and what it says of all its batches.  The number of a
batch has to be a whole number; everything else may be missing.

Main statement: `ofJson_number` (what a snapshot is read from carries its number).
-/

namespace SparkGateway.Batch

/-- What is known of a batch at one moment. -/
structure Snapshot where
  /-- The number of the batch. -/
  id : Int
  /-- The word for its state, if there is one. -/
  state : Option String
  /-- The application that runs it, if there is one yet. -/
  application : Option Json
  /-- What the gateway says about that application. -/
  info : Json
  /-- The last lines of its log. -/
  log : List Json

namespace Snapshot

/-- A value that counts as given. -/
def present? (v : Json) : Option Json := if v.given then some v else none

/-- The state in a document: nothing stands for a missing state, and any other value is taken as it
reads. -/
def stateOf? : Json → Option String
  | .null => none
  | v => some v.display

/-- The snapshot in a document that came with a reply. -/
def ofJson (r : Reply) (v : Json) : Except Stop Snapshot := do
  let fields ← (r.fields "batch" v).mapError .fault
  match fields.get "id" with
  | .num (.whole id) =>
    let log ← (fields.get "log").itemsIfGiven.mapError .misfit
    return {
      id := id
      state := stateOf? (fields.get "state")
      application := present? (fields.get "appId")
      info := (fields.get "appInfo").orElse (.obj [])
      log := log }
  | _ => throw (.fault (r.malformed "Batch response has no numeric id"))

/-- The snapshot in a reply. -/
def ofReply (r : Reply) : Except Stop Snapshot := do
  ofJson r (← r.document.mapError .fault)

/-- The snapshots in a reply that lists batches. -/
def listOfReply (r : Reply) : Except Stop (List Snapshot) := do
  let fields ← (r.fields "batch list" (← r.document.mapError .fault)).mapError .fault
  let items ← (fields.get "sessions").itemsIfGiven.mapError .misfit
  items.mapM (ofJson r)

theorem ofJson_number (r : Reply) (v : Json) (s : Snapshot)
    (h : ofJson r v = .ok s) :
    ∃ fields, v = .obj fields ∧ Json.Fields.get fields "id" = .int s.id := by
  unfold ofJson at h
  cases v with
  | obj fields =>
    refine ⟨fields, rfl, ?_⟩
    simp only [Reply.fields, mapError_ok, bind, Except.bind] at h
    split at h
    · next id hid =>
      rw [hid]
      split at h
      · cases h
      · cases h
        rfl
    · cases h
  | _ => cases h

end Snapshot

end SparkGateway.Batch
