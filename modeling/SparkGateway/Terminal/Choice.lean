import SparkGateway.Terminal.Progress

/-!
# Choosing batches

Batches are offered in a list, one to a line, with their numbers, states and applications below each
other.
-/

namespace SparkGateway.Terminal

/-- The width of the column of states. -/
def stateWidth : Nat := 13

/-- A text that spaces in front fill up to a width. -/
def rightAligned (s : String) (width : Nat) : String :=
  String.ofList (List.replicate (width - s.length) ' ') ++ s

/-- The entry for a batch. -/
def choiceTitle (s : Batch.Snapshot) : String :=
  let state := s.state.getD ""
  let state := if state.isEmpty then "-" else state
  let number := rightAligned s.id.repr 6
  let column := padded (String.ofList (state.toList.take stateWidth)) stateWidth
  let application := (s.application.map Json.display).getD ""
  Text.trimEnd s!"{number}  {column}  {application}"

/-- Lets the person choose some of several batches. -/
def chooseBatches {σ τ : Type} (batches : List Batch.Snapshot) : Run σ τ (List Batch.Snapshot) := do
  let picks ← Run.choose "Select batches:" (batches.map choiceTitle)
  return picks.filterMap fun i => batches[i]?

end SparkGateway.Terminal
