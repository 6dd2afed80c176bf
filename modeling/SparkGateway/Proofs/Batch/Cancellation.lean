import SparkGateway.Exchange.Script
import SparkGateway.Proofs.Batch.Identity
import SparkGateway.Proofs.Exchange.Heeding

/-!
# Cancelled work with batches

Work with a batch, or with the resource manager, may be cancelled at any request, at any load of a page
and at any pause.  It ends there as cancelled: nothing is asked for or waited for after that, nothing is
given and no remark is made, and the batch is held as it was.
-/

namespace SparkGateway

namespace Batch

open Run

variable {τ α : Type} [Timeline τ]

theorem piece_heeds {e : Stop} {x : Run (Page.Cache τ) τ α} (h : Piece x) : Heeds e x := by
  cases h with
  | memory | remember _ | now => exact heeds_of_silent fun _ _ => rfl
  | ask q _ => exact heeds_ask q
  | load url => exact heeds_load url
  | sleep amount => exact heeds_sleep amount
  | give item => exact heeds_give item
  | note level text => exact heeds_note level text

theorem plain_heeds {x : Run (Page.Cache τ) τ α} (h : Plain Piece x) : Heeds .cancelled x :=
  h.closed (heeds_closed fun _ hsame => by cases hsame) piece_heeds

omit [Timeline τ] in
/-- A submission heeds every stop, since it is tried once only. -/
theorem submit_heeds {σ : Type} (b : Batch τ) (e : Stop) : Heeds e (b.submit : Run σ τ (Batch τ)) := by
  unfold submit
  split
  · exact heeds_stop _
  · exact heeds_stop _
  · refine (heeds_ask _).bind fun found => ?_
    have haccept : Heeds e (do
        let snapshot ← Run.ofStop (accepted found)
        let id := snapshot.id.repr
        let state := snapshot.state.getD "None"
        Run.note .info s!"Submitted batch {id} (state={state})"
        return { b with id := some snapshot.id } : Run σ τ (Batch τ)) := by
      cases accepted found with
      | error e' => exact heeds_stop e'
      | ok snapshot => exact (heeds_value _).bind fun _ => (heeds_note _ _).bind fun _ => heeds_value _
    dsimp only
    split
    · exact (heeds_stop _).bind fun _ => haccept
    · exact haccept

theorem act_heeds (b : Batch τ) (x : Act τ) : Heeds .cancelled (b.act x) := by
  cases x with
  | submit => exact b.submit_heeds _
  | use o => exact (plain_heeds (b.operation_plain o)).bind fun _ => heeds_value b
  | setAttempts attempts => exact heeds_value _
  | setPause pause => exact heeds_value _

/-- What is true of work that is cancelled, whatever is done with a batch or asked of the resource
manager. -/
structure HeedsCancelling (b : Batch τ) (c : Cluster τ) (p : Polling τ) : Prop where
  act : ∀ x, Heeds .cancelled (b.act x)
  kept : ∀ x env w, (b.act x env w).1 = .error .cancelled → (b.deed env w x).after = b
  application : ∀ id, Heeds .cancelled (c.application p id : Run (Page.Cache τ) τ _)
  attempt : ∀ id, Heeds .cancelled (c.currentAttempt p id : Run (Page.Cache τ) τ _)
  containers : ∀ attempt, Heeds .cancelled (c.containers p attempt)

/-- Wherever work with a batch or the resource manager is cancelled, it ends there as cancelled. -/
theorem cancelling_heeded (b : Batch τ) (c : Cluster τ) (p : Polling τ) : HeedsCancelling b c p := by
  constructor
  · exact b.act_heeds
  · intro x env w hcancelled
    simp only [Deed.after, deed]
    rw [hcancelled]
    rfl
  · exact fun id => plain_heeds (clusterApplication_plain c p id)
  · exact fun id => plain_heeds (currentAttempt_plain c p id)
  · exact fun attempt => plain_heeds (clusterContainers_plain c p attempt)

/-- The wait for a running batch is cancelled in its second pause. -/
example :
    let running : Route := ⟨.get, "http://gateway/batches/7",
      [.reply 200 (some "\x7b\"id\": 7, \"state\": \"running\"\x7d") none]⟩
    let env : Surroundings Number :=
      { Surroundings.ofScript ⟨[running], 9⟩ with
        halt := fun t => if t.endsAtPause 2 then some .cancelled else none }
    let b : Batch Number := .attached "http://gateway/batches" 7 none ⟨3, .whole 5⟩
    let run := b.awaitCompletion env (⟨.empty (.whole 0) 0, .whole 0, []⟩ : World (Page.Cache Number) Number)
    (run.1 matches .error .cancelled) ∧ run.2.trace.requests.length = 2 ∧
      run.2.trace.pauses.length = 2 := by
  decide +kernel

end Batch

end SparkGateway
