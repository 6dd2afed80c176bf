import SparkGateway.Batch.Basic

/-!
# Following a log

The log of a batch is followed from its start, page by page, and its lines are given one by one.  An
empty page ends the log, unless the batch has not run yet and no application runs it; then the next page
is asked for after a pause.  A service that cannot be reached, and a page that is refused, end the log
with a report of the error.

Main statement: `askPage_of_none` (a batch without a number has no page of a log).
-/

namespace SparkGateway.Batch

variable {σ τ : Type}

/-- Whether the batch has not run yet and no application runs it. -/
def isSubmitting (b : Batch τ) : Run σ τ Bool := do
  match ← b.status with
  | none => return false
  | some snapshot =>
    match snapshot.state with
    | none => return false
    | some state =>
      return (← Run.ofFault (State.parse state)).isPreRun && snapshot.application.isNone

/-- The reply to a request for a page of the log. -/
def askPage (b : Batch τ) (start : Nat) : Run σ τ Reply := do
  let url ← Run.ofFault (b.logUrl start LogPage.size)
  Run.ask (.get url)

/-- What the report of a page that is refused says. -/
def refusedPage (r : Reply) : String :=
  let code := r.code.repr
  s!"Failed to get log from {r.url} (code {code})"

/-- Gives some lines, one by one. -/
def giveLines (give : Item → Run σ τ Unit) : List String → Run σ τ Unit
  | [] => return
  | line :: lines => do
    give (.line .log line)
    giveLines give lines

/-- What follows an empty page: a pause and the same page again, or the end. -/
def afterEmptyPage [Timeline τ] (b : Batch τ) (give : Item → Run σ τ Unit) (start : Nat) :
    Run σ τ (Run.Round Nat Unit) := do
  match ← (b.isSubmitting : Run σ τ Bool).reachable with
  | .error message => do
    give (.line .error message)
    return .done ()
  | .ok false => return .done ()
  | .ok true => do
    Run.sleep b.polling.pause
    return .again start

/-- One page of the log, from the line at `start`. -/
def tailPage [Timeline τ] (b : Batch τ) (give : Item → Run σ τ Unit) (start : Nat) :
    Run σ τ (Run.Round Nat Unit) := do
  match ← (b.askPage start : Run σ τ Reply).reachable with
  | .error message => do
    give (.line .error message)
    return .done ()
  | .ok r =>
    if !r.ok then do
      give (.line .error (refusedPage r))
      return .done ()
    else do
      let page ← Run.ofStop (LogPage.ofReply r)
      giveLines give page.lines
      if page.lines.isEmpty then b.afterEmptyPage give start
      else return .again (start + page.lines.length)

/-- Gives the log of the batch, line by line, as it comes. -/
def tail [Timeline τ] (b : Batch τ) (give : Item → Run σ τ Unit) : Run σ τ Unit :=
  Run.rounds (b.tailPage give) 0

/-- A batch without a number has no page of a log. -/
theorem askPage_of_none (b : Batch τ) (h : b.id = none) (start : Nat) :
    (b.askPage start : Run σ τ Reply) =
      Run.fail (.unsubmitted "Batch job has not been submitted yet") := by
  simp only [askPage, logUrl, b.batchUrl_of_none h]
  rfl

end SparkGateway.Batch
