import SparkGateway.Batch.Completion
import SparkGateway.Exchange.Turn
import SparkGateway.Terminal.Report

/-!
# Progress

While batches are waited for, one bar shows how many are complete and how many of those have failed, and
each batch has a row of its own.  Rows of batches with a name are aligned, so that the numbers stand
below each other.

All batches are waited for at the same time.  The surroundings decide which wait is over next; the end of
its batch is shown then, and given in the place of the batch.  What stops one wait stops them all.

Main statements: `truncated_length` (a shortened text keeps to its width), `length_tracks_finish` (the
rows stay) and `completed_afterEnds` (the bar counts every batch that is complete once).
-/

namespace SparkGateway.Terminal

/-- The greatest width of a name. -/
def nameWidth : Int := 56

/-- The first characters of a text: `n` of them, or all but the last `-n`. -/
def firstChars (s : List Char) (n : Int) : List Char :=
  if n < 0 then s.take (s.length - n.natAbs) else s.take n.toNat

/-- A text that is cut to a width; three points stand for what is left out, if there is room. -/
def truncatedChars (s : List Char) (width : Int) : List Char :=
  if width ≤ 3 ∨ (s.length : Int) ≤ width then firstChars s width
  else firstChars s (width - 3) ++ ['.', '.', '.']

/-- A text that is cut to a width. -/
def truncated (s : String) (width : Int) : String := String.ofList (truncatedChars s.toList width)

/-- A text that is filled up with spaces to a width. -/
def padded (s : String) (width : Nat) : String :=
  s ++ String.ofList (List.replicate (width - s.length) ' ')

/-- The name that is shown for a batch: the name it has, cut to its width, unless that is just the number
of the batch. -/
def shownName? (names : List (Int × String)) (id : Int) : Option String :=
  match names.lookup id with
  | some name => if name = id.repr then none else some (truncated name nameWidth)
  | none => none

/-- The width of the longest name that is shown for some batches. -/
def nameColumn (names : List (Int × String)) (ids : List Int) : Nat :=
  ((ids.filterMap (shownName? names)).map String.length).foldl max 0

/-- The label of a batch: its name and its number, or its number alone. -/
def label (names : List (Int × String)) (width : Nat) (id : Int) : String :=
  match shownName? names id with
  | some name =>
    let column := padded name width
    let number := id.repr
    s!"{column}  (id: {number})"
  | none => id.repr

/-- The display before any batch is complete. -/
def Board.start (names : List (Int × String)) (ids : List Int) : Board where
  total := max ids.length 1
  completed := 0
  failures := 0
  tracks := ids.map fun id => ⟨label names (nameColumn names ids) id, "WAITING", "warn", 0⟩

/-- The row of a batch: of several rows for one batch the last. -/
def rowOf? (ids : List Int) (id : Int) : Option Nat :=
  (ids.reverse.idxOf? id).map fun i => ids.length - 1 - i

/-- The row of a batch that is complete. -/
def Track.finish (t : Track) (state : Batch.State) : Track where
  label := t.label
  status := if state = .success then "DONE" else Text.upper state.word
  style := stateStyle state.word
  completed := 1

/-- The display after one more batch is complete. -/
def Board.finish (ids : List Int) (b : Board) (id : Int) (state : Batch.State) : Board where
  total := b.total
  completed := b.completed + 1
  failures := if state = .success then b.failures else b.failures + 1
  tracks := match rowOf? ids id with
    | some row => b.tracks.modify row fun t => t.finish state
    | none => b.tracks

/-- The display after some batches have come to their ends, in the order in which they were complete. -/
def Board.afterEnds (ids : List Int) (b : Board) (ends : List (Int × Batch.State)) : Board :=
  ends.foldl (fun b e => b.finish ids e.1 e.2) b

variable {σ τ : Type}

/-- A wait for a batch that went on in a world of its own. -/
structure Wait (τ : Type) where
  /-- The number of the batch. -/
  id : Int
  /-- How the wait was over: the last state of the batch and what was said about its end, if nothing has
  stopped the wait. -/
  outcome : Except Stop (Batch.State × String)
  /-- The steps of the wait. -/
  trace : Trace τ

/-- What the wait did. -/
def Wait.prospect (w : Wait τ) : Prospect τ := ⟨w.trace, !w.outcome.toBool⟩

/-- Waits that take turns, in the order in which they are over. -/
def Wait.inOrder (waits : List (Wait τ)) : List (Wait τ) :=
  waits.mergeSort fun a b => a.prospect.noLater b.prospect

/-- The end of the batch that was waited for. -/
def Wait.ending (w : Wait τ) : Except Stop (Int × Batch.State × String) := do
  let (state, diagnostics) ← w.outcome
  return (w.id, state, diagnostics)

/-- What waits that take turns give: the ends of the batches in their order, and the display when all are
complete; or else what has stopped one of them first. -/
def watched (names : List (Int × String)) (waits : List (Wait τ)) :
    Except Stop (List (Int × Batch.State × String) × Board) := do
  let ids := waits.map Wait.id
  let inOrder ← (Wait.inOrder waits).mapM Wait.ending
  let ends ← waits.mapM Wait.ending
  return (ends, (Board.start names ids).afterEnds ids (inOrder.map fun e => (e.1, e.2.1)))

variable [Timeline τ]

/-- Waits until a batch is complete, and gives its number with its end. -/
def awaitEnd (b : Batch τ) : Run σ τ (Int × Batch.State × String) := do
  let (state, diagnostics) ← b.awaitCompletion
  return (← Run.ofFault b.number, state, diagnostics)

/-- Waits for the batches that are left, whose number is the second argument, with the display after
those before. -/
def watchFrom (ids : List Int) :
    Nat → Board → List (Batch τ) → Run σ τ (List (Int × Batch.State × String))
  | 0, _, _ => return []
  | left + 1, board, batches => do
    let turn ← Run.next (batches.map awaitEnd)
    match batches[turn]? with
    | none => return []
    | some b => do
      let (id, state, diagnostics) ← awaitEnd b
      let board := board.finish ids id state
      Run.display (.board board)
      let others ← watchFrom ids left board (batches.eraseIdx turn)
      return others.insertIdx turn (id, state, diagnostics)

/-- Waits until all batches are complete, and gives their ends in the order of the batches. -/
def watch (names : List (Int × String)) (batches : List (Batch τ)) :
    Run σ τ (List (Int × Batch.State × String)) := do
  let ids ← Run.ofFault (batches.mapM Batch.number)
  let board := Board.start names ids
  Run.display (.board board)
  watchFrom ids batches.length board batches

omit [Timeline τ] in
/-- A shortened text keeps to its width. -/
theorem truncated_length (s : List Char) (width : Nat) :
    (truncatedChars s width).length ≤ width := by
  unfold truncatedChars
  split
  · rename_i h
    simp only [firstChars]
    rw [if_neg (by omega), Int.toNat_natCast]
    exact List.length_take_le _ _
  · rename_i h
    simp only [not_or, Int.not_le] at h
    have htake := List.length_take_le ((width : Int) - 3).toNat s
    simp only [firstChars]
    rw [if_neg (by omega), List.length_append]
    simp only [List.length_cons, List.length_nil]
    omega

omit [Timeline τ] in
/-- The rows stay when a batch is complete. -/
theorem length_tracks_finish (ids : List Int) (b : Board) (id : Int) (state : Batch.State) :
    (b.finish ids id state).tracks.length = b.tracks.length := by
  unfold Board.finish
  simp only
  split <;> simp

omit [Timeline τ] in
/-- No wait is lost or doubled when they are put in order. -/
theorem Wait.inOrder_perm (waits : List (Wait τ)) : (Wait.inOrder waits).Perm waits :=
  List.mergeSort_perm waits _

omit [Timeline τ] in
theorem completed_afterEnds (ids : List Int) (b : Board) (ends : List (Int × Batch.State)) :
    (b.afterEnds ids ends).completed = b.completed + ends.length := by
  induction ends generalizing b with
  | nil => rfl
  | cons e rest ih =>
    show ((b.finish ids e.1 e.2).afterEnds ids rest).completed = _
    rw [ih]
    simp only [Board.finish, List.length_cons]
    omega

end SparkGateway.Terminal
