import SparkGateway.Command.Batches
import SparkGateway.Exchange.Script
import SparkGateway.Proofs.Command.Reporting
import SparkGateway.Proofs.Terminal.Watching

/-!
# The command that waits

The command that waits for batches shows the display of progress while it waits.  Once all waits are
over it shows one table of the ends and tells by its exit code whether all of them are good.  If a wait
fails first, it shows what has failed and no table.
-/

namespace SparkGateway.Command

open Run Terminal

/-- A line of markup. -/
def IsLine (d : Display) : Prop := ∃ markup, d = .line markup

theorem IsErrorLine.isLine {d : Display} (h : IsErrorLine d) : IsLine d := by
  cases d with
  | line markup => exact ⟨markup, rfl⟩
  | _ => exact nomatch h

/-- The style of the word for a state: the good end, what is on the way to an end, and all else. -/
def styleOf : Batch.State → String
  | .success => "ok"
  | .notStarted | .starting | .running | .recovering | .busy | .idle => "warn"
  | .dead | .killed | .error | .shuttingDown => "err"

/-- A row tells the end of a batch by its number, the word for its state, and what was said about it, in
which nothing is changed unless it has brackets or backslashes in it. -/
def TellsEnd (e : Int × Batch.State × String) (row : List String) : Prop :=
  ∃ said, row = [e.1.repr, s!"[{styleOf e.2.1}]{e.2.1.word}[/{styleOf e.2.1}]", said] ∧
    said = escape e.2.2 ∧ ((∀ c ∈ e.2.2.toList, c ≠ '\\' ∧ c ≠ '[') → said = e.2.2)

/-- What is shown is the table of the ends of batches, with a row for each of them. -/
def TablesEnds (ends : List (Int × Batch.State × String)) (d : Display) : Prop :=
  ∃ rows, d = .table "Batch results" ["Batch ID", "State", "Diagnostics"] rows ∧
    List.Forall₂ TellsEnd ends rows

theorem endingRow_tells (e : Int × Batch.State × String) :
    TellsEnd e (endingRow ⟨e.1, e.2.1.word, e.2.2⟩) := by
  obtain ⟨id, state, diagnostics⟩ := e
  have hstyle : stateStyle state.word = styleOf state := by
    cases state <;> decide +kernel
  refine ⟨_, ?_, rfl, escape_plain⟩
  simp only [endingRow, styledState, hstyle]

variable {env : Surroundings Number} {batches : List (Batch Number)} {w v : World Pages Number}

theorem waitFor_of_ok {ends : List (Int × Batch.State × String)}
    (h : watch [] batches env w = (.ok ends, v)) :
    (∃ table, (waitFor batches env w).2.trace.displays = v.trace.displays ++ [table] ∧
        TablesEnds ends table) ∧
      exitCode (waitFor batches env w).1 = if ∀ e ∈ ends, e.2.1 = .success then 0 else 1 := by
  obtain ⟨table, htable⟩ : ∃ table : Display, .table endingsTitle ["Batch ID", "State", "Diagnostics"]
      (ends.map fun e => endingRow ⟨e.1, e.2.1.word, e.2.2⟩) = table := ⟨_, rfl⟩
  have htells : TablesEnds ends table :=
    ⟨_, htable.symm, List.forall₂_map_right_iff.2 (List.forall₂_same.2 fun e _ => endingRow_tells e)⟩
  have hshown : showEndings (ends.map fun e => ⟨e.1, e.2.1.word, e.2.2⟩) endingsTitle env v =
      (.ok (), v.showing table) := by
    unfold showEndings
    rw [List.map_map, ← htable]
    rfl
  unfold waitFor
  rw [bind_ok (orExit_ok _ env w v ends h), bind_ok hshown]
  by_cases hall : ∀ e ∈ ends, e.2.1 = .success
  · have hany : (ends.any fun e => e.2.1 != .success) = false := by
      simpa using fun id state diagnostics he => hall (id, state, diagnostics) he
    rw [hany, if_pos hall]
    exact ⟨⟨table, World.showing_displays _ _, htells⟩, rfl⟩
  · have hany : (ends.any fun e => e.2.1 != .success) = true := by
      simpa using hall
    rw [hany, if_neg hall]
    exact ⟨⟨table, World.showing_displays _ _, htells⟩, rfl⟩

theorem waitFor_of_error {e : Stop} (h : watch [] batches env w = (.error e, v)) :
    (∃ ds, (waitFor batches env w).2.trace.displays = v.trace.displays ++ ds ∧ ∀ d ∈ ds, IsLine d) ∧
      ∀ f, e = .fault f → exitCode (waitFor batches env w).1 = 1 := by
  obtain ⟨ds, e', hrun, hds, hcode⟩ := orExit_of_stop h
  have hwait : waitFor batches env w = (.error e', v.showingAll ds) := bind_error hrun
  rw [hwait]
  refine ⟨⟨ds, v.showingAll_displays ds, fun d hd => (hds d hd).isLine⟩, fun f hf => ?_⟩
  exact hcode (by rw [hf]; trivial) Unit

/-- What is true of the command that waits for batches, whatever becomes of them and in whatever order
their waits are over. -/
structure WaitsForAll (env : Surroundings Number) (batches : List (Batch Number))
    (w : World Pages Number) : Prop where
  /-- Whatever the batches are called, their waits take turns, and the display of progress follows. -/
  turns : ∀ names, ∃ boards overs stop v, Watches env names batches w boards overs stop v ∧
    v.trace.displays = w.trace.displays ++ boards.map .board
  /-- If no wait is stopped, the ends of all batches are given in the order of the batches. -/
  given : ∀ names boards overs v, Watches env names batches w boards overs none v →
    ∃ ends, watch names batches env w = (.ok ends, v) ∧ AllOver env batches boards overs ends
  /-- What stops one wait first stops them all. -/
  stopped : ∀ names boards overs e v, Watches env names batches w boards overs (some e) v →
    watch names batches env w = (.error e, v)
  /-- The command shows one table of the ends, and its exit code tells whether all of them are good. -/
  tabled : ∀ boards overs v ends, Watches env [] batches w boards overs none v →
    watch [] batches env w = (.ok ends, v) →
    (∃ table, (waitFor batches env w).2.trace.displays =
        w.trace.displays ++ boards.map .board ++ [table] ∧ TablesEnds ends table) ∧
      exitCode (waitFor batches env w).1 = if ∀ e ∈ ends, e.2.1 = .success then 0 else 1
  /-- After a fault it shows no table, and its exit code is 1. -/
  failed : ∀ boards overs f v, Watches env [] batches w boards overs (some (.fault f)) v →
    (∃ ds, (waitFor batches env w).2.trace.displays =
        w.trace.displays ++ boards.map .board ++ ds ∧ ∀ d ∈ ds, IsLine d) ∧
      exitCode (waitFor batches env w).1 = 1
  /-- Waits that know nothing of each other come to the same. -/
  alone : ∀ names (waits : List (Wait Number)) ends, waits.mapM Wait.ending = .ok ends →
    ∃ board, watched names waits = .ok (ends, board) ∧ board.total = max waits.length 1 ∧
      board.completed = waits.length ∧ board.failures = ends.countP fun e => e.2.1 != .success

/-- However many batches are waited for, the order in which they are complete shows only in the display
of progress. -/
theorem waitFor_all (batches : List (Batch Number)) (env : Surroundings Number)
    (w : World Pages Number) : WaitsForAll env batches w := by
  constructor
  · intro names
    obtain ⟨boards, overs, stop, v, h⟩ := exists_watches env names batches w
    exact ⟨boards, overs, stop, v, h, h.displays⟩
  · exact fun names boards overs v h => h.allOver
  · intro names boards overs e v h
    obtain ⟨r, hwatch, hgives⟩ := h.watch
    cases hgives
    exact hwatch
  · intro boards overs v ends h hends
    rw [← h.displays]
    exact waitFor_of_ok hends
  · intro boards overs f v h
    obtain ⟨r, hwatch, hgives⟩ := h.watch
    cases hgives
    obtain ⟨hlines, hcode⟩ := waitFor_of_error hwatch
    rw [← h.displays]
    exact ⟨hlines, hcode f rfl⟩
  · exact fun names waits ends h => watched_of_ended h names

/-- Batch 9, which is dead, is complete before batch 7, which has come to a good end. -/
example :
    let said (id state : String) : Route :=
      ⟨.get, "http://gateway/batches/" ++ id,
        [.reply 200 (some ("\x7b\"id\": " ++ id ++ ", \"state\": \"" ++ state ++ "\"\x7d")) none]⟩
    let env : Surroundings Number :=
      { Surroundings.ofScript ⟨[said "7" "success", said "9" "dead"], 2⟩ with turn := turnsOf [1, 0] }
    let batch (id : Int) : Batch Number := .attached "http://gateway/batches" id none ⟨1, .whole 1⟩
    let run := waitFor [batch 7, batch 9] env ⟨.empty (.whole 0) 0, .whole 0, []⟩
    exitCode run.1 = 1 ∧
      run.2.trace.requests.map Request.url = ["http://gateway/batches/9", "http://gateway/batches/7"] ∧
      run.2.trace.lastBoard?.map (fun b => (b.completed, b.failures)) = some (2, 1) ∧
      run.2.trace.displays.getLast? = some (.table "Batch results" ["Batch ID", "State", "Diagnostics"]
        [["7", "[ok]success[/ok]", ""], ["9", "[err]dead[/err]", ""]]) := by
  decide +kernel

end SparkGateway.Command
