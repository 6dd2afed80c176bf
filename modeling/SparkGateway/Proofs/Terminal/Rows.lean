import Mathlib.Data.List.Nodup
import SparkGateway.Exchange.Script
import SparkGateway.Proofs.Terminal.Watching

/-!
# The rows of batches

Each batch that is waited for has a row of its own on the display of progress.  The rows are found by the
numbers of the batches, so of several rows for one batch only the last one is ever finished, by each of the
waits for that batch in turn; the others stay as they were at the start (`RowsTold`).

In the end each row tells the end of its own batch exactly if no batch is waited for twice
(`Watches.rows_settled_iff`).
-/

namespace SparkGateway.Terminal

variable {names : List (Int × String)} {ids : List Int} {board : Board} {i : Nat}

/-! ## Finding a row -/

/-- A number stands at a place in a list, and nowhere behind it. -/
def LastAt (ids : List Int) (id : Int) (i : Nat) : Prop :=
  ids[i]? = some id ∧ ∀ j, i < j → ids[j]? ≠ some id

theorem rowOf?_eq_some_iff {id : Int} : rowOf? ids id = some i ↔ LastAt ids id i := by
  unfold rowOf? LastAt
  simp only [Option.map_eq_some_iff, List.idxOf?_eq_some_iff, List.length_reverse, List.getElem_reverse,
    List.getElem?_eq_some_iff, ne_eq, not_exists]
  constructor
  · rintro ⟨k, ⟨hk, hid, hbefore⟩, rfl⟩
    refine ⟨⟨by omega, hid⟩, fun j hj hlt hjid => ?_⟩
    have hplace : ids.length - 1 - (ids.length - 1 - j) = j := by omega
    exact hbefore (ids.length - 1 - j) (by omega) (by simpa only [hplace] using hjid)
  · rintro ⟨⟨hlt, hid⟩, hlater⟩
    have hplace : ids.length - 1 - (ids.length - 1 - i) = i := by omega
    refine ⟨ids.length - 1 - i, ⟨by omega, by simpa only [hplace] using hid, fun j hj hjid => ?_⟩, hplace⟩
    exact hlater _ (by omega) (by omega) hjid

/-- A place behind which its number comes again is not the row of any batch. -/
theorem rowOf?_ne_of_repeated {id id' : Int} {j : Nat} (hi : ids[i]? = some id) (hj : ids[j]? = some id)
    (hlt : i < j) : rowOf? ids id' ≠ some i := by
  intro hrow
  obtain ⟨hi', hlater⟩ := rowOf?_eq_some_iff.1 hrow
  obtain rfl := Option.some.inj (hi.symm.trans hi')
  exact hlater j hlt hj

/-! ## Finishing rows -/

/-- A row tells that its batch has come to an end, and in which state. -/
structure Track.Tells (t : Track) (state : Batch.State) : Prop where
  status : t.status = if state = .success then "DONE" else Text.upper state.word
  style : t.style = stateStyle state.word
  completed : t.completed = 1

/-- A row tells that its batch is waited for. -/
structure Track.Waits (t : Track) : Prop where
  status : t.status = "WAITING"
  style : t.style = "warn"
  completed : t.completed = 0

theorem Track.Waits.not_tells {t : Track} (h : t.Waits) (state : Batch.State) : ¬ t.Tells state := by
  intro htells
  have hcompleted := h.completed.symm.trans htells.completed
  cases hcompleted

theorem Track.finish_tells (t : Track) (state : Batch.State) : (t.finish state).Tells state :=
  ⟨rfl, rfl, rfl⟩

/-- The end of a batch finishes its row, and leaves all other rows as they are. -/
theorem Board.getElem?_tracks_finish (ids : List Int) (board : Board) (id : Int) (state : Batch.State)
    (i : Nat) :
    (board.finish ids id state).tracks[i]? =
      if rowOf? ids id = some i then board.tracks[i]?.map fun t => t.finish state else board.tracks[i]? := by
  unfold finish
  dsimp only
  cases hrow : rowOf? ids id with
  | none => rfl
  | some row =>
      rw [List.getElem?_modify]
      by_cases h : row = i
      · simp [h]
      · simp [h]

theorem Board.afterEnds_append (ids : List Int) (board : Board) (ends ends' : List (Int × Batch.State)) :
    board.afterEnds ids (ends ++ ends') = (board.afterEnds ids ends).afterEnds ids ends' :=
  List.foldl_append

/-- Ends of batches with other rows leave a row as it is. -/
theorem Board.getElem?_tracks_afterEnds_of_ne {ends : List (Int × Batch.State)} (board : Board)
    (h : ∀ e ∈ ends, rowOf? ids e.1 ≠ some i) : (board.afterEnds ids ends).tracks[i]? = board.tracks[i]? := by
  induction ends generalizing board with
  | nil => rfl
  | cons e ends ih =>
      obtain ⟨hfirst, hothers⟩ := List.forall_mem_cons.1 h
      refine (ih (board.finish ids e.1 e.2) hothers).trans ?_
      rw [getElem?_tracks_finish, if_neg hfirst]

theorem Board.length_tracks_afterEnds (ids : List Int) (board : Board) (ends : List (Int × Batch.State)) :
    (board.afterEnds ids ends).tracks.length = board.tracks.length :=
  kept_afterEnds (fun board => board.tracks.length) (length_tracks_finish ids) board ends

/-- A row tells the end that has come to it last. -/
theorem Board.tells_afterEnds {id : Int} {state : Batch.State} {earlier later : List (Int × Batch.State)}
    (hrow : rowOf? ids id = some i) (hlater : ∀ e ∈ later, e.1 ≠ id) (hi : i < board.tracks.length) :
    ∃ t, (board.afterEnds ids (earlier ++ (id, state) :: later)).tracks[i]? = some t ∧ t.Tells state := by
  have hne : ∀ e ∈ later, rowOf? ids e.1 ≠ some i := by
    intro e he hsame
    have hid := (rowOf?_eq_some_iff.1 hrow).1
    exact hlater e he (Option.some.inj ((rowOf?_eq_some_iff.1 hsame).1.symm.trans hid))
  have hi' : i < (board.afterEnds ids earlier).tracks.length := by
    rwa [length_tracks_afterEnds]
  refine ⟨(board.afterEnds ids earlier).tracks[i].finish state, ?_, Track.finish_tells _ _⟩
  rw [afterEnds_append]
  refine (getElem?_tracks_afterEnds_of_ne (((board.afterEnds ids earlier)).finish ids id state) hne).trans ?_
  rw [getElem?_tracks_finish, if_pos hrow, List.getElem?_eq_getElem hi']
  rfl

/-! ## All rows -/

/-- Each row tells the end of its own batch. -/
def Board.Settled (board : Board) (ends : List (Int × Batch.State × String)) : Prop :=
  List.Forall₂ (fun t e => t.Tells e.2.1) board.tracks ends

/-- What the rows tell when some batches have come to their ends, in some order. -/
structure RowsTold (board : Board) (order : List (Int × Batch.State))
    (ends : List (Int × Batch.State × String)) : Prop where
  length : board.tracks.length = ends.length
  /-- The last row of a batch tells the end to which the last of the waits for it has come. -/
  last : ∀ (i : Nat) id, LastAt (ends.map Prod.fst) id i →
    ∃ earlier state later t, order = earlier ++ (id, state) :: later ∧ (∀ e ∈ later, e.1 ≠ id) ∧
      board.tracks[i]? = some t ∧ t.Tells state
  /-- A row before another one of the same batch is left waiting. -/
  waiting : ∀ (i j : Nat) id, i < j → (ends.map Prod.fst)[i]? = some id → (ends.map Prod.fst)[j]? = some id →
    ∃ t, board.tracks[i]? = some t ∧ t.Waits
  settled_iff : board.Settled ends ↔ (ends.map Prod.fst).Nodup

theorem exists_last_of_mem {order : List (Int × Batch.State)} {id : Int} (h : id ∈ order.map Prod.fst) :
    ∃ earlier state later, order = earlier ++ (id, state) :: later ∧ ∀ e ∈ later, e.1 ≠ id := by
  induction order with
  | nil => cases h
  | cons e order ih =>
      by_cases hlater : id ∈ order.map Prod.fst
      · obtain ⟨earlier, state, later, rfl, hne⟩ := ih hlater
        exact ⟨e :: earlier, state, later, rfl, hne⟩
      · obtain rfl : id = e.1 := (List.mem_cons.1 h).resolve_right hlater
        refine ⟨[], e.2, order, rfl, fun e' he' heq => hlater ?_⟩
        exact heq ▸ List.mem_map_of_mem he'

theorem Board.length_tracks_start (names : List (Int × String)) (ids : List Int) :
    (start names ids).tracks.length = ids.length :=
  List.length_map _

theorem Board.start_waits (names : List (Int × String)) {id : Int} (h : ids[i]? = some id) :
    ∃ t, (start names ids).tracks[i]? = some t ∧ t.Waits := by
  refine ⟨⟨label names (nameColumn names ids) id, "WAITING", "warn", 0⟩, ?_, rfl, rfl, rfl⟩
  rw [start, List.getElem?_map, h]
  rfl

theorem Board.waits_afterEnds (names : List (Int × String)) (order : List (Int × Batch.State)) {id : Int}
    {j : Nat} (hlt : i < j) (hi : ids[i]? = some id) (hj : ids[j]? = some id) :
    ∃ t, ((start names ids).afterEnds ids order).tracks[i]? = some t ∧ t.Waits := by
  obtain ⟨t, ht, hwaits⟩ := start_waits names hi
  refine ⟨t, (getElem?_tracks_afterEnds_of_ne _ fun e _ => ?_).trans ht, hwaits⟩
  exact rowOf?_ne_of_repeated hi hj hlt

theorem Board.last_tells_afterEnds (names : List (Int × String)) {order : List (Int × Batch.State)} {id : Int}
    (hi : LastAt ids id i) (hid : id ∈ order.map Prod.fst) :
    ∃ earlier state later t, order = earlier ++ (id, state) :: later ∧ (∀ e ∈ later, e.1 ≠ id) ∧
      ((start names ids).afterEnds ids order).tracks[i]? = some t ∧ t.Tells state := by
  obtain ⟨earlier, state, later, rfl, hlater⟩ := exists_last_of_mem hid
  have hlt : i < (start names ids).tracks.length := by
    rw [length_tracks_start]
    exact (List.getElem?_eq_some_iff.1 hi.1).1
  obtain ⟨t, htold⟩ := tells_afterEnds (rowOf?_eq_some_iff.2 hi) hlater hlt
  exact ⟨earlier, state, later, t, rfl, hlater, htold⟩

/-- No number comes again behind a place in a list without repetitions. -/
theorem lastAt_of_nodup {id : Int} (hnodup : ids.Nodup) (h : ids[i]? = some id) : LastAt ids id i := by
  refine ⟨h, fun j hlt hj => ?_⟩
  obtain ⟨hi, rfl⟩ := List.getElem?_eq_some_iff.1 h
  obtain ⟨hj, heq⟩ := List.getElem?_eq_some_iff.1 hj
  exact absurd ((List.getElem_inj hnodup).1 heq) (by omega)

theorem exists_repeated_of_not_nodup (h : ¬ ids.Nodup) :
    ∃ (i j : Nat) (id : Int), i < j ∧ ids[i]? = some id ∧ ids[j]? = some id := by
  rw [List.Nodup, List.pairwise_iff_getElem] at h
  push Not at h
  obtain ⟨i, j, hi, hj, hlt, heq⟩ := h
  exact ⟨i, j, ids[i], hlt, List.getElem?_eq_getElem hi, heq ▸ List.getElem?_eq_getElem hj⟩

theorem rowsTold_afterEnds (names : List (Int × String)) {ends : List (Int × Batch.State × String)}
    {order : List (Int × Batch.State)} (hids : ends.map Prod.fst = ids)
    (hperm : order.Perm (ends.map fun e => (e.1, e.2.1))) :
    RowsTold ((Board.start names ids).afterEnds ids order) order ends := by
  subst hids
  have hnumbers := hperm.map Prod.fst
  rw [List.map_map] at hnumbers
  have hlength : ((Board.start names (ends.map Prod.fst)).afterEnds (ends.map Prod.fst) order).tracks.length =
      ends.length := by
    rw [Board.length_tracks_afterEnds, Board.length_tracks_start, List.length_map]
  have hlast {i : Nat} {id : Int} (hi : LastAt (ends.map Prod.fst) id i) :=
    Board.last_tells_afterEnds names hi (hnumbers.symm.subset (List.mem_of_getElem? hi.1))
  refine ⟨hlength, fun i id => hlast, fun i j id => Board.waits_afterEnds names order, ?_, ?_⟩
  · intro hsettled
    by_contra hrepeated
    obtain ⟨i, j, id, hlt, hi, hj⟩ := exists_repeated_of_not_nodup hrepeated
    obtain ⟨t, ht, hwaits⟩ := Board.waits_afterEnds names order hlt hi hj
    obtain ⟨hi', rfl⟩ := List.getElem?_eq_some_iff.1 ht
    exact hwaits.not_tells _ ((List.forall₂_iff_get.1 hsettled).2 i hi' (hlength ▸ hi'))
  · intro hnodup
    refine List.forall₂_iff_get.2 ⟨hlength, fun i hi hi' => ?_⟩
    have hid : (ends.map Prod.fst)[i]? = some ends[i].1 := by
      rw [List.getElem?_map, List.getElem?_eq_getElem hi']
      rfl
    obtain ⟨earlier, state, later, t, rfl, -, ht, htells⟩ := hlast (lastAt_of_nodup hnodup hid)
    obtain ⟨e, he, heq⟩ := List.mem_map.1 (hperm.subset (List.mem_append_right _ List.mem_cons_self))
    obtain ⟨hsame, hstate⟩ := Prod.mk.inj heq
    have hend : e = ends[i] := List.inj_on_of_nodup_map hnodup he (List.getElem_mem hi') hsame
    rw [← hstate, hend] at htells
    obtain ⟨_, rfl⟩ := List.getElem?_eq_some_iff.1 ht
    exact htells

/-! ## The rows that are shown -/

variable {τ : Type} [Timeline τ] {env : Surroundings τ} {batches : List (Batch τ)}
  {w v : World (Page.Cache τ) τ} {boards : List Board} {overs : List Over}

/-- What the displays and the rows tell once all waits are over. -/
structure RowsShown (names : List (Int × String)) (batches : List (Batch τ)) (env : Surroundings τ)
    (w v : World (Page.Cache τ) τ) (overs : List Over) (ends : List (Int × Batch.State × String))
    (board : Board) : Prop where
  given : Terminal.watch names batches env w = (.ok ends, v)
  shown : v.trace.displays.getLast? = some (.board board)
  numbers : batches.mapM Batch.number = .ok (ends.map Prod.fst)
  told : RowsTold board (overs.map fun o => (o.id, o.state)) ends

/-- Once all waits are over, the display that is shown last has a row for each batch, and these tell the
ends of their batches exactly if no batch is waited for twice. -/
theorem Watches.rows_settled_iff (h : Watches env names batches w boards overs none v) :
    ∃ ends board, RowsShown names batches env w v overs ends board := by
  obtain ⟨r, hwatch, hgives⟩ := h.watch
  have hdisplays := h.displays
  cases hgives with
  | @ends ends hends hperm =>
  cases h with
  | @numbered ids _ _ _ hids hturns =>
  have hnumbers : batches.mapM Batch.number = .ok (ends.map Prod.fst) := by
    refine mapM_eq_ok_iff.2 (List.forall₂_map_right_iff.2 ?_)
    rw [← List.zipIdx_map_fst 0 batches, List.forall₂_map_left_iff]
    refine hends.imp fun p e hover => ?_
    obtain ⟨o, -, -, hend, rfl⟩ := hover
    exact hend.1
  have hsame : ends.map Prod.fst = ids := Except.ok.inj (hnumbers.symm.trans hids)
  refine ⟨ends, _, hwatch, ?_, hnumbers, rowsTold_afterEnds names hsame ?_⟩
  · rw [hdisplays, List.getLast?_append, List.getLast?_map, Board.getLast?_course]
    rfl
  · have hpairs := hperm.symm.map fun e => (e.1, e.2.1)
    rwa [List.map_map] at hpairs

omit [Timeline τ] in
theorem Wait.fst_of_ending {wait : Wait τ} {e : Int × Batch.State × String} (h : wait.ending = .ok e) :
    e.1 = wait.id := by
  unfold ending at h
  cases houtcome : wait.outcome with
  | error stop =>
      rw [houtcome] at h
      cases h
  | ok result =>
      rw [houtcome] at h
      obtain rfl := Except.ok.inj h
      rfl

omit [Timeline τ] in
/-- Waits that know nothing of each other leave the rows in the same way. -/
theorem watched_rowsTold {waits : List (Wait τ)} {ends : List (Int × Batch.State × String)}
    (h : waits.mapM Wait.ending = .ok ends) (names : List (Int × String)) :
    ∃ order board, watched names waits = .ok (ends, board) ∧
      order.Perm (ends.map fun e => (e.1, e.2.1)) ∧ RowsTold board order ends := by
  obtain ⟨inOrder, hperm, hwatched⟩ := watched_eq h names
  have hids : ends.map Prod.fst = waits.map Wait.id := by
    rw [← List.forall₂_eq_eq_eq, List.forall₂_map_left_iff, List.forall₂_map_right_iff]
    exact (mapM_eq_ok_iff.1 h).flip.imp fun e wait hending => Wait.fst_of_ending hending
  have hpairs := hperm.map fun e => (e.1, e.2.1)
  exact ⟨_, _, hwatched, hpairs, rowsTold_afterEnds names hids hpairs⟩

/-- What a server says of a batch. -/
def saidOf (id state : String) : Route :=
  ⟨.get, "http://gateway/batches/" ++ id,
    [.reply 200 (some ("\x7b\"id\": " ++ id ++ ", \"state\": \"" ++ state ++ "\"\x7d")) none]⟩

/-- A server that knows three batches: one has come to a good end, one is dead and one was killed. -/
def endedBatches : Script := ⟨[saidOf "7" "success", saidOf "8" "dead", saidOf "9" "killed"], 3⟩

/-- A batch of that server. -/
def endedBatch (id : Int) : Batch Number := .attached "http://gateway/batches" id none ⟨1, .whole 1⟩

theorem rows_settled_of_threeBatches :
    let env : Surroundings Number := { Surroundings.ofScript endedBatches with turn := turnsOf [2, 0, 1] }
    let batches := [endedBatch 7, endedBatch 8, endedBatch 9]
    let w : World (Page.Cache Number) Number := ⟨.empty (.whole 0) 0, .whole 0, []⟩
    ∃ boards overs v ends board, Watches env [] batches w boards overs none v ∧
      RowsShown [] batches env w v overs ends board ∧ ends.map Prod.fst = [7, 8, 9] ∧ board.Settled ends ∧
      board.tracks = [⟨"7", "DONE", "ok", 1⟩, ⟨"8", "DEAD", "err", 1⟩, ⟨"9", "KILLED", "err", 1⟩] := by
  intro env batches w
  have hrun : ((Terminal.watch [] batches env w).1.toOption.map fun ends => ends.map Prod.fst) =
        some [7, 8, 9] ∧
      (Terminal.watch [] batches env w).2.trace.displays.getLast? = some (.board ⟨3, 3, 2,
        [⟨"7", "DONE", "ok", 1⟩, ⟨"8", "DEAD", "err", 1⟩, ⟨"9", "KILLED", "err", 1⟩]⟩) := by
    decide +kernel
  obtain ⟨boards, overs, stop, v, h⟩ := exists_watches env [] batches w
  obtain ⟨r, hwatch, hgives⟩ := h.watch
  cases hgives with
  | stop e =>
      rw [hwatch] at hrun
      cases hrun.1
  | ends =>
      obtain ⟨ends, board, hshown⟩ := h.rows_settled_iff
      rw [hshown.given] at hrun
      have hids : ends.map Prod.fst = [7, 8, 9] := Option.some.inj hrun.1
      have hboard := Display.board.inj (Option.some.inj (hshown.shown.symm.trans hrun.2))
      refine ⟨boards, overs, v, ends, board, h, hshown, hids, ?_, congrArg Board.tracks hboard⟩
      exact hshown.told.settled_iff.2 (hids ▸ by decide)

/-- If the batch 7 is waited for twice, its first row is left waiting. -/
theorem rows_not_settled :
    let env : Surroundings Number := { Surroundings.ofScript endedBatches with turn := turnsOf [0, 1] }
    let batches := [endedBatch 7, endedBatch 7]
    let w : World (Page.Cache Number) Number := ⟨.empty (.whole 0) 0, .whole 0, []⟩
    ∃ ends board v, Terminal.watch [] batches env w = (.ok ends, v) ∧
      ends = [(7, .success, ""), (7, .success, "")] ∧ v.trace.displays.getLast? = some (.board board) ∧
      board.tracks = [⟨"7", "WAITING", "warn", 0⟩, ⟨"7", "DONE", "ok", 1⟩] ∧ ¬ board.Settled ends := by
  intro env batches w
  have hrun : (Terminal.watch [] batches env w).1.toOption = some [(7, .success, ""), (7, .success, "")] ∧
      (Terminal.watch [] batches env w).2.trace.displays.getLast? =
        some (.board ⟨2, 2, 0, [⟨"7", "WAITING", "warn", 0⟩, ⟨"7", "DONE", "ok", 1⟩]⟩) := by
    decide +kernel
  obtain ⟨⟨r, v⟩, hwatch⟩ : ∃ result, Terminal.watch [] batches env w = result := ⟨_, rfl⟩
  rw [hwatch] at hrun
  cases r with
  | error e => cases hrun.1
  | ok ends =>
      obtain rfl := Option.some.inj hrun.1
      refine ⟨_, _, v, hwatch, rfl, hrun.2, rfl, fun hsettled => ?_⟩
      obtain ⟨hfirst, -⟩ := List.forall₂_cons.1 hsettled
      cases hfirst.completed

end SparkGateway.Terminal
