import Mathlib.Data.List.InsertIdx
import Mathlib.Data.List.Perm.Basic
import SparkGateway.Proofs.Batch.Pieces
import SparkGateway.Proofs.Exchange.Answers
import SparkGateway.Proofs.Exchange.Shown
import SparkGateway.Proofs.Page.Fetching
import SparkGateway.Terminal.Progress

/-!
# Watching batches

Several batches are waited for at the same time, and their waits are over in an order that the
surroundings decide.  `Turns` follows that order: whose wait is over next, what it has come to, and what
is left; the first wait that stops ends them all.

Each wait is counted on the progress display exactly once, and the ends are given in the places of the
batches, so the order leaves no mark on what is given (`Watches.allOver`).  Every order can occur
(`Watches.order`).
-/

namespace SparkGateway.Terminal

open Run

variable {τ : Type} [Timeline τ]

/-- A wait that is over: the place of its batch among those that are waited for, and how it ended. -/
structure Over where
  place : Nat
  id : Int
  state : Batch.State
  diagnostics : String

/-- The end that is given for a wait. -/
def Over.ending (o : Over) : Int × Batch.State × String := (o.id, o.state, o.diagnostics)

/-- The display after one more wait is over. -/
def Board.counting (ids : List Int) (board : Board) (o : Over) : Board := board.finish ids o.id o.state

/-- The displays while one wait after another is over. -/
def Board.course (ids : List Int) (board : Board) (overs : List Over) : List Board :=
  overs.scanl (Board.counting ids) board

/-- Which of some batches is complete next. -/
def nextOver (env : Surroundings τ) (batches : List (Batch τ)) (w : World (Page.Cache τ) τ) : Nat :=
  env.turn ((batches.map awaitEnd).map fun x => x.prospect env w) % batches.length

/-- The waits for the batches that are left, each with its place, are over one after the other; the
first that stops ends them all. -/
inductive Turns (env : Surroundings τ) (ids : List Int) :
    Board → List (Batch τ × Nat) → World (Page.Cache τ) τ → List Over → Option Stop →
      World (Page.Cache τ) τ → Prop where
  | all (board : Board) (w : World (Page.Cache τ) τ) : Turns env ids board [] w [] none w
  | complete {board : Board} {left : List (Batch τ × Nat)} {w u v : World (Page.Cache τ) τ} {b : Batch τ}
      {o : Over} {overs : List Over} {stop : Option Stop} :
      left[nextOver env (left.map Prod.fst) w]? = some (b, o.place) → b.number = .ok o.id →
      b.awaitCompletion env w = (.ok (o.state, o.diagnostics), u) →
      Turns env ids (board.counting ids o) (left.eraseIdx (nextOver env (left.map Prod.fst) w))
        (u.showing (.board (board.counting ids o))) overs stop v →
      Turns env ids board left w (o :: overs) stop v
  | stops {board : Board} {left : List (Batch τ × Nat)} {w v : World (Page.Cache τ) τ} {b : Batch τ}
      {place : Nat} {e : Stop} :
      left[nextOver env (left.map Prod.fst) w]? = some (b, place) →
      b.awaitCompletion env w = (.error e, v) →
      Turns env ids board left w [] (some e) v

/-! ## One wait -/

theorem piece_unseen {α : Type} {x : Run (Page.Cache τ) τ α} (h : Batch.Piece x) :
    Shows (fun _ => False) x := by
  cases h with
  | memory | remember _ | now => exact shows_of_unseen fun _ _ => rfl
  | ask q _ => exact ask_shows q
  | load url =>
      refine shows_of_unseen fun env w => ?_
      rw [Page.load_eq]
      simp [Page.loading, Page.connecting, Trace.displays, Step.display?]
  | sleep amount => exact sleep_shows amount
  | give item => exact give_shows item
  | note level text => exact note_shows level text

theorem awaitCompletion_unseen (b : Batch τ) (env : Surroundings τ) (w : World (Page.Cache τ) τ) :
    (b.awaitCompletion env w).2.trace.displays = w.trace.displays :=
  (b.awaitCompletion_plain.closed shows_closed piece_unseen).unseen env w

variable {env : Surroundings τ} {ids : List Int} {board : Board} {left : List (Batch τ × Nat)}
  {w u v : World (Page.Cache τ) τ} {b : Batch τ} {o : Over} {overs : List Over} {stop : Option Stop}

theorem awaitEnd_of_ok (hid : b.number = .ok o.id)
    (h : b.awaitCompletion env w = (.ok (o.state, o.diagnostics), u)) :
    awaitEnd b env w = (.ok o.ending, u) := by
  unfold awaitEnd
  rw [bind_ok h]
  dsimp only
  rw [hid]
  rfl

theorem awaitEnd_of_error {e : Stop} (h : b.awaitCompletion env w = (.error e, u)) :
    awaitEnd b env w = (.error e, u) :=
  bind_error h

theorem next_eq (batches : List (Batch τ)) (w : World (Page.Cache τ) τ) :
    Run.next (batches.map awaitEnd) env w = (.ok (nextOver env batches w), w) := by
  unfold Run.next nextOver
  rw [List.length_map]

theorem watchFrom_of_over {n : Nat} {batches : List (Batch τ)}
    {r : Except Stop (List (Int × Batch.State × String))}
    (hb : batches[nextOver env batches w]? = some b) (hend : awaitEnd b env w = (.ok o.ending, u))
    (hrest : watchFrom ids n (board.counting ids o) (batches.eraseIdx (nextOver env batches w)) env
      (u.showing (.board (board.counting ids o))) = (r, v)) :
    watchFrom ids (n + 1) board batches env w =
      (r.map fun others => others.insertIdx (nextOver env batches w) o.ending, v) := by
  rw [watchFrom, bind_ok (next_eq batches w)]
  dsimp only
  rw [hb]
  dsimp only
  rw [bind_ok hend, bind_ok (display_eq _ _ _)]
  cases r with
  | ok others => exact bind_ok hrest
  | error e => exact bind_error hrest

theorem watchFrom_of_stop {n : Nat} {batches : List (Batch τ)} {e : Stop}
    (hb : batches[nextOver env batches w]? = some b) (hend : awaitEnd b env w = (.error e, v)) :
    watchFrom ids (n + 1) board batches env w = (.error e, v) := by
  rw [watchFrom, bind_ok (next_eq batches w)]
  dsimp only
  rw [hb]
  exact bind_error hend

/-! ## The display -/

/-- Whether a batch has come to a bad end. -/
def Over.failed (o : Over) : Bool := o.state != .success

theorem Board.course_cons (ids : List Int) (board : Board) (o : Over) (overs : List Over) :
    board.course ids (o :: overs) = board :: (board.counting ids o).course ids overs :=
  List.scanl_cons

/-- Each wait that is over moves the bar on by one. -/
theorem Board.completed_course (ids : List Int) (board : Board) (overs : List Over) :
    (board.course ids overs).map Board.completed =
      List.range' board.completed (overs.length + 1) := by
  induction overs generalizing board with
  | nil => rfl
  | cons o overs ih =>
      rw [course_cons, List.map_cons, ih, List.length_cons, List.range'_succ (n := overs.length + 1)]
      rfl

/-- What no end of a batch changes stays on every display. -/
theorem Board.kept_course {α : Type} (f : Board → α)
    (hf : ∀ board id state, f (finish ids board id state) = f board) (board : Board) (overs : List Over) :
    ∀ board' ∈ board.course ids overs, f board' = f board := by
  induction overs generalizing board with
  | nil => simp [course]
  | cons o overs ih =>
      rw [course_cons, List.forall_mem_cons]
      refine ⟨rfl, fun board' hboard' => ?_⟩
      exact (ih (board.counting ids o) board' hboard').trans (hf board o.id o.state)

theorem Board.kept_afterEnds {α : Type} (f : Board → α)
    (hf : ∀ board id state, f (finish ids board id state) = f board) (board : Board)
    (ends : List (Int × Batch.State)) : f (board.afterEnds ids ends) = f board := by
  induction ends generalizing board with
  | nil => rfl
  | cons e ends ih => exact (ih (board.finish ids e.1 e.2)).trans (hf board e.1 e.2)

theorem Board.failures_afterEnds (ids : List Int) (board : Board) (ends : List (Int × Batch.State)) :
    (board.afterEnds ids ends).failures = board.failures + ends.countP fun e => e.2 != .success := by
  induction ends generalizing board with
  | nil => rfl
  | cons e ends ih =>
      rw [List.countP_cons]
      refine (ih (board.finish ids e.1 e.2)).trans ?_
      by_cases hstate : e.2 = .success
      · simp [finish, hstate]
      · simp [finish, hstate]
        omega

theorem Board.getLast?_course (ids : List Int) (board : Board) (overs : List Over) :
    (board.course ids overs).getLast? =
      some (board.afterEnds ids (overs.map fun o => (o.id, o.state))) := by
  rw [course, List.getLast?_scanl, afterEnds, List.foldl_map]
  rfl

/-- The failures that are shown last are all there were. -/
theorem Board.failures_course (ids : List Int) (board : Board) (overs : List Over) :
    (board.course ids overs).getLast?.map Board.failures =
      some (board.failures + overs.countP Over.failed) := by
  rw [getLast?_course, Option.map_some, failures_afterEnds, List.countP_map]
  rfl

theorem Turns.displays (h : Turns env ids board left w overs stop v) {before : List Display}
    (hbefore : w.trace.displays = before ++ [.board board]) :
    v.trace.displays = before ++ (board.course ids overs).map .board := by
  induction h generalizing before with
  | all => exact hbefore
  | @complete board left w u v b o overs stop _ _ hends _ ih =>
      have hu : u.trace.displays = before ++ [.board board] := by
        rw [← hbefore, ← awaitCompletion_unseen b env w, hends]
      rw [ih (World.showing_displays _ _), hu, Board.course_cons, List.map_cons,
        List.append_assoc, List.singleton_append]
  | @stops board left w v b place e _ hends =>
      rw [← awaitCompletion_unseen b env w, hends] at hbefore
      exact hbefore

/-! ## What is given -/

/-- The end of a batch that a wait has come to. -/
def Over.EndOf (o : Over) (env : Surroundings τ) (b : Batch τ) : Prop :=
  b.number = .ok o.id ∧ ∃ w v : World (Page.Cache τ) τ,
    b.awaitCompletion env w = (.ok (o.state, o.diagnostics), v)

/-- What is given for batches with their places: the end of each where it stands among them, or else
what has stopped the wait for one of them. -/
inductive Gives (env : Surroundings τ) (left : List (Batch τ × Nat)) (overs : List Over) :
    Option Stop → Except Stop (List (Int × Batch.State × String)) → Prop where
  | ends {ends : List (Int × Batch.State × String)} :
      List.Forall₂ (fun p e => ∃ o ∈ overs, o.place = p.2 ∧ o.EndOf env p.1 ∧ o.ending = e) left ends →
      ends.Perm (overs.map Over.ending) → Gives env left overs none (.ok ends)
  | stop (e : Stop) : Gives env left overs (some e) (.error e)

theorem forall₂_insertIdx {α β : Type} {R : α → β → Prop} {as : List α} {bs : List β} {k : Nat} {a : α}
    {b : β} (h : List.Forall₂ R (as.eraseIdx k) bs) (ha : as[k]? = some a) (hab : R a b) :
    List.Forall₂ R as (bs.insertIdx k b) := by
  induction as generalizing k bs with
  | nil => cases ha
  | cons x as ih =>
      cases k with
      | zero =>
          obtain rfl : x = a := Option.some.inj ha
          exact .cons hab h
      | succ k =>
          cases h with
          | cons hx hrest => exact .cons hx (ih hrest ha)

theorem Gives.complete {r : Except Stop (List (Int × Batch.State × String))} {k : Nat}
    (h : Gives env (left.eraseIdx k) overs stop r) (hb : left[k]? = some (b, o.place))
    (ho : o.EndOf env b) :
    Gives env left (o :: overs) stop (r.map fun others => others.insertIdx k o.ending) := by
  cases h with
  | stop e => exact .stop e
  | @ends others hothers hperm =>
      have hk : k ≤ others.length := by
        obtain ⟨hlt, -⟩ := List.getElem?_eq_some_iff.1 hb
        have hlength := hothers.length_eq
        rw [List.length_eraseIdx_of_lt hlt] at hlength
        omega
      refine .ends (forall₂_insertIdx (hothers.imp fun p e => ?_) hb ?_) ?_
      · rintro ⟨o', ho', hend⟩
        exact ⟨o', List.mem_cons_of_mem o ho', hend⟩
      · exact ⟨o, List.mem_cons_self, rfl, ho, rfl⟩
      · exact (List.perm_insertIdx o.ending others hk).trans (hperm.cons o.ending)

/-- Waiting gives what the turns come to. -/
theorem Turns.watchFrom (h : Turns env ids board left w overs stop v) :
    ∃ r, Terminal.watchFrom ids left.length board (left.map Prod.fst) env w = (r, v) ∧
      Gives env left overs stop r := by
  have hbatch : ∀ {left : List (Batch τ × Nat)} {k : Nat} {b place}, left[k]? = some (b, place) →
      (left.map Prod.fst)[k]? = some b := by
    intro left k b place hb
    rw [List.getElem?_map, hb]
    rfl
  induction h with
  | all board w => exact ⟨.ok [], rfl, .ends .nil .nil⟩
  | @complete board left w u v b o overs stop hb hid hends hrest ih =>
      obtain ⟨r, hr, hgives⟩ := ih
      have hlt := (List.getElem?_eq_some_iff.1 hb).1
      have hlength : left.length = (left.eraseIdx (nextOver env (left.map Prod.fst) w)).length + 1 := by
        rw [List.length_eraseIdx_of_lt hlt]
        omega
      rw [← List.eraseIdx_map] at hr
      refine ⟨_, ?_, hgives.complete hb ⟨hid, w, u, hends⟩⟩
      rw [hlength]
      exact watchFrom_of_over (hbatch hb) (awaitEnd_of_ok hid hends) hr
  | @stops board left w v b place e hb hends =>
      have hlt := (List.getElem?_eq_some_iff.1 hb).1
      obtain ⟨n, hn⟩ : ∃ n, left.length = n + 1 := ⟨left.length - 1, by omega⟩
      rw [hn]
      exact ⟨.error e, watchFrom_of_stop (hbatch hb) (awaitEnd_of_error hends), .stop e⟩

/-- Every wait is over once. -/
theorem Turns.places (h : Turns env ids board left w overs none v) :
    (overs.map Over.place).Perm (left.map Prod.snd) := by
  generalize hnone : (none : Option Stop) = stop at h
  induction h with
  | all => exact .nil
  | @complete board left w u v b o overs stop hb _ _ _ ih =>
      obtain ⟨hlt, hget⟩ := List.getElem?_eq_some_iff.1 hb
      have hperm := (List.getElem_cons_eraseIdx_perm hlt).map Prod.snd
      rw [hget] at hperm
      exact ((ih hnone).cons o.place).trans hperm
  | stops => cases hnone

/-- The waits of numbered batches take turns in some way. -/
theorem exists_turns (hids : ∀ p ∈ left, ∃ id, p.1.number = .ok id) (board : Board)
    (w : World (Page.Cache τ) τ) : ∃ overs stop v, Turns env ids board left w overs stop v := by
  induction hn : left.length generalizing left board w with
  | zero =>
      rw [List.length_eq_zero_iff] at hn
      subst hn
      exact ⟨[], none, w, .all board w⟩
  | succ n ih =>
      have hlt : nextOver env (left.map Prod.fst) w < left.length := by
        unfold nextOver
        rw [List.length_map]
        exact Nat.mod_lt _ (by omega)
      obtain ⟨⟨b, place⟩, hb⟩ : ∃ p, left[nextOver env (left.map Prod.fst) w]? = some p :=
        ⟨_, List.getElem?_eq_getElem hlt⟩
      obtain ⟨id, hid⟩ := hids _ (List.mem_of_getElem? hb)
      obtain ⟨⟨r, u⟩, hends⟩ : ∃ result, b.awaitCompletion env w = result := ⟨_, rfl⟩
      cases r with
      | error e => exact ⟨[], some e, u, .stops hb hends⟩
      | ok ending =>
          obtain ⟨state, diagnostics⟩ := ending
          have hothers : ∀ p ∈ left.eraseIdx (nextOver env (left.map Prod.fst) w),
              ∃ id, p.1.number = .ok id :=
            fun p hp => hids p (List.mem_of_mem_eraseIdx hp)
          have hlength : (left.eraseIdx (nextOver env (left.map Prod.fst) w)).length = n := by
            rw [List.length_eraseIdx_of_lt hlt, hn]
            rfl
          let after := board.counting ids ⟨place, id, state, diagnostics⟩
          obtain ⟨overs, stop, v, hturns⟩ := ih hothers after (u.showing (.board after)) hlength
          exact ⟨_, stop, v, .complete hb hid hends hturns⟩

/-! ## Orders -/

/-- Turns in which waits are over in the given order of their places: the place of the next among
those that are left is how many of them stand before it. -/
def turnsOf (order : List Nat) (prospects : List (Prospect τ)) : Nat :=
  match order.drop (order.length - prospects.length) with
  | [] => 0
  | place :: later => later.countP (· < place)

theorem getElem?_countP_of_perm {places later : List Nat} {place : Nat}
    (hsorted : places.Pairwise (· < ·)) (hperm : places.Perm (place :: later)) :
    places[later.countP (· < place)]? = some place := by
  obtain ⟨before, after, rfl⟩ := List.append_of_mem (hperm.mem_iff.2 List.mem_cons_self)
  rw [List.pairwise_append, List.pairwise_cons] at hsorted
  obtain ⟨-, ⟨hafter, -⟩, hbefore⟩ := hsorted
  have hcount : later.countP (· < place) = before.length := by
    have hcounts := hperm.countP_eq (· < place)
    have hsmall : before.countP (· < place) = before.length :=
      List.countP_eq_length.2 fun a ha => decide_eq_true (hbefore a ha place List.mem_cons_self)
    have hlarge : after.countP (· < place) = 0 :=
      List.countP_eq_zero.2 fun a ha => by simpa using Nat.le_of_lt (hafter a ha)
    simp [hsmall, hlarge] at hcounts
    exact hcounts.symm
  rw [hcount]
  simp

theorem nextOver_turnsOf {order later : List Nat} {place : Nat} {batches : List (Batch τ)}
    (hrest : order.drop (order.length - batches.length) = place :: later)
    (hlength : batches.length = later.length + 1) :
    nextOver { env with turn := turnsOf order } batches w = later.countP (· < place) := by
  have hcount := List.countP_le_length (p := (· < place)) (l := later)
  unfold nextOver turnsOf
  simp only [List.length_map, hrest]
  exact Nat.mod_eq_of_lt (by omega)

/-- Waits can be over in any order. -/
theorem Turns.order {order : List Nat}
    (h : Turns { env with turn := turnsOf order } ids board left w overs none v)
    (hsorted : (left.map Prod.snd).Pairwise (· < ·)) {k : Nat}
    (hperm : (left.map Prod.snd).Perm (order.drop k)) : overs.map Over.place = order.drop k := by
  generalize hnone : (none : Option Stop) = stop at h
  induction h generalizing k with
  | all => exact hperm.nil_eq
  | stops => cases hnone
  | @complete board left w u v b o overs stop hb _ _ _ ih =>
      cases hrest : order.drop k with
      | nil =>
          rw [hrest, List.perm_nil, List.map_eq_nil_iff] at hperm
          subst hperm
          cases hb
      | cons place later =>
          have hlater : order.drop (k + 1) = later := by
            rw [← List.drop_drop, hrest]
            rfl
          have hlength := hperm.length_eq
          have hdrop : order.length - (left.map Prod.fst).length = k := by
            rw [hrest, List.length_map, List.length_cons] at hlength
            have hk := congrArg List.length hrest
            rw [List.length_drop, List.length_cons] at hk
            rw [List.length_map]
            omega
          rw [hrest] at hperm hlength
          rw [nextOver_turnsOf (by rw [hdrop, hrest]) (by simpa using hlength)] at hb ih
          have hfirst : (left.map Prod.snd)[later.countP (· < place)]? = some o.place := by
            rw [List.getElem?_map, hb]
            rfl
          have hplace : o.place = place :=
            Option.some.inj (hfirst.symm.trans (getElem?_countP_of_perm hsorted hperm))
          rw [List.map_cons, hplace, ih (k := k + 1) ?_ ?_ hnone, hlater]
          · rw [← List.eraseIdx_map]
            exact hsorted.sublist (List.eraseIdx_sublist _ _)
          · rw [hlater, ← List.eraseIdx_map]
            exact hperm.eraseIdx_of_getElem?_eq (n := 0) (hfirst.trans (congrArg some hplace))

/-! ## All batches -/

/-- Waiting for batches: the displays, the waits that were over, what has stopped them, if anything did,
and the world after that.  Without the numbers of all batches nobody waits. -/
inductive Watches (env : Surroundings τ) (names : List (Int × String)) (batches : List (Batch τ))
    (w : World (Page.Cache τ) τ) :
    List Board → List Over → Option Stop → World (Page.Cache τ) τ → Prop where
  | unnumbered {f : Fault} :
      batches.mapM Batch.number = .error f → Watches env names batches w [] [] (some (.fault f)) w
  | numbered {ids : List Int} {overs : List Over} {stop : Option Stop} {v : World (Page.Cache τ) τ} :
      batches.mapM Batch.number = .ok ids →
      Turns env ids (Board.start names ids) batches.zipIdx
        (w.showing (.board (Board.start names ids))) overs stop v →
      Watches env names batches w ((Board.start names ids).course ids overs) overs stop v

variable {names : List (Int × String)} {batches : List (Batch τ)} {boards : List Board}

theorem exists_watches (env : Surroundings τ) (names : List (Int × String)) (batches : List (Batch τ))
    (w : World (Page.Cache τ) τ) : ∃ boards overs stop v, Watches env names batches w boards overs stop v := by
  cases hids : batches.mapM Batch.number with
  | error f => exact ⟨[], [], _, w, .unnumbered hids⟩
  | ok ids =>
      have hnumbers : ∀ p ∈ batches.zipIdx, ∃ id, p.1.number = .ok id := by
        intro p hp
        obtain ⟨id, -, hid⟩ := exists_of_mem_left (mapM_eq_ok_iff.1 hids) (List.fst_mem_of_mem_zipIdx hp)
        exact ⟨id, hid⟩
      obtain ⟨overs, stop, v, hturns⟩ := exists_turns hnumbers (Board.start names ids) _
      exact ⟨_, overs, stop, v, .numbered hids hturns⟩

theorem Watches.watch (h : Watches env names batches w boards overs stop v) :
    ∃ r, Terminal.watch names batches env w = (r, v) ∧ Gives env batches.zipIdx overs stop r := by
  cases h with
  | @unnumbered f hids =>
      refine ⟨.error (.fault f), ?_, .stop _⟩
      unfold Terminal.watch
      rw [hids]
      rfl
  | numbered hids hturns =>
      obtain ⟨r, hr, hgives⟩ := hturns.watchFrom
      refine ⟨r, ?_, hgives⟩
      rw [List.length_zipIdx, List.zipIdx_map_fst] at hr
      unfold Terminal.watch
      rw [hids]
      exact hr

theorem Watches.displays (h : Watches env names batches w boards overs stop v) :
    v.trace.displays = w.trace.displays ++ boards.map .board := by
  cases h with
  | unnumbered => simp
  | numbered _ hturns => exact hturns.displays (World.showing_displays _ _)

/-- Every order of the batches is one in which they can be complete. -/
theorem Watches.order {order : List Nat} (horder : order.Perm (List.range batches.length))
    (h : Watches { env with turn := turnsOf order } names batches w boards overs none v) :
    overs.map Over.place = order := by
  cases h with
  | numbered _ hturns =>
      have hplaces : batches.zipIdx.map Prod.snd = List.range batches.length := by
        rw [List.zipIdx_map_snd, List.range_eq_range']
      refine hturns.order (k := 0) ?_ ?_
      · rw [hplaces]
        exact List.pairwise_lt_range
      · rw [hplaces]
        exact horder.symm

/-- What is shown and given once the waits for all batches are over. -/
structure AllOver (env : Surroundings τ) (batches : List (Batch τ)) (boards : List Board)
    (overs : List Over) (ends : List (Int × Batch.State × String)) : Prop where
  length : ends.length = batches.length
  inOrder : ∀ (i : Nat) (b : Batch τ), batches[i]? = some b →
    ∃ o ∈ overs, o.place = i ∧ o.EndOf env b ∧ ends[i]? = some o.ending
  once : (overs.map Over.place).Perm (List.range batches.length)
  total : ∀ board ∈ boards, board.total = max batches.length 1
  advanced : boards.map Board.completed = List.range (batches.length + 1)
  failures : boards.getLast?.map Board.failures = some (ends.countP fun e => e.2.1 != .success)

/-- Whatever order the waits are over in, the ends are given in the order of the batches. -/
theorem Watches.allOver (h : Watches env names batches w boards overs none v) :
    ∃ ends, Terminal.watch names batches env w = (.ok ends, v) ∧ AllOver env batches boards overs ends := by
  obtain ⟨r, hwatch, hgives⟩ := h.watch
  cases hgives with
  | @ends ends hends hperm =>
  cases h with
  | @numbered ids _ _ _ hids hturns =>
  have hplaces : (overs.map Over.place).Perm (List.range batches.length) := by
    have hplaces := hturns.places
    rwa [List.zipIdx_map_snd, ← List.range_eq_range'] at hplaces
  have hcount : overs.length = batches.length := by simpa using hplaces.length_eq
  refine ⟨ends, hwatch, ?_, ?_, hplaces, ?_, ?_, ?_⟩
  · rw [← hends.length_eq, List.length_zipIdx]
  · intro i b hb
    obtain ⟨hi, rfl⟩ := List.getElem?_eq_some_iff.1 hb
    obtain ⟨hlength, hget⟩ := List.forall₂_iff_get.1 hends
    rw [List.length_zipIdx] at hlength
    obtain ⟨o, ho, hplace, hend, hending⟩ := hget i (by simpa using hi) (hlength ▸ hi)
    simp only [List.get_eq_getElem, List.getElem_zipIdx, Nat.zero_add] at hplace hend hending
    exact ⟨o, ho, hplace, hend, List.getElem?_eq_some_iff.2 ⟨hlength ▸ hi, hending.symm⟩⟩
  · intro board hboard
    rw [Board.kept_course Board.total (fun _ _ _ => rfl) _ overs board hboard,
      (mapM_eq_ok_iff.1 hids).length_eq]
    rfl
  · rw [Board.completed_course, hcount, List.range_eq_range']
    rfl
  · rw [Board.failures_course, hperm.countP_eq, List.countP_map]
    exact congrArg some (Nat.zero_add _)

/-! ## Waits in worlds of their own -/

omit [Timeline τ] in
/-- Waits that know nothing of each other give the ends in their order, and the display after these ends
in the order in which the waits are over. -/
theorem watched_eq {waits : List (Wait τ)} {ends : List (Int × Batch.State × String)}
    (h : waits.mapM Wait.ending = .ok ends) (names : List (Int × String)) :
    ∃ inOrder : List (Int × Batch.State × String), inOrder.Perm ends ∧ watched names waits =
      .ok (ends, (Board.start names (waits.map Wait.id)).afterEnds (waits.map Wait.id)
        (inOrder.map fun e => (e.1, e.2.1))) := by
  obtain ⟨inOrder, hforall, hperm⟩ :=
    List.perm_comp_forall₂ (Wait.inOrder_perm waits) (mapM_eq_ok_iff.1 h)
  refine ⟨inOrder, hperm, ?_⟩
  unfold watched
  rw [mapM_eq_ok_iff.2 hforall, h]
  rfl

omit [Timeline τ] in
/-- Each of the waits is counted once. -/
theorem watched_of_ended {waits : List (Wait τ)} {ends : List (Int × Batch.State × String)}
    (h : waits.mapM Wait.ending = .ok ends) (names : List (Int × String)) :
    ∃ board, watched names waits = .ok (ends, board) ∧ board.total = max waits.length 1 ∧
      board.completed = waits.length ∧ board.failures = ends.countP fun e => e.2.1 != .success := by
  obtain ⟨inOrder, hperm, hwatched⟩ := watched_eq h names
  refine ⟨_, hwatched, ?_, ?_, ?_⟩
  · rw [Board.kept_afterEnds Board.total (fun _ _ _ => rfl), Board.start, List.length_map]
  · rw [completed_afterEnds, List.length_map, hperm.length_eq, ← (mapM_eq_ok_iff.1 h).length_eq]
    exact Nat.zero_add _
  · rw [Board.failures_afterEnds, List.countP_map, ← hperm.countP_eq]
    exact Nat.zero_add _

end SparkGateway.Terminal
