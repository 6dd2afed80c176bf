import SparkGateway.Exchange.Replies
import SparkGateway.Proofs.Polling.Attempts

/-!
# The budget of a polled operation

How often an operation is tried, and what comes of it, told by the outcomes of the attempts alone.  The
attempts are numbered from zero, and each has its world: that of the first is the world at the start, and
that of another is what one attempt more, the remark on it and one pause make of the world before
(`Polled.worldAt`).  So in the world of attempt `k` there have been `k` attempts, with one pause after
each.

The first attempt that comes to a value, or to a stop other than a failure to reach the service, decides
the polling.  If none does among as many as are allowed, the attempts are exhausted, and a pause that is
cut short ends the polling at once (`seek_by_outcomes`).
-/

namespace SparkGateway

variable {σ τ α : Type}

namespace Polling

/-- The failure to reach the service that an attempt came to. -/
def failure? : Except Stop (Option α) → Option String
  | .error (.fault (.unreachable message)) => some message
  | _ => none

/-- The last failure to reach the service among attempts that came to `outcomes`. -/
def lastFailure (outcomes : List (Except Stop (Option α))) : Option String :=
  (outcomes.filterMap failure?).getLast?

/-- The remark on the attempt with a number, counted from one, that came to `r`: there is one if the
service could not be reached. -/
def remark (p : Polling τ) (what : String) (number : Int) (r : Except Stop (Option α)) : Trace τ :=
  match failure? r with
  | some message =>
    let count := number.repr
    let most := p.attempts.repr
    [.noted .debug s!"Attempt {count}/{most} to {what} failed: {message}"]
  | none => []

theorem lastFailure_append (outcomes : List (Except Stop (Option α))) (r : Except Stop (Option α)) :
    lastFailure (outcomes ++ [r]) = lastAfter (lastFailure outcomes) r := by
  cases r with
  | ok found => simp [lastFailure, failure?, lastAfter]
  | error e =>
      cases e with
      | fault f => cases f <;> simp [lastFailure, failure?, lastAfter]
      | _ => simp [lastFailure, failure?, lastAfter]

end Polling

/-- An operation that is polled in some surroundings, from a world on. -/
structure Polled (σ τ α : Type) where
  polling : Polling τ
  what : String
  operation : Run σ τ (Option α)
  env : Surroundings τ
  start : World σ τ

namespace Polled

open Run Polling

/-- The world after an attempt, the one with a number, in a world. -/
def after (x : Polled σ τ α) (number : Int) (w : World σ τ) : World σ τ :=
  let v := (x.operation x.env w).2
  { v with trace := v.trace ++ x.polling.remark x.what number (x.operation x.env w).1 }

variable [Timeline τ]

/-- A world after a pause. -/
def rested (x : Polled σ τ α) (w : World σ τ) : World σ τ :=
  ⟨w.memory, Timeline.plus w.now x.polling.pause, w.trace ++ [.slept x.polling.pause]⟩

/-- The world in which attempt `k` is made, counted from zero, if no attempt before it decides the
polling. -/
def worldAt (x : Polled σ τ α) : Nat → World σ τ
  | 0 => x.start
  | k + 1 => x.rested (x.after (k + 1) (x.worldAt k))

/-- What attempt `k` comes to. -/
def outcomeAt (x : Polled σ τ α) (k : Nat) : Except Stop (Option α) :=
  (x.operation x.env (x.worldAt k)).1

/-- The world after attempt `k`. -/
def worldAfter (x : Polled σ τ α) (k : Nat) : World σ τ := x.after (k + 1) (x.worldAt k)

/-- The world in which the pause after attempt `k` has begun. -/
def pausing (x : Polled σ τ α) (k : Nat) : World σ τ :=
  ⟨(x.worldAfter k).memory, (x.worldAfter k).now,
    (x.worldAfter k).trace ++ [.slept x.polling.pause]⟩

/-- What cuts the pause after attempt `k` short, if anything does. -/
def haltAfter (x : Polled σ τ α) (k : Nat) : Option Stop := x.env.halt (x.pausing k).trace

/-- The first `k` attempts give nothing yet. -/
def NothingYet (x : Polled σ τ α) (k : Nat) : Prop := ∀ j < k, notYet (x.outcomeAt j) = true

/-- None of the first `k` pauses is cut short. -/
def Rests (x : Polled σ τ α) (k : Nat) : Prop := ∀ j < k, x.haltAfter j = none

/-- What the polling comes to, and the world after it. -/
def result (x : Polled σ τ α) : Except Stop α × World σ τ :=
  x.polling.seek x.what x.operation x.env x.start

variable {x : Polled σ τ α}

/-! ## One attempt -/

omit [Timeline τ] in
theorem tryOnce_of_notYet {w : World σ τ} {number : Int} {last : Option String}
    (h : notYet (x.operation x.env w).1 = true) :
    x.polling.tryOnce x.what number last x.operation x.env w =
      (.ok (none, lastAfter last (x.operation x.env w).1), x.after number w) := by
  have hreachable := reachable_eq x.operation x.env w
  rcases notYet_iff.1 h with hnone | ⟨message, hlost⟩
  · rw [hnone] at hreachable
    have hafter : x.after number w = (x.operation x.env w).2 := by
      simp [after, hnone, remark, failure?]
    rw [hafter, hnone]
    exact bind_ok hreachable
  · rw [hlost] at hreachable
    have hafter : x.after number w = { (x.operation x.env w).2 with
        trace := (x.operation x.env w).2.trace ++
          x.polling.remark x.what number (.error (.fault (.unreachable message)) :
            Except Stop (Option α)) } := by
      simp [after, hlost]
    rw [hafter, hlost]
    exact bind_ok hreachable

omit [Timeline τ] in
theorem tryOnce_of_value {w : World σ τ} {number : Int} {last : Option String} {a : α}
    (h : (x.operation x.env w).1 = .ok (some a)) :
    x.polling.tryOnce x.what number last x.operation x.env w =
      (.ok (some a, last), (x.operation x.env w).2) := by
  have hreachable := reachable_eq x.operation x.env w
  rw [h] at hreachable
  exact bind_ok hreachable

omit [Timeline τ] in
theorem tryOnce_of_stop {w : World σ τ} {number : Int} {last : Option String} {e : Stop}
    (h : (x.operation x.env w).1 = .error e)
    (hstop : notYet (.error e : Except Stop (Option α)) = false) :
    x.polling.tryOnce x.what number last x.operation x.env w =
      (.error e, (x.operation x.env w).2) := by
  have hreachable := reachable_eq x.operation x.env w
  have hheard : heard (.error e : Except Stop (Option α)) = .error e := by
    cases e with
    | fault f =>
        cases f with
        | unreachable message => cases hstop
        | _ => rfl
    | _ => rfl
  rw [h, hheard] at hreachable
  exact bind_error hreachable

/-! ## Attempts up to a world -/

/-- What is left of the polling in the world of attempt `k`, if `left` more attempts are allowed. -/
def remaining (x : Polled σ τ α) (k left : Nat) : Except Stop α × World σ τ :=
  x.polling.tries x.what x.operation left
    (lastFailure ((List.range k).map x.outcomeAt)) x.env (x.worldAt k)

theorem lastFailure_succ (k : Nat) :
    lastFailure ((List.range (k + 1)).map x.outcomeAt) =
      lastAfter (lastFailure ((List.range k).map x.outcomeAt)) (x.outcomeAt k) := by
  rw [List.range_succ, List.map_append]
  exact lastFailure_append _ _

theorem remaining_of_value {k left : Nat} {a : α} (h : x.outcomeAt k = .ok (some a)) :
    x.remaining k (left + 1) = (.ok a, (x.operation x.env (x.worldAt k)).2) :=
  bind_ok (tryOnce_of_value h)

theorem remaining_of_stop {k left : Nat} {e : Stop} (h : x.outcomeAt k = .error e)
    (hstop : notYet (x.outcomeAt k) = false) :
    x.remaining k (left + 1) = (.error e, (x.operation x.env (x.worldAt k)).2) :=
  bind_error (tryOnce_of_stop h (h ▸ hstop))

/-- An attempt that gives nothing yet is followed by the rest of the polling, after a pause if there is
a rest. -/
theorem remaining_of_notYet {k left : Nat} (hnumber : (k : Int) + 1 = x.polling.attempts - left)
    (h : notYet (x.outcomeAt k) = true) :
    x.remaining k (left + 1) =
      (do
        if left ≠ 0 then Run.sleep x.polling.pause
        x.polling.tries x.what x.operation left
          (lastFailure ((List.range (k + 1)).map x.outcomeAt)) : Run σ τ α)
        x.env (x.worldAfter k) := by
  rw [lastFailure_succ]
  unfold remaining worldAfter
  rw [hnumber]
  exact bind_ok (tryOnce_of_notYet h)

theorem remaining_exhausted {k : Nat} (hnumber : (k : Int) + 1 = x.polling.attempts)
    (h : notYet (x.outcomeAt k) = true) :
    x.remaining k 1 = (.error (.fault (.exhausted x.what x.polling.attempts
      (lastFailure ((List.range (k + 1)).map x.outcomeAt)))), x.worldAfter k) := by
  rw [remaining_of_notYet (by simpa using hnumber) h]
  rfl

theorem remaining_halted {k left : Nat} {e : Stop}
    (hnumber : (k : Int) + 1 = x.polling.attempts - (left + 1 : Nat))
    (h : notYet (x.outcomeAt k) = true) (hhalt : x.haltAfter k = some e) :
    x.remaining k (left + 2) =
      (.error e, x.pausing k) := by
  rw [remaining_of_notYet hnumber h]
  refine bind_error ?_
  unfold haltAfter pausing at hhalt
  simp [Run.sleep, hhalt, pausing]

theorem remaining_succ {k left : Nat}
    (hnumber : (k : Int) + 1 = x.polling.attempts - (left + 1 : Nat))
    (h : notYet (x.outcomeAt k) = true) (hhalt : x.haltAfter k = none) :
    x.remaining k (left + 2) = x.remaining (k + 1) (left + 1) := by
  rw [remaining_of_notYet hnumber h]
  exact bind_ok (sleep_eq _ _ _ hhalt)

/-- As long as nothing decides the polling and no pause is cut short, the next attempt is made in its
world. -/
theorem result_eq_remaining {k : Nat} (hk : (k : Int) < x.polling.attempts) (hyet : x.NothingYet k)
    (hrests : x.Rests k) :
    x.result = x.remaining k (x.polling.attempts.toNat - k) := by
  induction k with
  | zero =>
      have hattempts : ¬ x.polling.attempts < 1 := by omega
      unfold result seek
      rw [if_neg hattempts]
      rfl
  | succ k ih =>
      have hbefore : x.result = x.remaining k (x.polling.attempts.toNat - k) :=
        ih (by omega) (fun j hj => hyet j (by omega)) (fun j hj => hrests j (by omega))
      obtain ⟨left, hleft⟩ : ∃ left, x.polling.attempts.toNat - k = left + 2 :=
        ⟨x.polling.attempts.toNat - k - 2, by omega⟩
      have hrest : x.polling.attempts.toNat - (k + 1) = left + 1 := by omega
      rw [hbefore, hleft, hrest]
      exact remaining_succ (by omega) (hyet k (by omega)) (hrests k (by omega))

/-! ## Counting attempts and pauses -/

/-- Whatever counts the attempts: each adds one, and remarks and pauses add nothing. -/
structure Counts (x : Polled σ τ α) (count : World σ τ → Nat) : Prop where
  attempt : ∀ w, count (x.operation x.env w).2 = count w + 1
  remark : ∀ w level text, count { w with trace := w.trace ++ [.noted level text] } = count w
  pause : ∀ w t amount, count ⟨w.memory, t, w.trace ++ [.slept amount]⟩ = count w

/-- The operation makes no pause of its own. -/
def Restless (x : Polled σ τ α) : Prop :=
  ∀ w, (x.operation x.env w).2.trace.pauses = w.trace.pauses

theorem count_worldAfter {count : World σ τ → Nat} (h : x.Counts count) (k : Nat) :
    count (x.worldAfter k) = count (x.worldAt k) + 1 := by
  have hattempt := h.attempt (x.worldAt k)
  rw [← hattempt]
  unfold worldAfter after remark
  cases failure? (x.operation x.env (x.worldAt k)).1 with
  | none => simp
  | some message => exact h.remark _ _ _

theorem count_worldAt {count : World σ τ → Nat} (h : x.Counts count) (k : Nat) :
    count (x.worldAt k) = count x.start + k := by
  induction k with
  | zero => rfl
  | succ k ih =>
      have hpause : count (x.worldAt (k + 1)) = count (x.worldAfter k) := h.pause _ _ _
      have hattempt := count_worldAfter h k
      omega

omit [Timeline τ] in
theorem pauses_remark (what : String) (number : Int) (r : Except Stop (Option α)) (p : Polling τ) :
    (p.remark what number r).pauses = [] := by
  unfold remark
  cases failure? r <;> rfl

theorem pauses_worldAfter (h : x.Restless) (k : Nat) :
    (x.worldAfter k).trace.pauses = (x.worldAt k).trace.pauses := by
  have hattempt := h (x.worldAt k)
  simp [worldAfter, after, hattempt, pauses_remark]

theorem pauses_worldAt (h : x.Restless) (k : Nat) :
    (x.worldAt k).trace.pauses = x.start.trace.pauses ++ List.replicate k x.polling.pause := by
  induction k with
  | zero => simp [worldAt]
  | succ k ih =>
      have hafter := pauses_worldAfter h k
      have hpause : (x.worldAt (k + 1)).trace.pauses =
          (x.worldAfter k).trace.pauses ++ [x.polling.pause] := by
        simp [worldAt, rested, worldAfter, Trace.pauses, Step.pause?]
      rw [hpause, hafter, ih, List.append_assoc, List.replicate_succ']

/-- The polling ends with `r` in the world `v`, after so many attempts and pauses. -/
structure Ends (x : Polled σ τ α) (attempts pauses : Nat) (r : Except Stop α) (v : World σ τ) :
    Prop where
  result : x.result = (r, v)
  attempts : ∀ count, x.Counts count → count v = count x.start + attempts
  pauses : x.Restless →
    v.trace.pauses = x.start.trace.pauses ++ List.replicate pauses x.polling.pause

theorem ends_of_attempt {k : Nat} {r : Except Stop α}
    (h : x.result = (r, (x.operation x.env (x.worldAt k)).2)) :
    x.Ends (k + 1) k r (x.operation x.env (x.worldAt k)).2 := by
  refine ⟨h, fun count hcount => ?_, fun hrestless => ?_⟩
  · have hattempt := hcount.attempt (x.worldAt k)
    have hbefore := count_worldAt hcount k
    omega
  · exact (hrestless _).trans (pauses_worldAt hrestless k)

/-- What the outcomes of the attempts make of the polling. -/
structure GoesByOutcomes (x : Polled σ τ α) : Prop where
  /-- An operation that may not be tried at all is not tried. -/
  misused : x.polling.attempts < 1 → x.Ends 0 0 (.error (.misuse .noAttempts)) x.start
  /-- The first attempt that gives a value ends the polling with that value. -/
  found : ∀ (k : Nat) (a : α), (k : Int) < x.polling.attempts → x.NothingYet k → x.Rests k →
    x.outcomeAt k = .ok (some a) → x.Ends (k + 1) k (.ok a) (x.operation x.env (x.worldAt k)).2
  /-- A stop that is no failure to reach the service goes through at once. -/
  stopped : ∀ (k : Nat) (e : Stop), (k : Int) < x.polling.attempts → x.NothingYet k → x.Rests k →
    x.outcomeAt k = .error e → notYet (x.outcomeAt k) = false →
      x.Ends (k + 1) k (.error e) (x.operation x.env (x.worldAt k)).2
  /-- If no attempt decides, the last failure to reach the service is told, whatever came after it. -/
  exhausted : ∀ k : Nat, (k : Int) + 1 = x.polling.attempts → x.NothingYet (k + 1) → x.Rests k →
    x.Ends (k + 1) k
      (.error (.fault (.exhausted x.what x.polling.attempts
        (lastFailure ((List.range (k + 1)).map x.outcomeAt)))))
      (x.worldAfter k)
  /-- A pause that is cut short ends the polling. -/
  halted : ∀ (k : Nat) (e : Stop), (k : Int) + 1 < x.polling.attempts → x.NothingYet (k + 1) →
    x.Rests k → x.haltAfter k = some e →
      x.Ends (k + 1) (k + 1) (.error e) (x.pausing k)

theorem ends_exhausted {k : Nat} (hk : (k : Int) + 1 = x.polling.attempts)
    (hyet : x.NothingYet (k + 1)) (hrests : x.Rests k) :
    x.Ends (k + 1) k
      (.error (.fault (.exhausted x.what x.polling.attempts
        (lastFailure ((List.range (k + 1)).map x.outcomeAt)))))
      (x.worldAfter k) := by
  have hresult := result_eq_remaining (by omega) (fun j hj => hyet j (by omega)) hrests
  have hleft : x.polling.attempts.toNat - k = 1 := by omega
  rw [hleft, remaining_exhausted hk (hyet k (by omega))] at hresult
  refine ⟨hresult, fun count hcount => ?_, fun hrestless => ?_⟩
  · have hattempt := count_worldAfter hcount k
    have hbefore := count_worldAt hcount k
    omega
  · exact (pauses_worldAfter hrestless k).trans (pauses_worldAt hrestless k)

theorem ends_halted {k : Nat} {e : Stop} (hk : (k : Int) + 1 < x.polling.attempts)
    (hyet : x.NothingYet (k + 1)) (hrests : x.Rests k) (hhalt : x.haltAfter k = some e) :
    x.Ends (k + 1) (k + 1) (.error e) (x.pausing k) := by
  have hresult := result_eq_remaining (by omega) (fun j hj => hyet j (by omega)) hrests
  obtain ⟨left, hleft⟩ : ∃ left, x.polling.attempts.toNat - k = left + 2 :=
    ⟨x.polling.attempts.toNat - k - 2, by omega⟩
  rw [hleft, remaining_halted (by omega) (hyet k (by omega)) hhalt] at hresult
  refine ⟨hresult, fun count hcount => ?_, fun hrestless => pauses_worldAt hrestless (k + 1)⟩
  have hpause : count (x.pausing k) = count (x.worldAfter k) := hcount.pause _ _ _
  have hattempt := count_worldAfter hcount k
  have hbefore := count_worldAt hcount k
  omega

/-! ## The events of the attempts -/

/-- Every attempt goes through some events. -/
def Goes (x : Polled σ τ α) (es : Nat → List (Event τ)) : Prop :=
  ∀ k, ∃ r v, Course x.operation x.env (x.worldAt k) (es k) r v

/-- The events of the first `k` attempts with the pause after each. -/
def tried (x : Polled σ τ α) (es : Nat → List (Event τ)) (k : Nat) : List (Event τ) :=
  (List.range k).flatMap fun j => es j ++ [.paused x.polling.pause]

omit [Timeline τ] in
theorem events_remark (env : Surroundings τ) (before : Trace τ) (p : Polling τ) (what : String)
    (number : Int) (r : Except Stop (Option α)) : env.events before (p.remark what number r) = [] := by
  unfold remark
  cases failure? r <;> rfl

theorem Goes.worldAfter {es : Nat → List (Event τ)} (h : x.Goes es) (k : Nat) :
    ∃ t, (x.worldAfter k).trace = (x.worldAt k).trace ++ t ∧
      x.env.events (x.worldAt k).trace t = es k := by
  obtain ⟨r, v, hcourse⟩ := h k
  obtain ⟨t, htrace, hevents⟩ := hcourse.steps
  refine ⟨t ++ x.polling.remark x.what (k + 1) r, ?_, ?_⟩
  · rw [Polled.worldAfter, after, hcourse.run]
    show v.trace ++ _ = _
    rw [htrace, List.append_assoc]
  · rw [Surroundings.events_append, events_remark, hevents, List.append_nil]

theorem Goes.worldAt {es : Nat → List (Event τ)} (h : x.Goes es) (k : Nat) :
    ∃ t, (x.worldAt k).trace = x.start.trace ++ t ∧ x.env.events x.start.trace t = x.tried es k := by
  induction k with
  | zero => exact ⟨[], (List.append_nil _).symm, rfl⟩
  | succ k ih =>
      obtain ⟨t, htrace, hevents⟩ := ih
      obtain ⟨t', htrace', hevents'⟩ := h.worldAfter k
      refine ⟨t ++ t' ++ [.slept x.polling.pause], ?_, ?_⟩
      · show (x.worldAfter k).trace ++ _ = _
        rw [htrace', htrace]
        simp only [List.append_assoc]
      · rw [htrace] at hevents'
        rw [Surroundings.events_append, Surroundings.events_append, hevents, hevents', tried, tried,
          List.range_succ, List.flatMap_append, List.append_assoc, List.flatMap_singleton]
        rfl

/-- The events up to an attempt that gives a value are those of the attempts, with a pause between two. -/
theorem Goes.course_of_value {es : Nat → List (Event τ)} (h : x.Goes es) {k : Nat} {a : α}
    (hk : (k : Int) < x.polling.attempts) (hyet : x.NothingYet k) (hrests : x.Rests k)
    (hvalue : x.outcomeAt k = .ok (some a)) :
    ∃ v, Course (x.polling.seek x.what x.operation) x.env x.start (x.tried es k ++ es k) (.ok a) v := by
  obtain ⟨left, hleft⟩ : ∃ left, x.polling.attempts.toNat - k = left + 1 :=
    ⟨x.polling.attempts.toNat - k - 1, by omega⟩
  have hresult := result_eq_remaining hk hyet hrests
  rw [hleft, remaining_of_value hvalue] at hresult
  obtain ⟨t, htrace, hevents⟩ := h.worldAt k
  obtain ⟨r, v, hcourse⟩ := h k
  obtain ⟨t', htrace', hevents'⟩ := hcourse.steps
  rw [hcourse.run] at hresult
  refine ⟨v, hresult, t ++ t', ?_, ?_⟩
  · rw [htrace', htrace, List.append_assoc]
  · rw [Surroundings.events_append, hevents, ← htrace, hevents']

/-- Attempts that are exhausted have all been made, with a pause between two. -/
theorem Goes.course_of_exhausted {es : Nat → List (Event τ)} (h : x.Goes es) {k : Nat}
    (hk : (k : Int) + 1 = x.polling.attempts) (hyet : x.NothingYet (k + 1)) (hrests : x.Rests k) :
    ∃ v, Course (x.polling.seek x.what x.operation) x.env x.start (x.tried es k ++ es k)
      (.error (.fault (.exhausted x.what x.polling.attempts
        (lastFailure ((List.range (k + 1)).map x.outcomeAt))))) v := by
  obtain ⟨t, htrace, hevents⟩ := h.worldAt k
  obtain ⟨t', htrace', hevents'⟩ := h.worldAfter k
  refine ⟨x.worldAfter k, (ends_exhausted hk hyet hrests).result, t ++ t', ?_, ?_⟩
  · rw [htrace', htrace, List.append_assoc]
  · rw [Surroundings.events_append, hevents, ← htrace, hevents']

/-! ## All outcomes -/

/-- An operation that is polled is tried until an attempt decides, at most as often as is allowed, with
one pause between two attempts. -/
theorem seek_by_outcomes (x : Polled σ τ α) : x.GoesByOutcomes := by
  constructor
  · intro hattempts
    exact ⟨by simp [result, seek_eq_stop _ _ _ hattempts, Run.stop], fun _ _ => rfl, fun _ => by simp⟩
  · intro k a hk hyet hrests hfound
    have hresult := result_eq_remaining hk hyet hrests
    obtain ⟨left, hleft⟩ : ∃ left, x.polling.attempts.toNat - k = left + 1 :=
      ⟨x.polling.attempts.toNat - k - 1, by omega⟩
    rw [hleft, remaining_of_value hfound] at hresult
    exact ends_of_attempt hresult
  · intro k e hk hyet hrests hstopped hnot
    have hresult := result_eq_remaining hk hyet hrests
    obtain ⟨left, hleft⟩ : ∃ left, x.polling.attempts.toNat - k = left + 1 :=
      ⟨x.polling.attempts.toNat - k - 1, by omega⟩
    rw [hleft, remaining_of_stop hstopped hnot] at hresult
    exact ends_of_attempt hresult
  · exact fun k hk hyet hrests => ends_exhausted hk hyet hrests
  · exact fun k e hk hyet hrests hhalt => ends_halted hk hyet hrests hhalt

/-- An operation that comes to one of some outcomes after the other, and keeps count of the attempts. -/
def inTurn (outcomes : List (Except Stop (Option α))) : Run Nat τ (Option α) := fun _ w =>
  (outcomes.getD w.memory (.ok none), { w with memory := w.memory + 1 })

/-- Three attempts of which the second does not reach the service and the others have nothing yet. -/
theorem seek_by_outcomes_of_late_nothing :
    let x : Polled Nat Number Nat := {
      polling := ⟨3, .whole 10⟩
      what := "find it"
      operation := inTurn [.ok none, .error (.fault (.unreachable "down")), .ok none]
      env := Replies.surroundings {} 9
      start := ⟨0, .whole 0, []⟩ }
    (x.result.1 = .error (.fault (.exhausted "find it" 3 (some "down"))) ∧
        x.result.2.memory = 3 ∧ x.result.2.trace.pauses = [.whole 10, .whole 10]) ∧
      x.GoesByOutcomes := by
  intro x
  have hcourse := seek_by_outcomes x
  have hyet : x.NothingYet 3 := by
    intro j hj
    obtain rfl | rfl | rfl : j = 0 ∨ j = 1 ∨ j = 2 := by omega
    all_goals rfl
  have hrests : x.Rests 2 := fun j _ => rfl
  have hends := hcourse.exhausted 2 (by decide) hyet hrests
  refine ⟨⟨?_, ?_, ?_⟩, hcourse⟩
  · rw [hends.result]
    rfl
  · rw [hends.result]
    exact hends.attempts World.memory ⟨fun w => rfl, fun w level text => rfl, fun w t amount => rfl⟩
  · rw [hends.result]
    exact hends.pauses fun w => rfl

end Polled

end SparkGateway
