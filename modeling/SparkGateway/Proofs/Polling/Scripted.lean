import Mathlib.Data.List.Basic
import SparkGateway.Proofs.Exchange.Answers
import SparkGateway.Proofs.Polling.Budget

/-!
# Polling along a script

A service may be told by a script: what it says to the first request, to the second, and so on.  An
inquiry that is polled reads this script from its start and stops at the first answer that is not
"nothing yet"; what comes of it is told by that answer alone (`Concluded`).  With the same script, two
inquiries that read each answer alike go through the same requests and pauses, whatever they are called
(`Concluded.unique`).

An inquiry should come to the value in the answer at which it stops, or to the fault that the answer is
malformed.  It does so exactly if that answer is not one whose reading ends in a misfit
(`Puts.kept_iff`).
-/

namespace SparkGateway

open Run

/-- What a service says to a request, unless somebody ends the work. -/
inductive Said where
  | reply (code : Int) (body : Option String) (contentType : Option String)
  | broken (message : String)

/-- What is said, as an answer. -/
def Said.answer : Said → Answer
  | reply code body contentType => .reply code body contentType
  | broken message => .broken message

variable {σ τ α β : Type}

/-- The same surroundings with a service that follows a script, in which no pause is cut short. -/
def Surroundings.saying (env : Surroundings τ) (script : Nat → Said) : Surroundings τ :=
  { env with
    answer := fun t _ => (script t.requests.length).answer
    halt := fun _ => none }

/-- What a script says to the requests from a world on. -/
def World.hears (w : World σ τ) (script : Nat → Said) (k : Nat) : Answer :=
  (script (w.trace.requests.length + k)).answer

/-- The answer to a request that an event is. -/
def Event.answer? : Event τ → Option Answer
  | .answered _ a => some a
  | _ => none

theorem Step.answer_event (env : Surroundings τ) (before : Trace τ) (s : Step τ) :
    (s.event? env before).toList.filterMap Event.answer? =
      (s.request?.map (env.answer before)).toList := by
  cases s <;> rfl

theorem Trace.requests_cons (s : Step τ) (t : Trace τ) :
    Trace.requests (s :: t) = s.request?.toList ++ t.requests := by
  cases s <;> rfl

/-- The answers to any steps are those of the script from the first request on. -/
theorem Surroundings.answers_events (env : Surroundings τ) (script : Nat → Said) (before t : Trace τ) :
    ((env.saying script).events before t).filterMap Event.answer? =
      (List.range t.requests.length).map fun k => (script (before.requests.length + k)).answer := by
  induction t generalizing before with
  | nil => rfl
  | cons s rest ih =>
      have hrest := ih (before ++ [s])
      rw [Trace.requests_append, Trace.requests_cons s []] at hrest
      rw [events, List.filterMap_append, Step.answer_event, hrest, Trace.requests_cons]
      cases s.request? with
      | none => simp [Trace.requests]
      | some r =>
          simp only [Option.toList_some, List.singleton_append, List.length_cons,
            List.range_succ_eq_map, List.map_cons, List.map_map]
          simp [saying, Trace.requests, Function.comp_def, Nat.add_assoc, Nat.add_comm 1]

/-- A script is read on where the work before has left off. -/
theorem Run.Course.hears {x : Run σ τ α} {env : Surroundings τ} {script : Nat → Said} {w v : World σ τ}
    {es : List (Event τ)} {r : Except Stop α} (h : Course x (env.saying script) w es r v) (k : Nat) :
    v.hears script k = w.hears script ((es.filterMap Event.answer?).length + k) := by
  obtain ⟨t, htrace, hes⟩ := h.steps
  have hanswers := congrArg List.length (Surroundings.answers_events env script w.trace t)
  rw [hes, List.length_map, List.length_range] at hanswers
  unfold World.hears
  rw [htrace, Trace.requests_append, List.length_append, hanswers, Nat.add_assoc]

/-- Work that makes one request and reads the answer reads what the script says next. -/
theorem Run.Does.course_hears {env : Surroundings τ} {script : Nat → Said} {x : Run σ τ α} {q : Request}
    {read : Answer → Except Stop α} (h : Does (env.saying script) x (Reads (env.saying script) q read))
    (w : World σ τ) :
    ∃ v, Course x (env.saying script) w [.answered q (w.hears script 0)] (read (w.hears script 0)) v := by
  obtain ⟨es, r, v, hcourse, -, before, rfl, rfl⟩ := h w
  obtain ⟨t, -, hevents⟩ := hcourse.steps
  have hanswers := Surroundings.answers_events env script w.trace t
  rw [hevents] at hanswers
  have hlength : t.requests.length = 1 := by simpa [Event.answer?] using (congrArg List.length hanswers).symm
  have hanswer : (env.saying script).answer before q = w.hears script 0 := by
    rw [hlength] at hanswers
    simpa [Event.answer?, World.hears] using hanswers
  rw [hanswer] at hcourse
  exact ⟨v, hcourse⟩

namespace Polling

/-- The first `k` answers, with a pause between any two. -/
def asking (p : Polling τ) (q : Request) (said : Nat → Answer) (k : Nat) : List (Event τ) :=
  ((List.range k).map fun j => .answered q (said j)).intersperse (.paused p.pause)

theorem asking_succ (p : Polling τ) (q : Request) (said : Nat → Answer) (k : Nat) :
    p.asking q said (k + 1) =
      [.answered q (said 0)] ++ p.pauseWith k ++ p.asking q (fun j => said (j + 1)) k := by
  unfold asking
  cases k with
  | zero => rfl
  | succ k =>
      rw [List.range_succ_eq_map (n := k + 1), List.map_cons, List.map_map,
        List.range_succ_eq_map (n := k), List.map_cons, List.intersperse_cons_cons]
      rfl

/-- What comes of polling whose attempts come to `outcome`: how many attempts are made, and the end. -/
inductive Concluded (p : Polling τ) (what : String) (outcome : Nat → Except Stop (Option α)) :
    Nat → Except Stop α → Prop where
  | value {k : Nat} {a : α} :
      k < p.attempts.toNat → (∀ j < k, notYet (outcome j) = true) → outcome k = .ok (some a) →
      Concluded p what outcome (k + 1) (.ok a)
  | stopped {k : Nat} {e : Stop} :
      k < p.attempts.toNat → (∀ j < k, notYet (outcome j) = true) → outcome k = .error e →
      notYet (outcome k) = false → Concluded p what outcome (k + 1) (.error e)
  | exhausted :
      (∀ j < p.attempts.toNat, notYet (outcome j) = true) →
      Concluded p what outcome p.attempts.toNat
        (.error (.fault (.exhausted what p.attempts
          (lastFailure ((List.range p.attempts.toNat).map outcome)))))

variable {p : Polling τ} {what : String} {q : Request} {read : Answer → Except Stop (Option α)}

theorem answers_pauseWith (p : Polling τ) (n : Nat) : (p.pauseWith n).filterMap Event.answer? = [] := by
  unfold pauseWith
  split <;> rfl

theorem length_answers_asking (p : Polling τ) (q : Request) (said : Nat → Answer) (k : Nat) :
    ((p.asking q said k).filterMap Event.answer?).length = k := by
  induction k generalizing said with
  | zero => rfl
  | succ k ih =>
      rw [asking_succ, List.filterMap_append, List.filterMap_append, answers_pauseWith,
        List.append_nil, List.length_append, ih, Nat.add_comm]
      rfl

/-- The first of some answers from a script is its first, and the others follow it. -/
theorem split_first {a : Answer} {fs : List (Event τ)} {said : Nat → Answer} {k m : Nat}
    (h : (.answered q a :: fs).filterMap Event.answer? = (List.range m).map fun j => said (k + j)) :
    ∃ m', m = m' + 1 ∧ a = said k ∧
      fs.filterMap Event.answer? = (List.range m').map fun j => said (k + 1 + j) := by
  cases m with
  | zero => cases h
  | succ m' =>
      rw [List.range_succ_eq_map, List.map_cons, List.map_map] at h
      obtain ⟨hfirst, hothers⟩ := List.cons.inj h
      refine ⟨m', rfl, hfirst, hothers.trans (List.map_congr_left fun j _ => congrArg said ?_)⟩
      show k + (j + 1) = k + 1 + j
      omega

/-- Attempts begin with a request, if there are any. -/
theorem Attempts.asks {env : Surroundings τ} {n : Nat} {last : Option String} {es : List (Event τ)}
    {r : Except Stop α} (h : Attempts env p what (Reads env q read) n last es r) (hn : n ≠ 0) :
    ∃ a rest, es = .answered q a :: rest := by
  cases h with
  | exhausted => exact absurd rfl hn
  | value hread | stopped hread _ | halted hread _ _ _ | again hread _ _ =>
      obtain ⟨t, rfl, -⟩ := hread
      exact ⟨_, _, rfl⟩

/-- There is a pause before attempts exactly if there is a request after it. -/
theorem Attempts.pauseWith_eq {env : Surroundings τ} {n m : Nat} {last : Option String}
    {es : List (Event τ)} {r : Except Stop α} (h : Attempts env p what (Reads env q read) n last es r)
    {said : Nat → Answer} {k : Nat}
    (hsaid : es.filterMap Event.answer? = (List.range m).map fun j => said (k + j)) :
    p.pauseWith n = p.pauseWith m := by
  by_cases hn : n = 0
  · subst hn
    cases h
    obtain rfl : m = 0 := by simpa using hsaid
    rfl
  · obtain ⟨a, rest, rfl⟩ := h.asks hn
    obtain ⟨m', rfl, -⟩ := split_first hsaid
    simp [pauseWith, hn]

/-- Attempts that follow a script are concluded by what it says. -/
theorem Attempts.concluded {env : Surroundings τ} {n : Nat} {last : Option String} {es : List (Event τ)}
    {r : Except Stop α} (h : Attempts env p what (Reads env q read) n last es r)
    (huncut : ∀ e, ¬ Halts env e) (said : Nat → Answer) {k m : Nat} (hn : k + n = p.attempts.toNat)
    (hsaid : es.filterMap Event.answer? = (List.range m).map fun j => said (k + j))
    (hyet : ∀ j < k, notYet (read (said j)) = true)
    (hlast : last = lastFailure ((List.range k).map fun j => read (said j))) :
    es = p.asking q (fun j => said (k + j)) m ∧
      Concluded p what (fun j => read (said j)) (k + m) r := by
  induction h generalizing k m with
  | exhausted last =>
      obtain rfl : m = 0 := by simpa using hsaid
      obtain rfl : k = p.attempts.toNat := by omega
      subst hlast
      exact ⟨rfl, .exhausted hyet⟩
  | value hread =>
      obtain ⟨t, rfl, hvalue⟩ := hread
      obtain ⟨m', rfl, hfirst, hnone⟩ := split_first hsaid
      obtain rfl : m' = 0 := by simpa using hnone
      rw [hfirst] at hvalue ⊢
      exact ⟨rfl, .value (by omega) hyet hvalue.symm⟩
  | stopped hread hnot =>
      obtain ⟨t, rfl, hstop⟩ := hread
      obtain ⟨m', rfl, hfirst, hnone⟩ := split_first hsaid
      obtain rfl : m' = 0 := by simpa using hnone
      rw [hfirst] at hstop ⊢
      exact ⟨rfl, .stopped (by omega) hyet hstop.symm (hstop ▸ hnot)⟩
  | halted _ _ _ hhalts => exact absurd hhalts (huncut _)
  | @again n last es fs _ r hread hnot hrest ih =>
      obtain ⟨t, rfl, rfl⟩ := hread
      rw [List.append_assoc, List.singleton_append] at hsaid
      obtain ⟨m', rfl, hfirst, hothers⟩ := split_first hsaid
      rw [List.filterMap_append, answers_pauseWith, List.nil_append] at hothers
      rw [hfirst] at hnot ih ⊢
      have hyet' : ∀ j < k + 1, notYet (read (said j)) = true := by
        intro j hj
        rcases Nat.lt_succ_iff_lt_or_eq.1 hj with hj | rfl
        · exact hyet j hj
        · exact hnot
      have hlast' : lastAfter last (read (said k)) =
          lastFailure ((List.range (k + 1)).map fun j => read (said j)) := by
        rw [List.range_succ, List.map_append, List.map_singleton, lastFailure_append, ← hlast]
      obtain ⟨hasking, hconcluded⟩ := ih (by omega) hothers hyet' hlast'
      refine ⟨?_, by rwa [Nat.add_assoc, Nat.add_comm 1] at hconcluded⟩
      rw [hasking, hrest.pauseWith_eq hothers, asking_succ]
      simp only [Nat.add_zero, Nat.add_assoc, Nat.add_comm 1]

/-- An outcome whose value, if it has one, is read further. -/
def finishing (finish : α → Except Stop β) (r : Except Stop (Option α)) : Except Stop (Option β) :=
  r >>= fun
    | some v => (finish v).map some
    | none => .ok none

theorem finishing_of_notYet (finish : α → Except Stop β) {r : Except Stop (Option α)}
    (h : notYet r = true) :
    notYet (finishing finish r) = true ∧ failure? (finishing finish r) = failure? r := by
  rcases notYet_iff.1 h with rfl | ⟨message, rfl⟩
  · exact ⟨rfl, rfl⟩
  · exact ⟨rfl, rfl⟩

/-- Reading the value further does not change how the polling is concluded. -/
theorem Concluded.finish {outcome : Nat → Except Stop (Option α)} {m : Nat} {r : Except Stop α}
    (h : Concluded p what outcome m r) {finish : α → Except Stop β}
    (hfinish : ∀ v message, finish v ≠ .error (.fault (.unreachable message))) :
    Concluded p what (fun j => finishing finish (outcome j)) m (r >>= finish) := by
  cases h with
  | @value k a hk hyet hvalue =>
      have hyet' : ∀ j < k, notYet (finishing finish (outcome j)) = true :=
        fun j hj => (finishing_of_notYet finish (hyet j hj)).1
      have hread : finishing finish (outcome k) = (finish a).map some := by
        rw [hvalue]
        rfl
      show Concluded p what _ (k + 1) (finish a)
      cases hb : finish a with
      | ok b => exact .value hk hyet' (by rw [hread, hb]; rfl)
      | error e =>
          have hstop : finishing finish (outcome k) = .error e := by
            rw [hread, hb]
            rfl
          refine .stopped hk hyet' hstop ?_
          rw [hstop, ← Bool.not_eq_true, notYet_iff]
          rintro (hnone | ⟨message, hlost⟩)
          · cases hnone
          · cases hlost
            exact hfinish a message hb
  | @stopped k e hk hyet hstop hnot =>
      have hread : finishing finish (outcome k) = .error e := by
        rw [hstop]
        rfl
      refine .stopped hk (fun j hj => (finishing_of_notYet finish (hyet j hj)).1) hread ?_
      rw [hstop, ← Bool.not_eq_true, notYet_iff] at hnot
      rw [hread, ← Bool.not_eq_true, notYet_iff]
      rintro (hnone | ⟨message, hlost⟩)
      · cases hnone
      · cases hlost
        exact hnot (.inr ⟨message, rfl⟩)
  | exhausted hyet =>
      have hlast : lastFailure ((List.range p.attempts.toNat).map outcome) =
          lastFailure ((List.range p.attempts.toNat).map fun j => finishing finish (outcome j)) := by
        unfold lastFailure
        rw [List.filterMap_map, List.filterMap_map]
        refine congrArg List.getLast? (List.filterMap_congr fun j hj => ?_)
        exact (finishing_of_notYet finish (hyet j (List.mem_range.1 hj))).2.symm
      rw [hlast]
      exact .exhausted fun j hj => (finishing_of_notYet finish (hyet j hj)).1

/-- The same outcome, or two ends of the attempts that differ in what the operation is called. -/
def SameBut (what what' : String) (r r' : Except Stop α) : Prop :=
  r' = r ∨ ∃ n last, r = .error (.fault (.exhausted what n last)) ∧
    r' = .error (.fault (.exhausted what' n last))

/-- Where the first attempt stands that is not "nothing yet", the polling is decided, if it is made. -/
theorem Concluded.decided {outcome : Nat → Except Stop (Option α)} {m : Nat} {r : Except Stop α}
    (h : Concluded p what outcome m r) {k : Nat} (hk : k < p.attempts.toNat)
    (hyet : ∀ j < k, notYet (outcome j) = true) (hnot : notYet (outcome k) = false) :
    m = k + 1 ∧
      ((∃ a, outcome k = .ok (some a) ∧ r = .ok a) ∨ ∃ e, outcome k = .error e ∧ r = .error e) := by
  have hfirst : ∀ {k'}, (∀ j < k', notYet (outcome j) = true) → notYet (outcome k') = false →
      k' = k := by
    intro k' hyet' hnot'
    rcases Nat.lt_trichotomy k' k with hlt | heq | hgt
    · exact nomatch hnot'.symm.trans (hyet k' hlt)
    · exact heq
    · exact nomatch hnot.symm.trans (hyet' k hgt)
  cases h with
  | @value k' a _ hyet' hvalue =>
      obtain rfl := hfirst hyet' (by rw [hvalue]; rfl)
      exact ⟨rfl, .inl ⟨a, hvalue, rfl⟩⟩
  | @stopped k' e _ hyet' hstop hnot' =>
      obtain rfl := hfirst hyet' hnot'
      exact ⟨rfl, .inr ⟨e, hstop, rfl⟩⟩
  | exhausted hyet' => exact nomatch hnot.symm.trans (hyet' k hk)

/-- Where no attempt is anything but "nothing yet", the attempts are exhausted. -/
theorem Concluded.spent {outcome : Nat → Except Stop (Option α)} {m : Nat} {r : Except Stop α}
    (h : Concluded p what outcome m r) (hyet : ∀ j < p.attempts.toNat, notYet (outcome j) = true) :
    m = p.attempts.toNat ∧ r = .error (.fault (.exhausted what p.attempts
      (lastFailure ((List.range p.attempts.toNat).map outcome)))) := by
  cases h with
  | @value k a hk _ hvalue =>
      have hnot := hyet k hk
      rw [hvalue] at hnot
      cases hnot
  | stopped hk _ _ hnot => exact nomatch hnot.symm.trans (hyet _ hk)
  | exhausted => exact ⟨rfl, rfl⟩

/-- Outcomes alone decide how polling is concluded. -/
theorem Concluded.unique {outcome : Nat → Except Stop (Option α)} {what' : String} {m m' : Nat}
    {r r' : Except Stop α} (h : Concluded p what outcome m r) (h' : Concluded p what' outcome m' r') :
    m' = m ∧ SameBut what what' r r' := by
  cases h with
  | value hk hyet hvalue =>
      obtain ⟨rfl, hend⟩ := h'.decided hk hyet (by rw [hvalue]; rfl)
      refine ⟨rfl, .inl ?_⟩
      rcases hend with ⟨a, ha, rfl⟩ | ⟨e, he, -⟩
      · obtain rfl := Option.some.inj (Except.ok.inj (ha.symm.trans hvalue))
        rfl
      · exact nomatch he.symm.trans hvalue
  | stopped hk hyet hstop hnot =>
      obtain ⟨rfl, hend⟩ := h'.decided hk hyet hnot
      refine ⟨rfl, .inl ?_⟩
      rcases hend with ⟨a, ha, -⟩ | ⟨e, he, rfl⟩
      · exact nomatch ha.symm.trans hstop
      · obtain rfl := Except.error.inj (he.symm.trans hstop)
        rfl
  | exhausted hyet =>
      obtain ⟨rfl, rfl⟩ := h'.spent hyet
      exact ⟨rfl, .inr ⟨_, _, rfl, rfl⟩⟩

end Polling

/-! ## Inquiries -/

/-- A question that is asked at one address until it is answered. -/
structure Inquiry (α : Type) where
  /-- What is asked for. -/
  what : String
  /-- The address. -/
  url : String
  /-- What a good reply is read as; it may say nothing yet. -/
  read : Reply → Except Stop (Option α)

namespace Inquiry

open Polling

/-- The request that is made. -/
def request (q : Inquiry α) : Request := .get q.url

/-- An answer that is nothing yet: it was missed, or its good reply says nothing yet. -/
def NotYet (q : Inquiry α) (a : Answer) : Prop :=
  a.Missed q.request ∨ ∃ found, a.goodReply? q.request = some found ∧ q.read found = .ok none

/-- What an answer comes to. -/
def outcome (q : Inquiry α) (a : Answer) : Except Stop (Option α) :=
  a.looked q.request >>= fun
    | some found => q.read found
    | none => .ok none

/-- A fault that an inquiry may end with: the answer is malformed, or tells that there is no attempt. -/
def Told : Fault → Prop
  | .malformed _ _ _ | .noAttempt _ => True
  | _ => False

/-- Reading a value fails only with faults that may be told. -/
def FailsTold (finish : α → Except Stop β) : Prop :=
  ∀ v e, finish v = .error e → ∃ f, e = .fault f ∧ Told f

theorem FailsTold.ne_unreachable {finish : α → Except Stop β} (h : FailsTold finish) (v : α)
    (message : String) : finish v ≠ .error (.fault (.unreachable message)) := by
  intro hlost
  obtain ⟨f, hf, htold⟩ := h v _ hlost
  cases hf
  exact htold

/-- No good reply is read like a service that could not be reached. -/
def Reached (q : Inquiry α) : Prop :=
  ∀ found message, q.read found ≠ .error (.fault (.unreachable message))

variable {q : Inquiry α} {a : Answer}

theorem outcome_of_goodReply {found : Reply} (h : a.goodReply? q.request = some found) :
    q.outcome a = q.read found := by
  unfold outcome
  rw [Answer.looked_of_goodReply h]
  rfl

theorem notYet_of_missed (h : a.Missed q.request) : notYet (q.outcome a) = true := by
  unfold outcome Answer.looked
  rcases h with ⟨message, hlost⟩ | ⟨found, hfound, hnot⟩
  · rw [hlost]
    rfl
  · rw [hfound]
    simp only [Except.map, hnot]
    rfl

theorem notYet_outcome_iff (hq : q.Reached) (a : Answer) :
    notYet (q.outcome a) = true ↔ q.NotYet a := by
  constructor
  · intro h
    rcases Answer.missed_of_notYet h with hmissed | ⟨found, hgood, hyet⟩
    · exact .inl hmissed
    · refine .inr ⟨found, hgood, ?_⟩
      rcases notYet_iff.1 hyet with hnone | ⟨message, hlost⟩
      · exact hnone
      · exact absurd hlost (hq found message)
  · rintro (hmissed | ⟨found, hgood, hnone⟩)
    · exact notYet_of_missed hmissed
    · rw [outcome_of_goodReply hgood, hnone]
      rfl

/-- Work that puts an inquiry makes, along any script, the requests and pauses of the polling, and comes
to what the polling is concluded with. -/
def Puts [Timeline τ] (q : Inquiry α) (p : Polling τ) (x : Run σ τ α) : Prop :=
  ∀ (env : Surroundings τ) (script : Nat → Said) (w : World σ τ), ∃ m r v,
    Course x (env.saying script) w (p.asking q.request (w.hears script) m) r v ∧
      Concluded p q.what (fun j => q.outcome (w.hears script j)) m r

variable [Timeline τ] {p : Polling τ}

theorem puts_of_reads {operation : Run σ τ (Option α)} (hp : 1 ≤ p.attempts)
    (h : ∀ env, Does env operation (Reads env q.request q.outcome)) :
    q.Puts p (p.seek q.what operation) := by
  intro env script w
  have hdoes : Does (env.saying script) (p.seek q.what operation) _ := seek_does (h (env.saying script))
  obtain ⟨es, r, v, hcourse, -, hseek⟩ := hdoes w
  rcases hseek with ⟨hnone, -, -⟩ | ⟨-, hattempts⟩
  · omega
  · obtain ⟨t, -, hevents⟩ := hcourse.steps
    have huncut : ∀ e, ¬ Halts (env.saying script) e := fun e ⟨t, ht⟩ => nomatch ht
    have hanswers := Surroundings.answers_events env script w.trace t
    rw [hevents] at hanswers
    obtain ⟨hasking, hconcluded⟩ := hattempts.concluded huncut (w.hears script) (k := 0)
      (by omega) (by simpa [World.hears] using hanswers) (by omega) rfl
    simp only [Nat.zero_add] at hasking hconcluded
    exact ⟨_, r, v, hasking ▸ hcourse, hconcluded⟩

/-- The same question, whose answer is read further. -/
def further (q : Inquiry α) (finish : α → Except Stop β) : Inquiry β :=
  ⟨q.what, q.url, fun found => finishing finish (q.read found)⟩

omit [Timeline τ] in
theorem further_ok (q : Inquiry α) : q.further Except.ok = q := by
  have hsame : ∀ r : Except Stop (Option α), finishing Except.ok r = r := by
    rintro (e | _ | v) <;> rfl
  unfold further
  simp only [hsame]

omit [Timeline τ] in
theorem outcome_further (finish : α → Except Stop β) (a : Answer) :
    (q.further finish).outcome a = finishing finish (q.outcome a) := by
  unfold outcome
  show a.looked q.request >>= _ = _
  cases a.looked q.request with
  | error e => rfl
  | ok found =>
      cases found with
      | none => rfl
      | some found => rfl

theorem Puts.further {x : Run σ τ α} (hx : q.Puts p x) {finish : α → Except Stop β}
    {f : α → Run σ τ β} (hf : ∀ env v, Does env (f v) (Silent (finish v)))
    (hfinish : FailsTold finish) : (q.further finish).Puts p (x >>= f) := by
  intro env script w
  obtain ⟨m, r, v, hcourse, hconcluded⟩ := hx env script w
  have hconcluded := hconcluded.finish hfinish.ne_unreachable
  simp only [← outcome_further] at hconcluded
  cases r with
  | error e => exact ⟨m, _, v, hcourse.bind_error, hconcluded⟩
  | ok a =>
      obtain ⟨es, r', v', hlast, -, rfl, rfl⟩ := hf (env.saying script) a v
      have hwhole := hcourse.bind hlast
      rw [List.append_nil] at hwhole
      exact ⟨m, _, v', hwhole, hconcluded⟩

/-! ## What an inquiry is to come to -/

/-- What the answer at which an inquiry stops should make of it: its value, or its fault. -/
inductive Tells (q : Inquiry α) (a : Answer) : Except Stop α → Prop where
  | value {found : Reply} {v : α} :
      a.goodReply? q.request = some found → q.read found = .ok (some v) → Tells q a (.ok v)
  | fault {found : Reply} {f : Fault} :
      a.goodReply? q.request = some found → q.read found = .error (.fault f) → Told f →
      Tells q a (.error (.fault f))

/-- The first answer that is not "nothing yet" stands at `k` in the script, and the attempts reach it. -/
structure Decides (q : Inquiry α) (p : Polling τ) (said : Nat → Answer) (k : Nat) : Prop where
  reached : (k : Int) < p.attempts
  before : ∀ j < k, q.NotYet (said j)
  now : ¬ q.NotYet (said k)

/-- What work that puts an inquiry along a script is to come to. -/
structure AsPromised (q : Inquiry α) (p : Polling τ) (said : Nat → Answer) (es : List (Event τ))
    (r : Except Stop α) : Prop where
  /-- It stops at the first answer that is not "nothing yet", and comes to what that answer tells. -/
  decided : ∀ k, q.Decides p said k → es = p.asking q.request said (k + 1) ∧ q.Tells (said k) r
  /-- It is exhausted exactly if all answers that it may ask for are "nothing yet". -/
  exhausted : (∃ what n last, r = .error (.fault (.exhausted what n last))) ↔
    ∀ j : Nat, (j : Int) < p.attempts → q.NotYet (said j)
  /-- It has then asked for all of them. -/
  asked : (∀ j : Nat, (j : Int) < p.attempts → q.NotYet (said j)) →
    es = p.asking q.request said p.attempts.toNat ∧
      ∃ last, r = .error (.fault (.exhausted q.what p.attempts last))

/-- Work does what an inquiry along a script is to come to. -/
def Kept (q : Inquiry α) (p : Polling τ) (x : Run σ τ α) (env : Surroundings τ) (script : Nat → Said)
    (w : World σ τ) : Prop :=
  q.AsPromised p (w.hears script) (x.events (env.saying script) w) (x (env.saying script) w).1

/-- The good reply in an answer does not fit where it is used. -/
def Breaks (q : Inquiry α) (a : Answer) : Prop :=
  ∃ found m, a.goodReply? q.request = some found ∧ q.read found = .error (.misfit m)

/-- Good replies are read as a value, as nothing yet, as a fault that may be told, or as a misfit. -/
def Orderly (q : Inquiry α) : Prop :=
  ∀ found e, q.read found = .error e → (∃ f, e = .fault f ∧ Told f) ∨ ∃ m, e = .misfit m

omit [Timeline τ] in
theorem Orderly.reached (hq : q.Orderly) : q.Reached := by
  intro found message hlost
  rcases hq found _ hlost with ⟨f, hf, htold⟩ | ⟨m, hm⟩
  · cases hf
    exact htold
  · cases hm

omit [Timeline τ] in
/-- Reading the value further adds faults that may be told, and nothing else. -/
theorem further_error {finish : α → Except Stop β} (hfinish : FailsTold finish) {found : Reply} {e : Stop}
    (h : (q.further finish).read found = .error e) :
    q.read found = .error e ∨ ∃ f, e = .fault f ∧ Told f := by
  have h : finishing finish (q.read found) = .error e := h
  rcases bind_eq_error h with hread | ⟨o, -, ho⟩
  · exact .inl hread
  · cases o with
    | none => cases ho
    | some v =>
        have ho : (finish v).map some = .error e := ho
        exact .inr (hfinish v e (map_eq_error ho))

omit [Timeline τ] in
theorem Orderly.further {finish : α → Except Stop β} (hq : q.Orderly) (hfinish : FailsTold finish) :
    (q.further finish).Orderly := by
  intro found e h
  rcases further_error hfinish h with hread | htold
  · exact hq found e hread
  · exact .inl htold

omit [Timeline τ] in
theorem breaks_further_iff {finish : α → Except Stop β} (hfinish : FailsTold finish) (a : Answer) :
    (q.further finish).Breaks a ↔ q.Breaks a := by
  constructor
  · rintro ⟨found, m, hgood, hbreaks⟩
    rcases further_error hfinish hbreaks with hread | ⟨f, hf, -⟩
    · exact ⟨found, m, hgood, hread⟩
    · cases hf
  · rintro ⟨found, m, hgood, hbreaks⟩
    refine ⟨found, m, hgood, ?_⟩
    show finishing finish (q.read found) = _
    rw [hbreaks]
    rfl

omit [Timeline τ] in
/-- What a service says was missed, or it is a good reply. -/
theorem missed_or_good (q : Inquiry α) (s : Said) :
    s.answer.Missed q.request ∨ ∃ found, s.answer.goodReply? q.request = some found := by
  cases s with
  | broken message => exact .inl (.inl ⟨_, rfl⟩)
  | reply code body contentType =>
      cases hok : (Reply.mk q.url code body contentType).ok with
      | true => exact .inr ⟨_, Answer.goodReply_of_outcome rfl hok⟩
      | false => exact .inl (.inr ⟨_, rfl, hok⟩)

omit [Timeline τ] in
theorem Tells.not_breaks {r : Except Stop α} (h : q.Tells a r) : ¬ q.Breaks a := by
  rintro ⟨found, m, hgood, hbreaks⟩
  cases h with
  | value hgood' hvalue =>
      obtain rfl := Option.some.inj (hgood'.symm.trans hgood)
      exact nomatch hvalue.symm.trans hbreaks
  | fault hgood' hfault =>
      obtain rfl := Option.some.inj (hgood'.symm.trans hgood)
      exact nomatch hfault.symm.trans hbreaks

omit [Timeline τ] in
theorem Breaks.not_notYet (h : q.Breaks a) (hq : q.Reached) : ¬ q.NotYet a := by
  obtain ⟨found, m, hgood, hbreaks⟩ := h
  rw [← notYet_outcome_iff hq, outcome_of_goodReply hgood, hbreaks]
  exact nofun

/-- At the answer that decides, the work stops, and comes to what the good reply in it is read as. -/
theorem Puts.course_at_decision {x : Run σ τ α} (hx : q.Puts p x) (hq : q.Reached)
    (env : Surroundings τ) {script : Nat → Said} {w : World σ τ} {k : Nat}
    (hk : q.Decides p (w.hears script) k) :
    ∃ found r v, (w.hears script k).goodReply? q.request = some found ∧ q.read found = r.map some ∧
      Course x (env.saying script) w (p.asking q.request (w.hears script) (k + 1)) r v := by
  obtain ⟨m, r, v, hcourse, hconcluded⟩ := hx env script w
  have hnot : notYet (q.outcome (w.hears script k)) = false :=
    Bool.eq_false_iff.2 fun hyet => hk.now ((notYet_outcome_iff hq _).1 hyet)
  have hreached := hk.reached
  obtain ⟨rfl, hend⟩ := hconcluded.decided (by omega)
    (fun j hj => (notYet_outcome_iff hq _).2 (hk.before j hj)) hnot
  obtain ⟨found, hgood⟩ := (q.missed_or_good (script _)).resolve_left fun h => hk.now (.inl h)
  refine ⟨found, r, v, hgood, (outcome_of_goodReply hgood).symm.trans ?_, hcourse⟩
  rcases hend with ⟨value, hvalue, rfl⟩ | ⟨e, hstop, rfl⟩
  · exact hvalue
  · exact hstop

theorem Puts.at_decision {x : Run σ τ α} (hx : q.Puts p x) (hq : q.Reached) (env : Surroundings τ)
    {script : Nat → Said} {w : World σ τ} {k : Nat} (hk : q.Decides p (w.hears script) k) :
    x.events (env.saying script) w = p.asking q.request (w.hears script) (k + 1) ∧
      ∃ found, (w.hears script k).goodReply? q.request = some found ∧
        q.read found = (x (env.saying script) w).1.map some := by
  obtain ⟨found, r, v, hgood, hread, hcourse⟩ := hx.course_at_decision hq env hk
  rw [hcourse.events_eq, hcourse.outcome_eq]
  exact ⟨rfl, found, hgood, hread⟩

/-- Work that comes to a value has stopped at the answer that decides, which tells the value. -/
theorem Puts.decides_of_ok {x : Run σ τ α} (hx : q.Puts p x) (hq : q.Reached) (env : Surroundings τ)
    {script : Nat → Said} {w v : World σ τ} {a : α} (h : x (env.saying script) w = (.ok a, v)) :
    ∃ k, q.Decides p (w.hears script) k ∧ q.Tells (w.hears script k) (.ok a) ∧
      Course x (env.saying script) w (p.asking q.request (w.hears script) (k + 1)) (.ok a) v := by
  obtain ⟨m, r, u, hcourse, hconcluded⟩ := hx env script w
  obtain ⟨hr, hu⟩ := Prod.mk.inj (hcourse.run.symm.trans h)
  subst hr hu
  cases hconcluded with
  | @value k _ hk hyet hvalue =>
      obtain ⟨found, hgood, hread⟩ := Answer.goodReply_of_some hvalue rfl
      refine ⟨k, ⟨by omega, fun j hj => (notYet_outcome_iff hq _).1 (hyet j hj), ?_⟩,
        .value hgood hread, hcourse⟩
      rw [← notYet_outcome_iff hq, hvalue]
      exact nofun

/-- At the answer that decides, work comes to the value which that answer tells. -/
theorem Puts.ok_of_decides {x : Run σ τ α} (hx : q.Puts p x) (hq : q.Reached) (env : Surroundings τ)
    {script : Nat → Said} {w : World σ τ} {k : Nat} {a : α} (hk : q.Decides p (w.hears script) k)
    (ha : q.Tells (w.hears script k) (.ok a)) :
    ∃ v, Course x (env.saying script) w (p.asking q.request (w.hears script) (k + 1)) (.ok a) v := by
  obtain ⟨found, r, v, hgood, hread, hcourse⟩ := hx.course_at_decision hq env hk
  cases ha with
  | value hgood' hvalue =>
      obtain rfl := Option.some.inj (hgood.symm.trans hgood')
      obtain rfl : r = .ok a := eq_of_map_some_eq (hread.symm.trans hvalue)
      exact ⟨v, hcourse⟩

omit [Timeline τ] in
/-- An answer at which an inquiry stops ends it with a fault that may be told, or does not fit. -/
theorem Orderly.stops (hq : q.Orderly) {s : Said} {e : Stop} (hstop : q.outcome s.answer = .error e)
    (hnot : notYet (q.outcome s.answer) = false) :
    (∃ f, e = .fault f ∧ Told f) ∨ ∃ m, e = .misfit m := by
  obtain ⟨found, hgood⟩ := (q.missed_or_good s).resolve_left fun h =>
    Bool.false_ne_true (hnot.symm.trans (notYet_of_missed h))
  exact hq found e ((outcome_of_goodReply hgood).symm.trans hstop)

omit [Timeline τ] in
/-- The attempts are exhausted only if every answer was nothing yet: no good reply is read so. -/
theorem Orderly.exhausted_iff (hq : q.Orderly) {script : Nat → Said} {w : World σ τ} {m : Nat}
    {r : Except Stop α} (h : Concluded p q.what (fun j => q.outcome (w.hears script j)) m r) :
    (∃ what n last, r = .error (.fault (.exhausted what n last))) ↔
      ∀ j < p.attempts.toNat, notYet (q.outcome (w.hears script j)) = true := by
  constructor
  · rintro ⟨what, n, last, rfl⟩
    cases h with
    | stopped _ _ hstop hnot =>
        rcases hq.stops hstop hnot with ⟨f, hf, htold⟩ | ⟨misfit, hmisfit⟩
        · cases hf
          exact htold.elim
        · cases hmisfit
    | exhausted hyet => exact hyet
  · intro hyet
    obtain ⟨-, rfl⟩ := h.spent hyet
    exact ⟨_, _, _, rfl⟩

/-- Work that puts an inquiry comes to what it is to come to, unless the answer at which it stops does
not fit. -/
theorem Puts.kept_iff {x : Run σ τ α} (hx : q.Puts p x) (hq : q.Orderly) (env : Surroundings τ)
    (script : Nat → Said) (w : World σ τ) :
    q.Kept p x env script w ↔ ∀ k, q.Decides p (w.hears script) k → ¬ q.Breaks (w.hears script k) := by
  constructor
  · intro hkept k hk
    exact (hkept.decided k hk).2.not_breaks
  · intro hfits
    obtain ⟨m, r, v, hcourse, hconcluded⟩ := hx env script w
    have hyet : (∀ j : Nat, (j : Int) < p.attempts → q.NotYet (w.hears script j)) ↔
        ∀ j < p.attempts.toNat, notYet (q.outcome (w.hears script j)) = true := by
      constructor
      · exact fun hyet j hj => (notYet_outcome_iff hq.reached _).2 (hyet j (by omega))
      · exact fun hyet j hj => (notYet_outcome_iff hq.reached _).1 (hyet j (by omega))
    constructor
    · intro k hk
      obtain ⟨hevents, found, hgood, hread⟩ := hx.at_decision hq.reached env hk
      refine ⟨hevents, ?_⟩
      cases hr : (x (env.saying script) w).1 with
      | ok value => exact .value hgood (hread.trans (congrArg (Except.map some) hr))
      | error e =>
          have hstop : q.read found = .error e := hread.trans (congrArg (Except.map some) hr)
          rcases hq found e hstop with ⟨f, rfl, htold⟩ | ⟨misfit, rfl⟩
          · exact .fault hgood hstop htold
          · exact absurd ⟨found, misfit, hgood, hstop⟩ (hfits k hk)
    · rw [hcourse.outcome_eq, hyet]
      exact hq.exhausted_iff hconcluded
    · rw [hcourse.outcome_eq, hcourse.events_eq, hyet]
      intro hyet
      obtain ⟨rfl, rfl⟩ := hconcluded.spent hyet
      exact ⟨rfl, _, rfl⟩

end Inquiry

end SparkGateway
