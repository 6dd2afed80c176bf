import SparkGateway.Polling
import SparkGateway.Proofs.Exchange.Course

/-!
# The attempts of a polled operation

What an operation comes to that is polled, given what one attempt may come to.  An attempt that gives
nothing yet is followed by a pause if another attempt is left, and what is told at the end of the
attempts is the last failure to reach the service.
-/

namespace SparkGateway.Polling

open Run

variable {σ τ α : Type}

/-- Whether an attempt that came to this has given nothing yet. -/
def notYet : Except Stop (Option α) → Bool
  | .ok none => true
  | .error (.fault (.unreachable _)) => true
  | _ => false

theorem notYet_iff {r : Except Stop (Option α)} :
    notYet r = true ↔ r = .ok none ∨ ∃ message, r = .error (.fault (.unreachable message)) := by
  cases r with
  | ok found => cases found <;> simp [notYet]
  | error e =>
      cases e with
      | fault f => cases f <;> simp [notYet]
      | _ => simp [notYet]

/-- The last failure to reach the service, after an attempt that came to this. -/
def lastAfter (last : Option String) : Except Stop (Option α) → Option String
  | .error (.fault (.unreachable m)) => some m
  | _ => last

/-- The pause after an attempt that has given nothing yet, if as many attempts are left. -/
def pauseWith (p : Polling τ) (left : Nat) : List (Event τ) :=
  if left = 0 then [] else [.paused p.pause]

/-- What some attempts may come to, each of which admits `A`. -/
inductive Attempts (env : Surroundings τ) (p : Polling τ) (what : String)
    (A : List (Event τ) → Except Stop (Option α) → Prop) :
    Nat → Option String → List (Event τ) → Except Stop α → Prop where
  | exhausted (last : Option String) :
      Attempts env p what A 0 last [] (.error (.fault (.exhausted what p.attempts last)))
  | value {n : Nat} {last : Option String} {es : List (Event τ)} {a : α} :
      A es (.ok (some a)) → Attempts env p what A (n + 1) last es (.ok a)
  | stopped {n : Nat} {last : Option String} {es : List (Event τ)} {e : Stop} :
      A es (.error e) → notYet (.error e : Except Stop (Option α)) = false →
      Attempts env p what A (n + 1) last es (.error e)
  | halted {n : Nat} {last : Option String} {es : List (Event τ)}
      {r : Except Stop (Option α)} {e : Stop} :
      A es r → notYet r = true → n ≠ 0 → Halts env e →
      Attempts env p what A (n + 1) last (es ++ p.pauseWith n) (.error e)
  | again {n : Nat} {last : Option String} {es fs : List (Event τ)}
      {r : Except Stop (Option α)} {r' : Except Stop α} :
      A es r → notYet r = true → Attempts env p what A n (lastAfter last r) fs r' →
      Attempts env p what A (n + 1) last (es ++ p.pauseWith n ++ fs) r'

variable {env : Surroundings τ} {p : Polling τ} {what : String} {last : Option String}
  {operation : Run σ τ (Option α)} {A : List (Event τ) → Except Stop (Option α) → Prop}

/-- What one attempt hands on: a value, nothing together with the last failure, or the end. -/
theorem tryOnce_does (number : Int) (h : Does env operation A) :
    Does env (p.tryOnce what number last operation) fun es r => ∃ r', A es r' ∧
      ((∃ a, r' = .ok (some a) ∧ r = .ok (some a, last)) ∨
        (notYet r' = true ∧ r = .ok (none, lastAfter last r')) ∨
        ∃ e, r' = .error e ∧ notYet r' = false ∧ r = .error e) := by
  have hheard := h.reachable
  refine hheard.bind ?_ ?_
  · rintro es found ⟨r', hA, hr'⟩
    cases found with
    | ok found =>
        have hok : r' = .ok found := by
          cases r' with
          | ok a => cases hr'; rfl
          | error e =>
              cases e with
              | fault f => cases f <;> cases hr'
              | _ => cases hr'
        subst hok
        refine does_value _ ?_
        rw [List.append_nil]
        cases found with
        | none => exact ⟨_, hA, .inr (.inl ⟨rfl, rfl⟩)⟩
        | some a => exact ⟨_, hA, .inl ⟨a, rfl, rfl⟩⟩
    | error message =>
        have hlost : r' = .error (.fault (.unreachable message)) := by
          cases r' with
          | ok a => cases hr'
          | error e =>
              cases e with
              | fault f => cases f <;> cases hr'; rfl
              | _ => cases hr'
        subst hlost
        refine (note_silent _ _).silent_bind ?_ (fun e he => nomatch he)
        intro u _
        refine does_value _ ?_
        rw [List.append_nil]
        exact ⟨_, hA, .inr (.inl ⟨rfl, rfl⟩)⟩
  · rintro es e ⟨r', hA, hr'⟩
    have hstop : r' = .error e ∧ notYet r' = false := by
      cases r' with
      | ok a => cases hr'
      | error e' =>
          cases e' with
          | fault f => cases f <;> cases hr' <;> exact ⟨rfl, rfl⟩
          | _ => cases hr'; exact ⟨rfl, rfl⟩
    exact ⟨r', hA, .inr (.inr ⟨e, hstop.1, hstop.2, rfl⟩)⟩

theorem tries_does [Timeline τ] (h : Does env operation A) (n : Nat) (last : Option String) :
    Does env (p.tries what operation n last) (Attempts env p what A n last) := by
  induction n generalizing last with
  | zero => exact does_stop _ (.exhausted last)
  | succ n ih =>
      refine (tryOnce_does _ h).bind ?_ ?_
      · rintro es ⟨found, last'⟩ ⟨r', hA, hr'⟩
        rcases hr' with ⟨a, rfl, hfound⟩ | ⟨hyet, hfound⟩ | ⟨e, -, -, hfound⟩
        · cases hfound
          refine does_value a ?_
          rw [List.append_nil]
          exact .value hA
        · cases hfound
          have hrest : Does env (p.tries what operation n (lastAfter last r'))
              fun fs r => Attempts env p what A (n + 1) last (es ++ p.pauseWith n ++ fs) r :=
            (ih _).mono fun fs r hfs => .again hA hyet hfs
          by_cases hn : n = 0
          · simpa [hn, pauseWith] using hrest
          · dsimp only
            rw [if_pos hn]
            refine (sleep_does p.pause).bind ?_ ?_
            · rintro gs u ⟨rfl, -⟩
              simpa [hn, pauseWith] using hrest
            · rintro gs e ⟨rfl, hhalt⟩
              obtain ⟨e', hhalts, he⟩ := hhalt.resolve_left (fun h => by cases h)
              cases he
              simpa [hn, pauseWith] using Attempts.halted hA hyet hn hhalts
        · cases hfound
      · rintro es e ⟨r', hA, hr'⟩
        rcases hr' with ⟨a, -, hfound⟩ | ⟨-, hfound⟩ | ⟨e', rfl, hyet, hfound⟩
        · cases hfound
        · cases hfound
        · cases hfound
          exact .stopped hA hyet

theorem seek_does [Timeline τ] (h : Does env operation A) :
    Does env (p.seek what operation) fun es r =>
      (p.attempts < 1 ∧ es = [] ∧ r = .error (.misuse .noAttempts)) ∨
        (1 ≤ p.attempts ∧ Attempts env p what A p.attempts.toNat none es r) := by
  unfold seek
  by_cases hp : p.attempts < 1
  · rw [if_pos hp]
    exact does_stop _ (.inl ⟨hp, rfl, rfl⟩)
  · rw [if_neg hp]
    exact (tries_does h _ _).mono fun es r hA => .inr ⟨by omega, hA⟩

/-- If no attempt comes to a value, then all of them together do not. -/
theorem Attempts.ne_ok (hA : ∀ es a, ¬ A es (.ok (some a))) {n : Nat} {es : List (Event τ)}
    {r : Except Stop α} (h : Attempts env p what A n last es r) (a : α) :
    r ≠ .ok a := by
  induction h with
  | exhausted _ => exact fun hr => nomatch hr
  | value hattempt => exact absurd hattempt (hA _ _)
  | stopped _ _ => exact fun hr => nomatch hr
  | halted _ _ _ _ => exact fun hr => nomatch hr
  | again _ _ _ ih => exact ih

theorem seek_ne_ok [Timeline τ] (h : Does env operation A) (hA : ∀ es a, ¬ A es (.ok (some a))) :
    Does env (p.seek what operation) fun _ r => ∀ a, r ≠ .ok a := by
  refine (seek_does h).mono ?_
  rintro es r (⟨-, -, rfl⟩ | ⟨-, hattempts⟩)
  · exact fun a hr => nomatch hr
  · exact hattempts.ne_ok hA

/-! ## Waiting for an answer -/

/-- An answer that is waited after: the answer and then the pause. -/
def awaited (q : Request) (look : Answer × τ) : List (Event τ) :=
  [.answered q look.1, .paused look.2]

/-- Looks at one address, each with the pause after it, up to a last one that gives a value. -/
def Sought {β : Type} (q : Request) (Early : Answer × τ → Prop) (Final : Answer → β → Prop)
    (es : List (Event τ)) (v : β) : Prop :=
  ∃ (looks : List (Answer × τ)) (last : Answer), es = looks.flatMap (awaited q) ++ [.answered q last] ∧
    (∀ look ∈ looks, Early look) ∧ Final last v

/-- Attempts that make one request each and give a value have asked until an answer gave it. -/
theorem Attempts.sought {q : Request} {read : Answer → Except Stop (Option α)} {n : Nat}
    {es : List (Event τ)} {r : Except Stop α} {v : α}
    (h : Attempts env p what (Reads env q read) n last es r) (hr : r = .ok v) :
    Sought q (fun look => notYet (read look.1) = true ∧ look.2 = p.pause)
      (fun a v => read a = .ok (some v)) es v := by
  induction h with
  | exhausted last => cases hr
  | value hread =>
      cases hr
      obtain ⟨t, rfl, hvalue⟩ := hread
      exact ⟨[], _, rfl, by simp, hvalue.symm⟩
  | stopped _ _ => cases hr
  | halted _ _ _ _ => cases hr
  | @again n last es fs r' r hread hyet hrest ih =>
      obtain ⟨t, rfl, rfl⟩ := hread
      -- without another attempt there would be no value
      have hn : n ≠ 0 := by
        rintro rfl
        cases hrest
        cases hr
      obtain ⟨looks, last', rfl, hearly, hfinal⟩ := ih hr
      refine ⟨(env.answer t q, p.pause) :: looks, last', ?_, ?_, hfinal⟩
      · simp [pauseWith, hn, awaited]
      · intro look hlook
        rcases List.mem_cons.1 hlook with rfl | hlook
        · exact ⟨hyet, rfl⟩
        · exact hearly look hlook

theorem seek_sought [Timeline τ] {q : Request} {read : Answer → Except Stop (Option α)}
    (h : Does env operation (Reads env q read)) :
    Does env (p.seek what operation) fun es r => ∀ v, r = .ok v →
      Sought q (fun look => notYet (read look.1) = true ∧ look.2 = p.pause)
        (fun a v => read a = .ok (some v)) es v := by
  refine (seek_does h).mono ?_
  rintro es r (⟨-, -, hr⟩ | ⟨-, hattempts⟩) v hv
  · rw [hr] at hv
    cases hv
  · exact hattempts.sought hv

/-- What a round may come to that asks at one address until an answer gives a value, and then ends
with that or waits for another round. -/
structure WaitRound {β : Type} (q : Request) (Early : Answer × τ → Prop) (Final : Answer → β → Prop)
    (es : List (Event τ)) (r : Except Stop (Round Unit β)) : Prop where
  done : ∀ v, r = .ok (.done v) → Sought q Early Final es v
  again : r = .ok (.again ()) →
    ∃ looks : List (Answer × τ), es = looks.flatMap (awaited q) ∧ ∀ look ∈ looks, Early look

/-- What work may come to that judges an answer: it ends the round, or pauses. -/
structure Judged {β : Type} (a : Answer) (Early : Answer × τ → Prop) (Final : Answer → β → Prop)
    (es : List (Event τ)) (r : Except Stop (Round Unit β)) : Prop where
  done : ∀ v, r = .ok (.done v) → es = [] ∧ Final a v
  again : r = .ok (.again ()) → ∃ pause, es = [.paused pause] ∧ Early (a, pause)

theorem judged_done {β : Type} {a : Answer} {Early : Answer × τ → Prop} {Final : Answer → β → Prop}
    {v : β} (h : Final a v) :
    Does (σ := σ) env (pure (.done v)) (Judged a Early Final) := by
  refine does_value _ ⟨?_, fun hr => nomatch hr⟩
  intro v' hv
  cases hv
  exact ⟨rfl, h⟩

/-- An answer that is waited after lets the wait go on, unless the pause is cut short. -/
theorem judged_pause [Timeline τ] {β : Type} {a : Answer} {Early : Answer × τ → Prop}
    {Final : Answer → β → Prop} {pause : τ} (h : Early (a, pause)) :
    Does (σ := σ) env (do Run.sleep pause; return .again ()) (Judged a Early Final) := by
  refine (sleep_does pause).bind ?_ ?_
  · rintro es u ⟨rfl, -⟩
    exact does_value _ ⟨fun v hv => (nomatch hv), fun _ => ⟨pause, rfl, h⟩⟩
  · intro es e _
    exact ⟨fun v hv => (nomatch hv), fun hr => (nomatch hr)⟩

/-- Asking until an answer gives a value and judging that answer makes a round. -/
theorem waitRound_of_sought {β : Type} {q : Request} {Early Early' : Answer × τ → Prop}
    {Found : Answer → α → Prop} {Final : Answer → β → Prop} {x : Run σ τ α}
    {f : α → Run σ τ (Round Unit β)}
    (hx : Does env x fun es r => ∀ v, r = .ok v → Sought q Early' Found es v)
    (hearly : ∀ look, Early' look → Early look)
    (hf : ∀ a v, Found a v → Does env (f v) (Judged a Early Final)) :
    Does env (x >>= f) (WaitRound q Early Final) := by
  refine hx.bind ?_ ?_
  · intro es v hes
    obtain ⟨looks, last, rfl, hlooks, hfound⟩ := hes v rfl
    refine (hf last v hfound).mono fun fs r hjudged => ⟨?_, ?_⟩
    · intro v' hv'
      obtain ⟨rfl, hfinal⟩ := hjudged.done v' hv'
      exact ⟨looks, last, List.append_nil _, fun look hlook => hearly look (hlooks look hlook), hfinal⟩
    · intro hr
      obtain ⟨pause, rfl, hlast⟩ := hjudged.again hr
      refine ⟨looks ++ [(last, pause)], by simp [awaited], ?_⟩
      intro look hlook
      rcases List.mem_append.1 hlook with hlook | hlook
      · exact hearly look (hlooks look hlook)
      · obtain rfl := List.mem_singleton.1 hlook
        exact hlast
  · intro es e _
    exact ⟨fun v hv => (nomatch hv), fun hr => (nomatch hr)⟩

/-- A loop of such rounds asks at the one address until an answer ends it. -/
theorem sought_of_rounds {β : Type} {q : Request} {Early : Answer × τ → Prop}
    {Final : Answer → β → Prop} {u : Unit} {es : List (Event τ)} {r : Except Stop β} {v : β}
    (h : Rounds (fun _ => WaitRound q Early Final) u es r) (hr : r = .ok v) :
    Sought q Early Final es v := by
  induction h with
  | spent _ => cases hr
  | stopped _ => cases hr
  | done hround =>
      cases hr
      exact hround.done _ rfl
  | again hround _ ih =>
      obtain ⟨looks, rfl, hearly⟩ := hround.again rfl
      obtain ⟨looks', last, rfl, hearly', hfinal⟩ := ih hr
      refine ⟨looks ++ looks', last, by simp, ?_, hfinal⟩
      intro look hlook
      rcases List.mem_append.1 hlook with hlook | hlook
      · exact hearly look hlook
      · exact hearly' look hlook

end SparkGateway.Polling
