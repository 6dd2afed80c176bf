import SparkGateway.Polling
import SparkGateway.Proofs.Exchange.Course

/-!
# Composed work

What work comes to that changes its memory, and work that somebody has composed of given pieces.  A
composed piece may go on in view of all that came before, may start over after a stop, and may do so in
a loop.  Whatever each given piece does to the memory, if it can be told of one piece after another,
can be told of the whole: this induction is done here once, in `Composed.leads`.
-/

namespace SparkGateway

namespace Run

variable {σ τ α β : Type} {env : Surroundings τ}

/-- Work that starts with the memory `m` passes through events to an outcome and a memory that `A`
admits. -/
def Leads (env : Surroundings τ) (x : Run σ τ α) (m : σ)
    (A : List (Event τ) → Except Stop α → σ → Prop) : Prop :=
  ∀ w, w.memory = m → ∃ es r v, Course x env w es r v ∧ A es r v.memory

theorem Leads.mono {x : Run σ τ α} {m : σ} {A B : List (Event τ) → Except Stop α → σ → Prop}
    (h : Leads env x m A) (hAB : ∀ es r m', A es r m' → B es r m') :
    Leads env x m B := by
  intro w hw
  obtain ⟨es, r, v, hx, hA⟩ := h w hw
  exact ⟨es, r, v, hx, hAB es r v.memory hA⟩

/-- The events, the outcome and the memory after work that is known by what it admits. -/
theorem Leads.holds {x : Run σ τ α} {m : σ} {A : List (Event τ) → Except Stop α → σ → Prop}
    (h : Leads env x m A) (w : World σ τ) (hw : w.memory = m) :
    A (x.events env w) (x env w).1 (x env w).2.memory := by
  obtain ⟨es, r, v, hx, hA⟩ := h w hw
  rw [hx.events_eq, hx.run]
  exact hA

theorem Does.leads {x : Run σ τ α} {A : List (Event τ) → Except Stop α → Prop}
    (h : Does env x A) (m : σ) :
    Leads env x m fun es r m' => m' = m ∧ A es r := by
  intro w hw
  obtain ⟨es, r, v, hx, hm, hA⟩ := h w
  exact ⟨es, r, v, hx, hm.trans hw, hA⟩

theorem Leads.bind {x : Run σ τ α} {f : α → Run σ τ β} {m : σ}
    {A : List (Event τ) → Except Stop α → σ → Prop} {B : List (Event τ) → Except Stop β → σ → Prop}
    (hx : Leads env x m A)
    (hok : ∀ es a m', A es (.ok a) m' →
      Leads env (f a) m' fun fs r m'' => B (es ++ fs) r m'')
    (herror : ∀ es e m', A es (.error e) m' → B es (.error e) m') :
    Leads env (x >>= f) m B := by
  intro w hw
  obtain ⟨es, r, u, hcx, hA⟩ := hx w hw
  cases r with
  | ok a =>
      obtain ⟨fs, r, v, hcf, hB⟩ := hok es a u.memory hA u rfl
      exact ⟨es ++ fs, r, v, hcx.bind hcf, hB⟩
  | error e => exact ⟨es, .error e, u, hcx.bind_error, herror es e u.memory hA⟩

theorem Leads.attempt {x : Run σ τ α} {m : σ} {A : List (Event τ) → Except Stop α → σ → Prop}
    (hx : Leads env x m A) :
    Leads env x.attempt m fun es r m' => ∃ r', r = .ok r' ∧ A es r' m' := by
  intro w hw
  obtain ⟨es, r, v, hc, hA⟩ := hx w hw
  exact ⟨es, .ok r, v, hc.attempt, r, rfl, hA⟩

/-- Work that only looks at its memory. -/
theorem leads_of_eq {x : Run σ τ α} {m : σ} {r : Except Stop α}
    {A : List (Event τ) → Except Stop α → σ → Prop}
    (hx : ∀ w, w.memory = m → x env w = (r, w)) (h : A [] r m) :
    Leads env x m A := by
  intro w hw
  exact ⟨[], r, w, .silent (hx w hw) rfl, hw ▸ h⟩

/-- Work that looks at its memory and goes on with what it has seen. -/
theorem leads_bind_of_eq {x : Run σ τ α} {f : α → Run σ τ β} {m : σ} {a : α}
    {B : List (Event τ) → Except Stop β → σ → Prop}
    (hx : ∀ w, w.memory = m → x env w = (.ok a, w)) (h : Leads env (f a) m B) :
    Leads env (x >>= f) m B := by
  intro w hw
  obtain ⟨es, r, v, hc, hB⟩ := h w hw
  exact ⟨es, r, v, ⟨(bind_ok (hx w hw)).trans hc.run, hc.steps⟩, hB⟩

theorem leads_value (a : α) {m : σ} {A : List (Event τ) → Except Stop α → σ → Prop}
    (h : A [] (.ok a) m) : Leads env (pure a) m A :=
  leads_of_eq (fun _ _ => rfl) h

theorem leads_stop (e : Stop) {m : σ} {A : List (Event τ) → Except Stop α → σ → Prop}
    (h : A [] (.error e) m) : Leads env (stop e) m A :=
  leads_of_eq (fun _ _ => rfl) h

theorem leads_remember {m m' : σ} {A : List (Event τ) → Except Stop Unit → σ → Prop}
    (h : A [] (.ok ()) m') : Leads env (remember m') m A := fun w _ =>
  ⟨[], .ok (), { w with memory := m' }, .silent rfl rfl, h⟩

theorem leads_rounds {round : α → Run σ τ (Round α β)} {a : α} {m : σ}
    {A : List (Event τ) → Except Stop β → σ → Prop}
    (h : Leads env (roundsWithin round env.patience a) m A) : Leads env (rounds round a) m A := by
  intro w hw
  obtain ⟨es, r, v, hc, hA⟩ := h w hw
  exact ⟨es, r, v, hc.rounds, hA⟩

theorem bind_bind {γ : Type} (x : Run σ τ α) (f : α → Run σ τ β) (g : β → Run σ τ γ) :
    (x >>= f) >>= g = x >>= fun a => f a >>= g := by
  funext env w
  show andThen (andThen x f) g env w = andThen x (fun a => andThen (f a) g) env w
  unfold andThen
  rcases x env w with ⟨_ | a, v⟩ <;> rfl

/-- Work that goes on is work whose outcome is looked at, where a stop goes on stopping. -/
theorem bind_eq_attempt_bind (x : Run σ τ α) (f : α → Run σ τ β) :
    x >>= f = x.attempt >>= fun r => ofStop r >>= f := by
  funext env w
  show andThen x f env w = andThen x.attempt (fun r => andThen (ofStop r) f) env w
  unfold andThen Run.attempt
  rcases x env w with ⟨_ | a, v⟩ <;> rfl

/-- Work that is composed of pieces. -/
inductive Composed (Piece : ∀ {α : Type}, Run σ τ α → Prop) : ∀ {α : Type}, Run σ τ α → Prop where
  | value {α : Type} (a : α) : Composed Piece (pure a : Run σ τ α)
  | stop {α : Type} (e : Stop) : Composed Piece (stop e : Run σ τ α)
  | piece {α : Type} {x : Run σ τ α} : Piece x → Composed Piece x
  | bind {α β : Type} {x : Run σ τ α} {f : α → Run σ τ β} :
      Composed Piece x → (∀ a, Composed Piece (f a)) → Composed Piece (x >>= f)
  | attempt {α : Type} {x : Run σ τ α} : Composed Piece x → Composed Piece x.attempt
  | rounds {α β : Type} {round : α → Run σ τ (Round α β)} (a : α) :
      (∀ a, Composed Piece (round a)) → Composed Piece (rounds round a)

theorem Composed.reachable {Piece : ∀ {α : Type}, Run σ τ α → Prop} {x : Run σ τ α}
    (h : Composed Piece x) : Composed Piece x.reachable := by
  refine .bind (.attempt h) fun r => ?_
  split
  · exact .value _
  · exact .value _
  · exact .stop _

/-- Work that is composed of pieces is composed of whatever these pieces are. -/
theorem Composed.mono {Piece Piece' : ∀ {α : Type}, Run σ τ α → Prop}
    (hpiece : ∀ {α : Type} {x : Run σ τ α}, Piece x → Piece' x) {x : Run σ τ α}
    (h : Composed Piece x) : Composed Piece' x := by
  induction h with
  | value a => exact .value a
  | stop e => exact .stop e
  | piece hx => exact .piece (hpiece hx)
  | bind _ _ ihx ihf => exact .bind ihx ihf
  | attempt _ ih => exact .attempt ih
  | rounds a _ ih => exact .rounds a ih

/-- Work that is composed of pieces and goes on after no stop but a failure to reach the service. -/
inductive Plain (Piece : ∀ {α : Type}, Run σ τ α → Prop) : ∀ {α : Type}, Run σ τ α → Prop where
  | value {α : Type} (a : α) : Plain Piece (pure a : Run σ τ α)
  | stop {α : Type} (e : Stop) : Plain Piece (stop e : Run σ τ α)
  | piece {α : Type} {x : Run σ τ α} : Piece x → Plain Piece x
  | bind {α β : Type} {x : Run σ τ α} {f : α → Run σ τ β} :
      Plain Piece x → (∀ a, Plain Piece (f a)) → Plain Piece (x >>= f)
  | reachable {α : Type} {x : Run σ τ α} : Plain Piece x → Plain Piece x.reachable
  | rounds {α β : Type} {round : α → Run σ τ (Round α β)} (a : α) :
      (∀ a, Plain Piece (round a)) → Plain Piece (rounds round a)

theorem Plain.ofFault {Piece : ∀ {α : Type}, Run σ τ α → Prop} (x : Except Fault α) :
    Plain Piece (Run.ofFault x) := by
  cases x with
  | ok a => exact .value a
  | error f => exact .stop (.fault f)

theorem Plain.ofMisfit {Piece : ∀ {α : Type}, Run σ τ α → Prop} (x : Except Misfit α) :
    Plain Piece (Run.ofMisfit x) := by
  cases x with
  | ok a => exact .value a
  | error m => exact .stop (.misfit m)

theorem Plain.ofStop {Piece : ∀ {α : Type}, Run σ τ α → Prop} (x : Except Stop α) :
    Plain Piece (Run.ofStop x) := by
  cases x with
  | ok a => exact .value a
  | error e => exact .stop e

theorem Plain.composed {Piece : ∀ {α : Type}, Run σ τ α → Prop} {x : Run σ τ α} (h : Plain Piece x) :
    Composed Piece x := by
  induction h with
  | value a => exact .value a
  | stop e => exact .stop e
  | piece hx => exact .piece hx
  | bind _ _ ihx ihf => exact .bind ihx ihf
  | reachable _ ih => exact ih.reachable
  | rounds a _ ih => exact .rounds a ih

section Polled

variable {Piece : ∀ {α : Type}, Run σ τ α → Prop} [Timeline τ]

theorem Plain.tries {x : Run σ τ (Option α)} (h : Plain Piece x)
    (hnote : ∀ level text, Piece (note level text)) (hsleep : ∀ amount, Piece (sleep amount))
    (p : Polling τ) (what : String) (n : Nat) (last : Option String) :
    Plain Piece (p.tries what x n last) := by
  induction n generalizing last with
  | zero => exact .stop _
  | succ n ih =>
      have honce : Plain Piece (p.tryOnce what (p.attempts - n) last x) := by
        refine .bind h.reachable fun found => ?_
        cases found with
        | ok found => exact .value _
        | error message => exact .bind (.piece (hnote _ _)) fun _ => .value _
      refine .bind honce fun found => ?_
      obtain ⟨found, last'⟩ := found
      cases found with
      | some a => exact .value a
      | none =>
          dsimp only
          split
          · exact .bind (.piece (hsleep _)) fun _ => ih last'
          · exact ih last'

/-- Work that is polled is composed of its pieces, of remarks and of pauses. -/
theorem Plain.seek {x : Run σ τ (Option α)} (h : Plain Piece x)
    (hnote : ∀ level text, Piece (note level text)) (hsleep : ∀ amount, Piece (sleep amount))
    (p : Polling τ) (what : String) : Plain Piece (p.seek what x) := by
  unfold Polling.seek
  split
  · exact .stop _
  · exact h.tries hnote hsleep p what _ _

end Polled

/-- What holds of all work that is put together from work of which it holds. -/
structure Closed (K : ∀ {α : Type}, Run σ τ α → Prop) : Prop where
  value : ∀ {α : Type} (a : α), K (pure a : Run σ τ α)
  stop : ∀ {α : Type} (e : Stop), K (stop e : Run σ τ α)
  patience : K (patience : Run σ τ Nat)
  bind : ∀ {α β : Type} {x : Run σ τ α} {f : α → Run σ τ β}, K x → (∀ a, K (f a)) → K (x >>= f)
  reachable : ∀ {α : Type} {x : Run σ τ α}, K x → K x.reachable

theorem Closed.rounds {K : ∀ {α : Type}, Run σ τ α → Prop} (hK : Closed K)
    {round : α → Run σ τ (Round α β)} (h : ∀ a, K (round a)) (a : α) : K (rounds round a) := by
  have hwithin : ∀ n a, K (roundsWithin round n a) := by
    intro n
    induction n with
    | zero => exact fun _ => hK.stop .spent
    | succ n ih =>
        refine fun a => hK.bind (h a) fun next => ?_
        cases next with
        | again a' => exact ih a'
        | done b => exact hK.value b
  exact hK.bind hK.patience fun n => hwithin n a

theorem Plain.closed {Piece K : ∀ {α : Type}, Run σ τ α → Prop} (hK : Closed K)
    (hpiece : ∀ {α : Type} {x : Run σ τ α}, Piece x → K x) {x : Run σ τ α} (h : Plain Piece x) : K x := by
  induction h with
  | value a => exact hK.value a
  | stop e => exact hK.stop e
  | piece hx => exact hpiece hx
  | bind _ _ ihx ihf => exact hK.bind ihx ihf
  | reachable _ ih => exact hK.reachable ih
  | rounds a _ ih => exact hK.rounds ih a

/-- Work after which something holds of the world, if it held before. -/
def Preserves (env : Surroundings τ) (P : World σ τ → Prop) (x : Run σ τ α) : Prop :=
  ∀ w, P w → P (x env w).2

theorem preserves_closed (env : Surroundings τ) (P : World σ τ → Prop) :
    Closed (Preserves env P) where
  value _ _ h := h
  stop _ _ h := h
  patience _ h := h
  bind {_ _ x f} hx hf := by
    intro w h
    have hnext := hx w h
    obtain ⟨⟨r, v⟩, hrun⟩ : ∃ result, x env w = result := ⟨_, rfl⟩
    rw [hrun] at hnext
    cases r with
    | error e => rwa [bind_error hrun]
    | ok a =>
        rw [bind_ok hrun]
        exact hf a v hnext
  reachable {_ x} hx := by
    intro w h
    rw [reachable_eq]
    exact hx w h

theorem Composed.ofFault {Piece : ∀ {α : Type}, Run σ τ α → Prop} (x : Except Fault α) :
    Composed Piece (Run.ofFault x) :=
  (Plain.ofFault x).composed

theorem Composed.ofMisfit {Piece : ∀ {α : Type}, Run σ τ α → Prop} (x : Except Misfit α) :
    Composed Piece (Run.ofMisfit x) :=
  (Plain.ofMisfit x).composed

theorem Composed.ofStop {Piece : ∀ {α : Type}, Run σ τ α → Prop} (x : Except Stop α) :
    Composed Piece (Run.ofStop x) :=
  (Plain.ofStop x).composed

/-- What can be told of events and the memory before and after them, if it can be told of one piece of
work after another. -/
structure Chains (M : σ → List (Event τ) → σ → Prop) : Prop where
  refl : ∀ m, M m [] m
  trans : ∀ {m m' m'' es fs}, M m es m' → M m' fs m'' → M m (es ++ fs) m''

variable {M : σ → List (Event τ) → σ → Prop}

theorem Chains.bind (hM : Chains M) {x : Run σ τ α} {f : α → Run σ τ β} {m : σ}
    (hx : Leads env x m fun es _ m' => M m es m')
    (hf : ∀ a m', Leads env (f a) m' fun es _ m'' => M m' es m'') :
    Leads env (x >>= f) m fun es _ m' => M m es m' :=
  hx.bind (fun _ a m' hes => (hf a m').mono fun _ _ _ hfs => hM.trans hes hfs)
    fun _ _ _ hes => hes

theorem Chains.roundsWithin (hM : Chains M) {round : α → Run σ τ (Round α β)}
    (h : ∀ a m, Leads env (round a) m fun es _ m' => M m es m') (n : Nat) (a : α) (m : σ) :
    Leads env (roundsWithin round n a) m fun es _ m' => M m es m' := by
  induction n generalizing a m with
  | zero => exact leads_stop .spent (hM.refl m)
  | succ n ih =>
      refine hM.bind (h a m) fun next m' => ?_
      cases next with
      | again a' => exact ih a' m'
      | done b => exact leads_value b (hM.refl m')

/-- What every piece does to the memory, whatever is remembered before it, composed work does too. -/
theorem Composed.leads {Piece : ∀ {α : Type}, Run σ τ α → Prop} (hM : Chains M)
    (hpiece : ∀ {α : Type} (x : Run σ τ α), Piece x →
      ∀ m, Leads env x m fun es _ m' => M m es m')
    {x : Run σ τ α} (h : Composed Piece x) (m : σ) :
    Leads env x m fun es _ m' => M m es m' := by
  induction h generalizing m with
  | value a => exact leads_value a (hM.refl m)
  | stop e => exact leads_stop e (hM.refl m)
  | piece hx => exact hpiece _ hx m
  | bind _ _ ihx ihf => exact hM.bind (ihx m) ihf
  | attempt _ ih => exact (ih m).attempt.mono fun _ _ _ ⟨_, _, hes⟩ => hes
  | rounds a _ ih => exact leads_rounds (hM.roundsWithin ih env.patience a m)

/-! ## Memories in between -/

/-- The memories that composed work passes through, one after each piece. -/
inductive Passes (Piece : ∀ {α : Type}, Run σ τ α → Prop) (env : Surroundings τ) :
    ∀ {α : Type}, Run σ τ α → World σ τ → List σ → Prop where
  | value {α : Type} (a : α) (w : World σ τ) : Passes Piece env (pure a : Run σ τ α) w []
  | stop {α : Type} (e : Stop) (w : World σ τ) : Passes Piece env (stop e : Run σ τ α) w []
  | piece {α : Type} {x : Run σ τ α} (w : World σ τ) :
      Piece x → Passes Piece env x w [(x env w).2.memory]
  | bind {α β : Type} {x : Run σ τ α} {f : α → Run σ τ β} {w v : World σ τ} {a : α} {ms ms' : List σ} :
      x env w = (.ok a, v) → Passes Piece env x w ms → Passes Piece env (f a) v ms' →
      Passes Piece env (x >>= f) w (ms ++ ms')
  | bind_error {α β : Type} {x : Run σ τ α} {f : α → Run σ τ β} {w v : World σ τ} {e : Stop}
      {ms : List σ} :
      x env w = (.error e, v) → Passes Piece env x w ms → Passes Piece env (x >>= f) w ms
  | attempt {α : Type} {x : Run σ τ α} {w : World σ τ} {ms : List σ} :
      Passes Piece env x w ms → Passes Piece env x.attempt w ms
  | rounds {α β : Type} {round : α → Run σ τ (Round α β)} {a : α} {w : World σ τ} {ms : List σ} :
      Passes Piece env (roundsWithin round env.patience a) w ms →
      Passes Piece env (rounds round a) w ms

section Passing

variable {Piece : ∀ {α : Type}, Run σ τ α → Prop}

theorem passes_bind {x : Run σ τ α} {f : α → Run σ τ β} {w : World σ τ}
    (hx : ∃ ms, Passes Piece env x w ms) (hf : ∀ a v, ∃ ms, Passes Piece env (f a) v ms) :
    ∃ ms, Passes Piece env (x >>= f) w ms := by
  obtain ⟨ms, hms⟩ := hx
  cases hrun : x env w with
  | mk r v =>
      cases r with
      | ok a =>
          obtain ⟨ms', hms'⟩ := hf a v
          exact ⟨ms ++ ms', .bind hrun hms hms'⟩
      | error e => exact ⟨ms, .bind_error hrun hms⟩

theorem passes_roundsWithin {round : α → Run σ τ (Round α β)}
    (h : ∀ a w, ∃ ms, Passes Piece env (round a) w ms) (n : Nat) (a : α) (w : World σ τ) :
    ∃ ms, Passes Piece env (roundsWithin round n a) w ms := by
  induction n generalizing a w with
  | zero => exact ⟨[], .stop _ w⟩
  | succ n ih =>
      refine passes_bind (h a w) fun next v => ?_
      cases next with
      | again a' => exact ih a' v
      | done b => exact ⟨[], .value b v⟩

/-- Composed work passes through memories, whatever it does. -/
theorem Composed.passes {x : Run σ τ α} (h : Composed Piece x) (env : Surroundings τ)
    (w : World σ τ) :
    ∃ ms, Passes Piece env x w ms := by
  induction h generalizing w with
  | value a => exact ⟨[], .value a w⟩
  | stop e => exact ⟨[], .stop e w⟩
  | piece hx => exact ⟨_, .piece w hx⟩
  | bind _ _ ihx ihf => exact passes_bind (ihx w) ihf
  | attempt _ ih =>
      obtain ⟨ms, hms⟩ := ih w
      exact ⟨ms, .attempt hms⟩
  | rounds a _ ih =>
      obtain ⟨ms, hms⟩ := passes_roundsWithin ih env.patience a w
      exact ⟨ms, .rounds hms⟩

/-- What can be told of events and the memories before, between and after them, if it can be told of
one piece of work after another. -/
structure Strings (M : σ → List (Event τ) → List σ → σ → Prop) : Prop where
  refl : ∀ m, M m [] [] m
  trans : ∀ {m m' m'' es fs ms ms'}, M m es ms m' → M m' fs ms' m'' → M m (es ++ fs) (ms ++ ms') m''

variable {M : σ → List (Event τ) → List σ → σ → Prop}

/-- What every piece does to the memory can be told of all memories that composed work passes
through. -/
theorem Passes.told (hM : Strings M)
    (hpiece : ∀ {α : Type} (x : Run σ τ α), Piece x → ∀ m, Leads env x m fun es _ m' => M m es [m'] m')
    {x : Run σ τ α} {w : World σ τ} {ms : List σ} (h : Passes Piece env x w ms) :
    ∃ es r v, Course x env w es r v ∧ M w.memory es ms v.memory := by
  induction h with
  | value a w => exact ⟨[], .ok a, w, .silent rfl rfl, hM.refl _⟩
  | stop e w => exact ⟨[], .error e, w, .silent rfl rfl, hM.refl _⟩
  | piece w hx =>
      obtain ⟨es, r, v, hc, hes⟩ := hpiece _ hx w.memory w rfl
      refine ⟨es, r, v, hc, ?_⟩
      rw [hc.run]
      exact hes
  | @bind _ _ x f w v a ms ms' hrun _ _ ihx ihf =>
      obtain ⟨es, r, u, hcx, hes⟩ := ihx
      obtain ⟨fs, r', u', hcf, hfs⟩ := ihf
      obtain ⟨rfl, rfl⟩ := Prod.mk.inj (hcx.run.symm.trans hrun)
      exact ⟨es ++ fs, r', u', hcx.bind hcf, hM.trans hes hfs⟩
  | @bind_error _ _ x f w v e ms hrun _ ihx =>
      obtain ⟨es, r, u, hcx, hes⟩ := ihx
      obtain ⟨rfl, rfl⟩ := Prod.mk.inj (hcx.run.symm.trans hrun)
      exact ⟨es, .error e, _, hcx.bind_error, hes⟩
  | attempt _ ih =>
      obtain ⟨es, r, v, hc, hes⟩ := ih
      exact ⟨es, .ok r, v, hc.attempt, hes⟩
  | rounds _ ih =>
      obtain ⟨es, r, v, hc, hes⟩ := ih
      exact ⟨es, r, v, hc.rounds, hes⟩

end Passing

end Run

end SparkGateway
