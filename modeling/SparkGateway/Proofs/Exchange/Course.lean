import SparkGateway.Exchange.Trace

/-!
# The course of a piece of work

The trace of a piece of work names the requests that were made, but not what came back.  Here each
request stands with the answer that the surroundings gave to it, so that a statement about work can
speak of requests, answers, pauses and items in the order in which they came.

A `Course` runs from one world to another through such events.  Work that keeps its memory is
described by the events and outcomes that it admits (`Does`), and a loop by those of its rounds
(`Rounds`).  The induction over the rounds of a loop is done here once, in `rounds_does`.
-/

namespace SparkGateway

/-- What can be seen of a piece of work: requests and loads with their answers, pauses, items that
were given and what was shown. -/
inductive Event (τ : Type) where
  | answered (r : Request) (a : Answer)
  | loaded (url : String) (a : Answer)
  | paused (amount : τ)
  | gave (item : Item)
  | shown (d : Terminal.Display)

/-- What an answer to a request comes to for the work that asked. -/
def Answer.outcome (r : Request) : Answer → Except Stop Reply
  | .reply code body contentType => .ok ⟨r.url, code, body, contentType⟩
  | .broken message =>
    .error (.fault (.unreachable s!"{r.method.name} {r.url} failed: {message}"))
  | .stop e => .error e

variable {σ τ α β : Type}

/-- The event that a step is, after the steps before it. -/
def Step.event? (env : Surroundings τ) (before : Trace τ) : Step τ → Option (Event τ)
  | .asked r => some (.answered r (env.answer before r))
  | .loaded url => some (.loaded url (env.page before url))
  | .slept amount => some (.paused amount)
  | .gave item => some (.gave item)
  | .shown d => some (.shown d)
  | _ => none

/-- The events of some steps, after the steps before them. -/
def Surroundings.events (env : Surroundings τ) : Trace τ → Trace τ → List (Event τ)
  | _, [] => []
  | before, s :: rest => (s.event? env before).toList ++ env.events (before ++ [s]) rest

theorem Surroundings.events_append (env : Surroundings τ) (before t u : Trace τ) :
    env.events before (t ++ u) = env.events before t ++ env.events (before ++ t) u := by
  induction t generalizing before with
  | nil => simp [events]
  | cons s rest ih => simp [events, ih (before ++ [s])]

/-- The pause that an event is. -/
def Event.pause? : Event τ → Option τ
  | .paused amount => some amount
  | _ => none

/-- The load of a page that an event is. -/
def Event.load? : Event τ → Option Request
  | .loaded url _ => some (.get url)
  | _ => none

theorem Surroundings.pauses_events (env : Surroundings τ) (before t : Trace τ) :
    (env.events before t).filterMap Event.pause? = t.pauses := by
  induction t generalizing before with
  | nil => rfl
  | cons s rest ih =>
      rw [events, List.filterMap_append, ih]
      cases s <;> rfl

theorem Surroundings.loads_events (env : Surroundings τ) (before t : Trace τ) :
    (env.events before t).filterMap Event.load? = t.loads := by
  induction t generalizing before with
  | nil => rfl
  | cons s rest ih =>
      rw [events, List.filterMap_append, ih]
      cases s <;> rfl

namespace Run

/-- Work that goes on and comes to a value has come to a value before it went on. -/
theorem bind_eq_ok {x : Run σ τ α} {f : α → Run σ τ β} {env : Surroundings τ} {w v : World σ τ} {b : β}
    (h : (x >>= f) env w = (.ok b, v)) : ∃ a u, x env w = (.ok a, u) ∧ f a env u = (.ok b, v) := by
  obtain ⟨⟨r, u⟩, hrun⟩ : ∃ result, x env w = result := ⟨_, rfl⟩
  cases r with
  | error e => exact nomatch (bind_error hrun).symm.trans h
  | ok a => exact ⟨a, u, hrun, (bind_ok hrun).symm.trans h⟩

/-- The events of a piece of work. -/
def events (x : Run σ τ α) (env : Surroundings τ) (w : World σ τ) : List (Event τ) :=
  env.events w.trace ((x env w).2.trace.drop w.trace.length)

/-- A piece of work goes through some events to an outcome and the world after it. -/
structure Course (x : Run σ τ α) (env : Surroundings τ) (w : World σ τ)
    (es : List (Event τ)) (r : Except Stop α) (v : World σ τ) : Prop where
  run : x env w = (r, v)
  steps : ∃ t, v.trace = w.trace ++ t ∧ env.events w.trace t = es

variable {env : Surroundings τ} {w v : World σ τ} {es fs : List (Event τ)}

theorem Course.outcome_eq {x : Run σ τ α} {r : Except Stop α}
    (h : Course x env w es r v) : (x env w).1 = r := by
  rw [h.run]

theorem Course.events_eq {x : Run σ τ α} {r : Except Stop α}
    (h : Course x env w es r v) : x.events env w = es := by
  obtain ⟨t, htrace, hes⟩ := h.steps
  simp [events, h.run, htrace, hes]

theorem Course.pauses {x : Run σ τ α} {r : Except Stop α} (h : Course x env w es r v) :
    v.trace.pauses = w.trace.pauses ++ es.filterMap Event.pause? := by
  obtain ⟨t, htrace, rfl⟩ := h.steps
  rw [htrace, Trace.pauses_append, env.pauses_events]

theorem Course.loads {x : Run σ τ α} {r : Except Stop α} (h : Course x env w es r v) :
    v.trace.loads = w.trace.loads ++ es.filterMap Event.load? := by
  obtain ⟨t, htrace, rfl⟩ := h.steps
  rw [htrace, Trace.loads_append, env.loads_events]

/-- Work that makes no step. -/
theorem Course.silent {x : Run σ τ α} {r : Except Stop α}
    (h : x env w = (r, v)) (htrace : v.trace = w.trace) :
    Course x env w [] r v :=
  ⟨h, [], by simp [htrace], rfl⟩

/-- Work that makes one step. -/
theorem Course.step {x : Run σ τ α} {r : Except Stop α} {s : Step τ}
    (h : x env w = (r, v)) (htrace : v.trace = w.trace ++ [s]) :
    Course x env w (s.event? env w.trace).toList r v :=
  ⟨h, [s], htrace, by simp [Surroundings.events]⟩

theorem Course.bind {x : Run σ τ α} {f : α → Run σ τ β} {a : α} {u : World σ τ}
    {r : Except Stop β}
    (hx : Course x env w es (.ok a) u) (hf : Course (f a) env u fs r v) :
    Course (x >>= f) env w (es ++ fs) r v := by
  obtain ⟨t, ht, hes⟩ := hx.steps
  obtain ⟨t', ht', hfs⟩ := hf.steps
  refine ⟨(bind_ok hx.run).trans hf.run, t ++ t', ?_, ?_⟩
  · rw [ht', ht, List.append_assoc]
  · rw [Surroundings.events_append, hes, ← ht, hfs]

theorem Course.bind_error {x : Run σ τ α} {f : α → Run σ τ β} {e : Stop}
    (hx : Course x env w es (.error e) v) :
    Course (x >>= f) env w es (.error e) v :=
  ⟨Run.bind_error hx.run, hx.steps⟩

theorem Course.attempt {x : Run σ τ α} {r : Except Stop α}
    (hx : Course x env w es r v) :
    Course x.attempt env w es (.ok r) v :=
  ⟨by rw [attempt_eq, hx.run], hx.steps⟩

/-- What becomes of an outcome when a service that could not be reached is a value. -/
def heard : Except Stop α → Except Stop (Except String α)
  | .ok a => .ok (.ok a)
  | .error (.fault (.unreachable m)) => .ok (.error m)
  | .error e => .error e

theorem heard_eq_ok {r : Except Stop α} {v : Except String α} (h : heard r = .ok v) :
    (∃ a, v = .ok a ∧ r = .ok a) ∨
      ∃ message, v = .error message ∧ r = .error (.fault (.unreachable message)) := by
  unfold heard at h
  split at h
  · exact .inl ⟨_, (Except.ok.inj h).symm, rfl⟩
  · exact .inr ⟨_, (Except.ok.inj h).symm, rfl⟩
  · cases h

theorem heard_eq_error {r : Except Stop α} {e : Stop} (h : heard r = .error e) : r = .error e := by
  unfold heard at h
  split at h
  · cases h
  · cases h
  · exact congrArg _ (Except.error.inj h)

theorem reachable_eq (x : Run σ τ α) (env : Surroundings τ) (w : World σ τ) :
    x.reachable env w = (heard (x env w).1, (x env w).2) := by
  unfold Run.reachable
  rw [bind_ok (attempt_eq x env w)]
  cases (x env w).1 with
  | ok a => rfl
  | error e =>
      cases e with
      | fault f => cases f <;> rfl
      | _ => rfl

theorem Course.reachable {x : Run σ τ α} {r : Except Stop α}
    (hx : Course x env w es r v) :
    Course x.reachable env w es (heard r) v :=
  ⟨by rw [reachable_eq, hx.run], hx.steps⟩

/-- Work that keeps its memory and passes, whatever the world before it, through events to an outcome
that `A` admits. -/
def Does (env : Surroundings τ) (x : Run σ τ α)
    (A : List (Event τ) → Except Stop α → Prop) : Prop :=
  ∀ w, ∃ es r v, Course x env w es r v ∧ v.memory = w.memory ∧ A es r

theorem Does.mono {x : Run σ τ α} {A B : List (Event τ) → Except Stop α → Prop}
    (h : Does env x A) (hAB : ∀ es r, A es r → B es r) :
    Does env x B := by
  intro w
  obtain ⟨es, r, v, hx, hm, hA⟩ := h w
  exact ⟨es, r, v, hx, hm, hAB es r hA⟩

/-- The events and outcome of work that is known by what it admits. -/
theorem Does.holds {x : Run σ τ α} {A : List (Event τ) → Except Stop α → Prop}
    (h : Does env x A) (w : World σ τ) :
    A (x.events env w) (x env w).1 := by
  obtain ⟨es, r, v, hx, -, hA⟩ := h w
  rw [hx.events_eq, hx.outcome_eq]
  exact hA

theorem does_value (a : α) {A : List (Event τ) → Except Stop α → Prop}
    (h : A [] (.ok a)) : Does (σ := σ) env (pure a) A := fun w =>
  ⟨[], .ok a, w, .silent rfl rfl, rfl, h⟩

theorem does_stop (e : Stop) {A : List (Event τ) → Except Stop α → Prop}
    (h : A [] (.error e)) : Does (σ := σ) env (stop e) A := fun w =>
  ⟨[], .error e, w, .silent rfl rfl, rfl, h⟩

/-- Work that goes on does what its two parts do, one after the other; the second part is judged with
the events of the first in view. -/
theorem Does.bind {x : Run σ τ α} {f : α → Run σ τ β}
    {A : List (Event τ) → Except Stop α → Prop} {B : List (Event τ) → Except Stop β → Prop}
    (hx : Does env x A)
    (hok : ∀ es a, A es (.ok a) → Does env (f a) fun fs r => B (es ++ fs) r)
    (herror : ∀ es e, A es (.error e) → B es (.error e)) :
    Does env (x >>= f) B := by
  intro w
  obtain ⟨es, r, u, hcx, hmx, hA⟩ := hx w
  cases r with
  | ok a =>
      obtain ⟨fs, r, v, hcf, hmf, hB⟩ := hok es a hA u
      exact ⟨es ++ fs, r, v, hcx.bind hcf, hmf.trans hmx, hB⟩
  | error e => exact ⟨es, .error e, u, hcx.bind_error, hmx, herror es e hA⟩

theorem Does.reachable {x : Run σ τ α} {A : List (Event τ) → Except Stop α → Prop}
    (hx : Does env x A) :
    Does env x.reachable fun es r => ∃ r', A es r' ∧ r = heard r' := by
  intro w
  obtain ⟨es, r, v, hc, hm, hA⟩ := hx w
  exact ⟨es, heard r, v, hc.reachable, hm, r, hA, rfl⟩

/-- Work that makes no step and comes to `r`. -/
def Silent (r : Except Stop α) (es : List (Event τ)) (r' : Except Stop α) : Prop :=
  es = [] ∧ r' = r

theorem value_silent (a : α) : Does (σ := σ) env (pure a) (Silent (.ok a)) :=
  does_value a ⟨rfl, rfl⟩

theorem stop_silent (e : Stop) : Does (σ := σ) env (stop e : Run σ τ α) (Silent (.error e)) :=
  does_stop e ⟨rfl, rfl⟩

theorem ofStop_silent (x : Except Stop α) : Does (σ := σ) env (ofStop x) (Silent x) := by
  cases x with
  | ok a => exact value_silent a
  | error e => exact stop_silent e

theorem ofFault_silent (x : Except Fault α) :
    Does (σ := σ) env (ofFault x) (Silent (x.mapError .fault)) := by
  cases x with
  | ok a => exact value_silent a
  | error f => exact stop_silent (.fault f)

theorem ofMisfit_silent (x : Except Misfit α) :
    Does (σ := σ) env (ofMisfit x) (Silent (x.mapError .misfit)) := by
  cases x with
  | ok a => exact value_silent a
  | error m => exact stop_silent (.misfit m)

theorem Does.silent_bind {x : Run σ τ α} {f : α → Run σ τ β} {r : Except Stop α}
    {A : List (Event τ) → Except Stop β → Prop} (hx : Does env x (Silent r))
    (hok : ∀ a, r = .ok a → Does env (f a) A) (herror : ∀ e, r = .error e → A [] (.error e)) :
    Does env (x >>= f) A := by
  refine hx.bind ?_ ?_
  · rintro es a ⟨rfl, ha⟩
    exact hok a ha.symm
  · rintro es e ⟨rfl, he⟩
    exact herror e he.symm

/-! ## Single steps -/

theorem note_silent (level : Level) (text : String) :
    Does (σ := σ) env (note level text) (Silent (.ok ())) := fun _ =>
  ⟨[], .ok (), _, ⟨rfl, [.noted level text], rfl, rfl⟩, rfl, rfl, rfl⟩

/-- Work may be cut short by `e` at a pause or at an item. -/
def Halts (env : Surroundings τ) (e : Stop) : Prop := ∃ t, env.halt t = some e

/-- What a pause may come to. -/
def Slept (env : Surroundings τ) (amount : τ) (es : List (Event τ)) (r : Except Stop Unit) : Prop :=
  es = [.paused amount] ∧ (r = .ok () ∨ ∃ e, Halts env e ∧ r = .error e)

theorem sleep_does [Timeline τ] (amount : τ) :
    Does (σ := σ) env (sleep amount) (Slept env amount) := by
  intro w
  cases h : env.halt (w.trace ++ [.slept amount]) with
  | none =>
      exact ⟨_, _, _, Course.step (sleep_eq amount env w h) rfl, rfl, rfl, Or.inl rfl⟩
  | some e =>
      have hrun : sleep amount env w =
          (.error e, { w with trace := w.trace ++ [.slept amount] }) := by
        simp [sleep, h]
      exact ⟨_, _, _, Course.step hrun rfl, rfl, rfl, Or.inr ⟨e, ⟨_, h⟩, rfl⟩⟩

/-- What the giving of an item may come to. -/
def Given (env : Surroundings τ) (item : Item) (es : List (Event τ)) (r : Except Stop Unit) : Prop :=
  es = [.gave item] ∧ (r = .ok () ∨ ∃ e, Halts env e ∧ r = .error e)

theorem give_does (item : Item) : Does (σ := σ) env (give item) (Given env item) := by
  intro w
  cases h : env.halt (w.trace ++ [.gave item]) with
  | none =>
      have hrun : give item env w = (.ok (), { w with trace := w.trace ++ [.gave item] }) := by
        simp [give, h]
      exact ⟨_, _, _, Course.step hrun rfl, rfl, rfl, Or.inl rfl⟩
  | some e =>
      have hrun : give item env w = (.error e, { w with trace := w.trace ++ [.gave item] }) := by
        simp [give, h]
      exact ⟨_, _, _, Course.step hrun rfl, rfl, rfl, Or.inr ⟨e, ⟨_, h⟩, rfl⟩⟩

/-- What work may come to that makes one request and reads the answer, whatever it is. -/
def Reads (env : Surroundings τ) (q : Request) (read : Answer → Except Stop α)
    (es : List (Event τ)) (r : Except Stop α) : Prop :=
  ∃ t, es = [.answered q (env.answer t q)] ∧ r = read (env.answer t q)

/-- The steps before a request for which a connection is opened. -/
def opening (q : Request) : Trace τ := [.noted .debug s!"{q.method.name} {q.url}", .connected]

theorem ask_of_connects (q : Request) (w : World σ τ) (h : env.connects = true) :
    ask q env w = ((env.answer (w.trace ++ opening q) q).outcome q,
      { w with trace := w.trace ++ opening q ++ [.asked q, .released] }) := by
  unfold opening
  cases ha : env.answer (w.trace ++ [.noted .debug s!"{q.method.name} {q.url}", .connected]) q <;>
    simp [ask, bind, andThen, connects, note, record, answered, value, fail, stop, pure,
      Answer.outcome, h, ha]

theorem ask_of_not_connects (q : Request) (w : World σ τ) (h : env.connects = false) :
    ask q env w = ((env.answer w.trace q).outcome q,
      { w with trace := w.trace ++ [.asked q] }) := by
  cases ha : env.answer w.trace q <;>
    simp [ask, bind, andThen, connects, answered, value, fail, stop, pure, Answer.outcome, h, ha]

theorem ask_reads (q : Request) : Does (σ := σ) env (ask q) (Reads env q (Answer.outcome q)) := by
  intro w
  cases h : env.connects with
  | false =>
      exact ⟨_, _, _, Course.step (ask_of_not_connects q w h) rfl, rfl, w.trace, rfl, rfl⟩
  | true =>
      refine ⟨_, _, _, ⟨ask_of_connects q w h, _, List.append_assoc _ _ _, rfl⟩, rfl, ?_⟩
      exact ⟨_, by simp [Surroundings.events, Step.event?, opening], rfl⟩

/-- Reading an answer further makes no other step. -/
theorem Does.reads_bind {q : Request} {read : Answer → Except Stop α} {x : Run σ τ α}
    {f : α → Run σ τ β} {g : α → Except Stop β} (hx : Does env x (Reads env q read))
    (hf : ∀ a, Does env (f a) (Silent (g a))) :
    Does env (x >>= f) (Reads env q fun answer => read answer >>= g) := by
  refine hx.bind ?_ ?_
  · rintro es a ⟨t, rfl, ha⟩
    refine (hf a).mono ?_
    rintro fs r ⟨rfl, rfl⟩
    exact ⟨t, List.append_nil _, by simp only [← ha]; rfl⟩
  · rintro es e ⟨t, rfl, he⟩
    exact ⟨t, rfl, by simp only [← he]; rfl⟩

/-! ## Loops -/

/-- What a loop may come to whose rounds admit `A`. -/
inductive Rounds (A : α → List (Event τ) → Except Stop (Round α β) → Prop) :
    α → List (Event τ) → Except Stop β → Prop where
  | spent (a : α) : Rounds A a [] (.error .spent)
  | stopped {a : α} {es : List (Event τ)} {e : Stop} :
      A a es (.error e) → Rounds A a es (.error e)
  | done {a : α} {es : List (Event τ)} {b : β} :
      A a es (.ok (.done b)) → Rounds A a es (.ok b)
  | again {a a' : α} {es fs : List (Event τ)} {r : Except Stop β} :
      A a es (.ok (.again a')) → Rounds A a' fs r → Rounds A a (es ++ fs) r

theorem roundsWithin_does {round : α → Run σ τ (Round α β)}
    {A : α → List (Event τ) → Except Stop (Round α β) → Prop}
    (h : ∀ a, Does env (round a) (A a)) (n : Nat) (a : α) :
    Does env (roundsWithin round n a) (Rounds A a) := by
  induction n generalizing a with
  | zero => exact does_stop .spent (.spent a)
  | succ n ih =>
      refine (h a).bind ?_ fun es e hA => .stopped hA
      intro es next hA
      cases next with
      | again a' => exact (ih a').mono fun fs r hfs => .again hA hfs
      | done b =>
          refine does_value b ?_
          rw [List.append_nil]
          exact .done hA

/-- A loop does as many rounds as the surroundings have patience for. -/
theorem Course.rounds {round : α → Run σ τ (Round α β)} {a : α} {r : Except Stop β}
    (h : Course (roundsWithin round env.patience a) env w es r v) :
    Course (Run.rounds round a) env w es r v := by
  have hpatience : (patience : Run σ τ Nat) env w = (.ok env.patience, w) := rfl
  exact ⟨(bind_ok hpatience).trans h.run, h.steps⟩

theorem Does.rounds {round : α → Run σ τ (Round α β)} {a : α}
    {A : List (Event τ) → Except Stop β → Prop}
    (h : Does env (roundsWithin round env.patience a) A) :
    Does env (Run.rounds round a) A := by
  intro w
  obtain ⟨es, r, v, hc, hm, hA⟩ := h w
  exact ⟨es, r, v, hc.rounds, hm, hA⟩

theorem rounds_does {round : α → Run σ τ (Round α β)}
    {A : α → List (Event τ) → Except Stop (Round α β) → Prop}
    (h : ∀ a, Does env (round a) (A a)) (a : α) :
    Does env (rounds round a) (Rounds A a) :=
  (roundsWithin_does h env.patience a).rounds

/-- A loop of which no round comes to a value never does. -/
theorem Rounds.ne_ok {A : α → List (Event τ) → Except Stop (Round α β) → Prop}
    (hA : ∀ a es next, ¬ A a es (.ok next)) {a : α} {es : List (Event τ)} {r : Except Stop β}
    (h : Rounds A a es r) (b : β) :
    r ≠ .ok b := by
  cases h with
  | spent => exact fun hr => nomatch hr
  | stopped => exact fun hr => nomatch hr
  | done hround => exact absurd hround (hA _ _ _)
  | again hround => exact absurd hround (hA _ _ _)

end Run

end SparkGateway
