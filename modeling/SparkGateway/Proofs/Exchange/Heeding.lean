import SparkGateway.Proofs.Exchange.Composed
import SparkGateway.Proofs.Page.Fetching

/-!
# Heeding a stop

The surroundings may end a piece of work at any request, load, pause or item.  Work heeds such a stop if
it ends with it, whatever it was about to do: the only thing that it still does is to close connections.

A failure to reach the service is not a stop of that kind, since it is waited out and passed over.  Every
other stop is heeded by each single step, and composed work heeds it if all its pieces do, as long as it
goes on after nothing but a failure to reach the service (`heeds_closed`).
-/

namespace SparkGateway

variable {σ τ α β : Type}

/-- The surroundings end the work with `e` at a step, after the steps before it. -/
def Step.EndedBy (env : Surroundings τ) (before : Trace τ) (e : Stop) : Step τ → Prop
  | .asked r => env.answer before r = .stop e
  | .loaded url => env.page before url = .stop e
  | .slept amount => env.halt (before ++ [.slept amount]) = some e
  | .gave item => env.halt (before ++ [.gave item]) = some e
  | _ => False

namespace Run

/-- If the work that took some steps was ended with `e` at one of them, it came to `e`, and only closed
connections after that step. -/
def Heeded (env : Surroundings τ) (e : Stop) (before t : Trace τ) (r : Except Stop α) : Prop :=
  ∀ earlier s later, t = earlier ++ s :: later → s.EndedBy env (before ++ earlier) e →
    r = .error e ∧ ∀ s' ∈ later, s' = .released

/-- Wherever the surroundings end the work with `e`, it comes to `e` at once. -/
def Heeds (e : Stop) (x : Run σ τ α) : Prop :=
  ∀ env w, ∃ t, (x env w).2.trace = w.trace ++ t ∧ Heeded env e w.trace t (x env w).1

variable {env : Surroundings τ} {e : Stop} {before t u : Trace τ} {r : Except Stop α}

theorem heeded_nil : Heeded env e before [] r := by
  intro earlier s later h
  cases earlier <;> cases h

theorem heeded_cons {s : Step τ} :
    Heeded env e before (s :: t) r ↔
      (s.EndedBy env before e → r = .error e ∧ ∀ s' ∈ t, s' = .released) ∧
        Heeded env e (before ++ [s]) t r := by
  constructor
  · intro h
    refine ⟨fun hended => h [] s t rfl (by rwa [List.append_nil]), ?_⟩
    intro earlier s' later ht hended
    exact h (s :: earlier) s' later (congrArg _ ht) (by rwa [List.append_cons])
  · rintro ⟨hfirst, hrest⟩ earlier s' later ht hended
    cases earlier with
    | nil =>
        obtain ⟨rfl, rfl⟩ := List.cons.inj ht
        exact hfirst (by rwa [List.append_nil] at hended)
    | cons s'' earlier =>
        obtain ⟨rfl, rfl⟩ := List.cons.inj ht
        exact hrest earlier s' later rfl (by rwa [List.append_cons] at hended)

/-- Work that came to a value was not ended, so what follows it decides. -/
theorem Heeded.append {a : β} (ht : Heeded env e before t (.ok a : Except Stop β))
    (hu : Heeded env e (before ++ t) u r) : Heeded env e before (t ++ u) r := by
  induction t generalizing before with
  | nil => simpa using hu
  | cons s t ih =>
      obtain ⟨hfirst, hrest⟩ := heeded_cons.1 ht
      rw [List.cons_append, heeded_cons]
      refine ⟨fun hended => (nomatch (hfirst hended).1), ih hrest ?_⟩
      rwa [List.append_assoc, List.singleton_append]

/-! ## Single steps -/

theorem heeds_of_silent {x : Run σ τ α} (h : ∀ env w, (x env w).2.trace = w.trace) : Heeds e x :=
  fun env w => ⟨[], by rw [h env w, List.append_nil], heeded_nil⟩

theorem heeds_value (a : α) : Heeds e (pure a : Run σ τ α) := heeds_of_silent fun _ _ => rfl

theorem heeds_stop (e' : Stop) : Heeds e (stop e' : Run σ τ α) := heeds_of_silent fun _ _ => rfl

theorem heeds_note (level : Level) (text : String) : Heeds e (note level text : Run σ τ Unit) :=
  fun _ _ => ⟨[.noted level text], rfl, heeded_cons.2 ⟨False.elim, heeded_nil⟩⟩

theorem heeds_sleep [Timeline τ] (amount : τ) : Heeds e (sleep amount : Run σ τ Unit) := by
  intro env w
  refine ⟨[.slept amount], ?_, heeded_cons.2 ⟨fun hended => ?_, heeded_nil⟩⟩
  · unfold sleep
    dsimp only
    split <;> rfl
  · have hended : env.halt (w.trace ++ [.slept amount]) = some e := hended
    unfold sleep
    dsimp only
    rw [hended]
    exact ⟨rfl, by simp⟩

theorem heeds_give (item : Item) : Heeds e (give item : Run σ τ Unit) := by
  intro env w
  refine ⟨[.gave item], ?_, heeded_cons.2 ⟨fun hended => ?_, heeded_nil⟩⟩
  · unfold give
    dsimp only
    split <;> rfl
  · have hended : env.halt (w.trace ++ [.gave item]) = some e := hended
    unfold give
    dsimp only
    rw [hended]
    exact ⟨rfl, by simp⟩

theorem heeds_ask (q : Request) : Heeds e (ask q : Run σ τ Reply) := by
  intro env w
  cases hconnects : env.connects with
  | false =>
      rw [ask_of_not_connects q w hconnects]
      refine ⟨[.asked q], rfl, heeded_cons.2 ⟨fun hended => ?_, heeded_nil⟩⟩
      have hended : env.answer w.trace q = .stop e := hended
      exact ⟨by rw [hended]; rfl, by simp⟩
  | true =>
      rw [ask_of_connects q w hconnects]
      refine ⟨opening q ++ [.asked q, .released], List.append_assoc _ _ _, ?_⟩
      have hopening : Heeded env e w.trace (opening q) (.ok () : Except Stop Unit) := by
        simp [opening, heeded_cons, heeded_nil, Step.EndedBy]
      refine hopening.append (heeded_cons.2 ⟨fun hended => ?_, ?_⟩)
      · have hended : env.answer (w.trace ++ opening q) q = .stop e := hended
        exact ⟨by rw [hended]; rfl, by simp⟩
      · exact heeded_cons.2 ⟨False.elim, heeded_nil⟩

theorem heeds_load (url : String) : Heeds e (Page.load url : Run σ τ Page) := by
  intro env w
  rw [Page.load_eq]
  refine ⟨Page.loading url, rfl, ?_⟩
  have hconnecting : Heeded env e w.trace (Page.connecting url) (.ok () : Except Stop Unit) := by
    simp [Page.connecting, heeded_cons, heeded_nil, Step.EndedBy]
  refine hconnecting.append (heeded_cons.2 ⟨fun hended => ?_, ?_⟩)
  · have hended : env.page (w.trace ++ Page.connecting url) url = .stop e := hended
    exact ⟨by rw [hended]; rfl, by simp⟩
  · exact heeded_cons.2 ⟨False.elim, heeded_nil⟩

/-! ## Composed work -/

theorem Heeds.bind {x : Run σ τ α} {f : α → Run σ τ β} (hx : Heeds e x) (hf : ∀ a, Heeds e (f a)) :
    Heeds e (x >>= f) := by
  intro env w
  obtain ⟨t, htrace, hheeded⟩ := hx env w
  obtain ⟨⟨r, v⟩, hrun⟩ : ∃ result, x env w = result := ⟨_, rfl⟩
  rw [hrun] at htrace hheeded
  cases r with
  | error e' =>
      rw [bind_error hrun]
      refine ⟨t, htrace, fun earlier s later ht hended => ?_⟩
      obtain ⟨hsame, hreleased⟩ := hheeded earlier s later ht hended
      exact ⟨congrArg _ (Except.error.inj hsame), hreleased⟩
  | ok a =>
      rw [bind_ok hrun]
      obtain ⟨u, htrace', hheeded'⟩ := hf a env v
      refine ⟨t ++ u, by rw [htrace', htrace, List.append_assoc], hheeded.append ?_⟩
      rwa [htrace] at hheeded'

theorem heard_error (he : ∀ message, e ≠ .fault (.unreachable message)) :
    heard (.error e : Except Stop α) = .error e := by
  cases e with
  | fault f =>
      cases f with
      | unreachable message => exact absurd rfl (he message)
      | _ => rfl
  | _ => rfl

/-- A stop that is no failure to reach the service is not waited out. -/
theorem Heeds.reachable {x : Run σ τ α} (hx : Heeds e x)
    (he : ∀ message, e ≠ .fault (.unreachable message)) : Heeds e x.reachable := by
  intro env w
  obtain ⟨t, htrace, hheeded⟩ := hx env w
  rw [reachable_eq]
  refine ⟨t, htrace, fun earlier s later ht hended => ?_⟩
  obtain ⟨hstop, hreleased⟩ := hheeded earlier s later ht hended
  rw [hstop]
  exact ⟨heard_error he, hreleased⟩

/-- Work that goes on after nothing but a failure to reach the service heeds what all its pieces
heed. -/
theorem heeds_closed (he : ∀ message, e ≠ .fault (.unreachable message)) :
    Closed (σ := σ) (τ := τ) (Heeds e) where
  value := heeds_value
  stop := heeds_stop
  patience := heeds_of_silent fun _ _ => rfl
  bind := Heeds.bind
  reachable h := h.reachable he

end Run

end SparkGateway
