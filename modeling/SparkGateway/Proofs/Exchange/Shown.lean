import SparkGateway.Exchange.Trace
import SparkGateway.Proofs.Exchange.Composed

/-!
# What is shown

The displays of a piece of work, in order, and work that shows displays of one kind only.
-/

namespace SparkGateway

open Terminal

variable {σ τ α : Type}

/-- The display that a step shows. -/
def Step.display? : Step τ → Option Display
  | .shown d => some d
  | _ => none

/-- What was shown, in order. -/
def Trace.displays (t : Trace τ) : List Display := t.filterMap Step.display?

@[simp] theorem Trace.displays_append (t u : Trace τ) : displays (t ++ u) = displays t ++ displays u :=
  List.filterMap_append

/-- The world after something more was shown. -/
def World.showing (w : World σ τ) (d : Display) : World σ τ := { w with trace := w.trace ++ [.shown d] }

@[simp] theorem World.showing_displays (w : World σ τ) (d : Display) :
    (w.showing d).trace.displays = w.trace.displays ++ [d] :=
  Trace.displays_append _ _

namespace Run

theorem display_eq (d : Display) (env : Surroundings τ) (w : World σ τ) :
    display d env w = (.ok (), w.showing d) := rfl

/-- Whatever work shows is as `P` says. -/
def Shows (P : Display → Prop) (x : Run σ τ α) : Prop :=
  ∀ env w, ∃ ds, (x env w).2.trace.displays = w.trace.displays ++ ds ∧ ∀ d ∈ ds, P d

variable {P : Display → Prop}

theorem shows_of_unseen {x : Run σ τ α} (h : ∀ env w, (x env w).2.trace.displays = w.trace.displays) :
    Shows P x :=
  fun env w => ⟨[], by rw [h env w, List.append_nil], by simp⟩

theorem shows_closed : Closed (σ := σ) (τ := τ) (Shows P) where
  value _ := shows_of_unseen fun _ _ => rfl
  stop _ := shows_of_unseen fun _ _ => rfl
  patience := shows_of_unseen fun _ _ => rfl
  bind {_ _ x f} hx hf := by
    intro env w
    obtain ⟨ds, hdisplays, hds⟩ := hx env w
    obtain ⟨⟨r, v⟩, hrun⟩ : ∃ result, x env w = result := ⟨_, rfl⟩
    rw [hrun] at hdisplays
    cases r with
    | error e =>
        rw [bind_error hrun]
        exact ⟨ds, hdisplays, hds⟩
    | ok a =>
        rw [bind_ok hrun]
        obtain ⟨ds', hdisplays', hds'⟩ := hf a env v
        refine ⟨ds ++ ds', by rw [hdisplays', hdisplays, List.append_assoc], fun d hd => ?_⟩
        exact (List.mem_append.1 hd).elim (hds d) (hds' d)
  reachable {_ x} hx := by
    intro env w
    rw [reachable_eq]
    exact hx env w

/-- Work that shows nothing leaves what was shown. -/
theorem Shows.unseen {x : Run σ τ α} (h : Shows (fun _ => False) x) (env : Surroundings τ)
    (w : World σ τ) : (x env w).2.trace.displays = w.trace.displays := by
  obtain ⟨ds, hdisplays, hds⟩ := h env w
  rw [hdisplays, List.eq_nil_iff_forall_not_mem.2 hds, List.append_nil]

theorem note_shows (level : Level) (text : String) : Shows P (note level text : Run σ τ Unit) :=
  shows_of_unseen fun _ w => by simp [note, record, Trace.displays, Step.display?]

theorem sleep_shows [Timeline τ] (amount : τ) : Shows P (sleep amount : Run σ τ Unit) := by
  refine shows_of_unseen fun env w => ?_
  unfold sleep
  dsimp only
  split <;> simp [Trace.displays, Step.display?]

theorem give_shows (item : Item) : Shows P (give item : Run σ τ Unit) := by
  refine shows_of_unseen fun env w => ?_
  unfold give
  dsimp only
  split <;> simp [Trace.displays, Step.display?]

theorem ask_shows (q : Request) : Shows P (ask q : Run σ τ Reply) := by
  refine shows_of_unseen fun env w => ?_
  cases hconnects : env.connects with
  | true =>
      rw [ask_of_connects q w hconnects]
      simp [opening, Trace.displays, Step.display?]
  | false =>
      rw [ask_of_not_connects q w hconnects]
      simp [Trace.displays, Step.display?]

end Run

end SparkGateway
