import SparkGateway.Exchange.Trace

/-!
# Taking turns

Pieces of work that go on at the same time take turns: each goes on to its next pause before it is the
turn of the others.  So work with fewer pauses is over earlier.  Of work with as many pauses, what ends
with a value is over before what stops, and among equals what began earlier is over earlier.

Main statements: `noLater_total` and `noLater_trans` (any two pieces of work can be put in order).
-/

namespace SparkGateway.Prospect

variable {τ : Type}

/-- Whether work is over no later than other work that goes on at the same time. -/
def noLater (p q : Prospect τ) : Bool :=
  p.steps.pauses.length < q.steps.pauses.length ||
    (p.steps.pauses.length == q.steps.pauses.length && (!p.stops || q.stops))

/-- The place of the work that is over first, counted from zero. -/
def soonest (ps : List (Prospect τ)) : Nat :=
  ((ps.zipIdx.mergeSort fun p q => noLater p.1 q.1).head?.map Prod.snd).getD 0

/-- Of two pieces of work one is over no later than the other. -/
theorem noLater_total (p q : Prospect τ) : (noLater p q || noLater q p) = true := by
  rcases Nat.lt_trichotomy p.steps.pauses.length q.steps.pauses.length with h | h | h
  · simp [noLater, h]
  · cases hp : p.stops <;> cases hq : q.stops <;> simp [noLater, h, hp, hq]
  · simp [noLater, h]

theorem noLater_trans (p q r : Prospect τ) (hpq : noLater p q = true) (hqr : noLater q r = true) :
    noLater p r = true := by
  simp only [noLater, Bool.or_eq_true, decide_eq_true_eq, Bool.and_eq_true, beq_iff_eq,
    Bool.not_eq_true'] at hpq hqr ⊢
  rcases hpq with hpq | ⟨hpq, hp⟩
  · exact Or.inl (by omega)
  · rcases hqr with hqr | ⟨hqr, hq⟩
    · exact Or.inl (by omega)
    · refine Or.inr ⟨by omega, ?_⟩
      rcases hp with hp | hp
      · exact Or.inl hp
      · rcases hq with hq | hq
        · rw [hp] at hq
          cases hq
        · exact Or.inr hq

end SparkGateway.Prospect
