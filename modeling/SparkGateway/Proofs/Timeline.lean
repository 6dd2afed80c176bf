import Mathlib.Algebra.Order.Group.Int
import Mathlib.Algebra.Order.Ring.Rat
import SparkGateway.Timeline

/-!
# Exact time

Amounts of time are exact if they are added, subtracted and compared as in an ordered group, without any
rounding.  Whole seconds are, and so are fractions of seconds.
-/

namespace SparkGateway

/-- Amounts of time that are not rounded. -/
class Timeline.Exact (τ : Type) [AddCommGroup τ] [LinearOrder τ] [Timeline τ] : Prop where
  seconds_zero : Timeline.seconds 0 = (0 : τ)
  plus_eq : ∀ t u : τ, Timeline.plus t u = t + u
  minus_eq : ∀ t u : τ, Timeline.minus t u = t - u
  lt_iff : ∀ t u : τ, Timeline.lt t u = true ↔ t < u
  le_iff : ∀ t u : τ, Timeline.le t u = true ↔ t ≤ u

/-- Whole seconds as amounts of time. -/
instance : Timeline Int where
  seconds n := n
  plus := (· + ·)
  minus := (· - ·)
  lt t u := decide (t < u)
  le t u := decide (t ≤ u)
  text := Int.repr

instance : Timeline.Exact Int where
  seconds_zero := rfl
  plus_eq _ _ := rfl
  minus_eq _ _ := rfl
  lt_iff _ _ := decide_eq_true_iff
  le_iff _ _ := decide_eq_true_iff

/-- Fractions of seconds as amounts of time. -/
instance : Timeline ℚ where
  seconds n := n
  plus := (· + ·)
  minus := (· - ·)
  lt t u := decide (t < u)
  le t u := decide (t ≤ u)
  text := toString

instance : Timeline.Exact ℚ where
  seconds_zero := rfl
  plus_eq _ _ := rfl
  minus_eq _ _ := rfl
  lt_iff _ _ := decide_eq_true_iff
  le_iff _ _ := decide_eq_true_iff

end SparkGateway
