import SparkGateway.Decimal.Layout

/-!
# Numbers

A number in a document or a setting is a whole number of any size, or a binary fraction.  Sums of
whole numbers are exact and everything else is computed in binary fractions, but comparisons are
always exact, also between the two kinds.

Main statement: `order_whole` (whole numbers are compared as integers).
-/

namespace SparkGateway

open Decimal

/-- The exact order of two values; nothing is comparable to what is not a number. -/
def Decimal.Value.order : Value → Value → Option Ordering
  | .nan, _ => none
  | _, .nan => none
  | .infinite true, .infinite true => some .eq
  | .infinite false, .infinite false => some .eq
  | .infinite negative, _ => some (if negative then .lt else .gt)
  | _, .infinite negative => some (if negative then .gt else .lt)
  | .finite s m e, .finite t n f =>
    let low := min e f
    let a : Int := m * twoTo (e - low).toNat
    let b : Int := n * twoTo (f - low).toNat
    some (compare (if s then -a else a) (if t then -b else b))

/-- A number: whole, or a binary fraction (which may be infinite or no number). -/
inductive Number where
  /-- A whole number of any size. -/
  | whole (n : Int)
  /-- A binary fraction. -/
  | real (x : Float)
  deriving Repr

namespace Number

instance : Inhabited Number := ⟨.whole 0⟩

/-- What a number stands for. -/
def value : Number → Value
  | .whole n => .finite (n < 0) n.natAbs 0
  | .real x => Value.ofFloat x

/-- The nearest binary fraction. -/
def toFloat : Number → Float
  | .whole n => nearestInt n
  | .real x => x

/-- The exact order of two numbers, if they are comparable. -/
def order (a b : Number) : Option Ordering := a.value.order b.value

/-- Whether `a < b`. -/
def lt (a b : Number) : Bool := a.order b == some .lt

/-- Whether `a ≤ b`. -/
def le (a b : Number) : Bool := a.order b == some .lt || a.order b == some .eq

/-- Whether a number is zero, of either sign. -/
def isZero (a : Number) : Bool :=
  match a.value with
  | .finite _ m _ => m == 0
  | _ => false

/-- The sum of two numbers. -/
def add : Number → Number → Number
  | .whole a, .whole b => .whole (a + b)
  | a, b => .real (a.toFloat + b.toFloat)

/-- The difference of two numbers. -/
def sub : Number → Number → Number
  | .whole a, .whole b => .whole (a - b)
  | a, b => .real (a.toFloat - b.toFloat)

/-- A number inside a written value. -/
def written : Number → String
  | .whole n => n.repr
  | .real x => Layout.value.write x

/-- A number inside a message, with six significant digits. -/
def general (a : Number) : String := Layout.general.write a.toFloat

theorem order_whole (a b : Int) : order (.whole a) (.whole b) = some (compare a b) := by
  have signed (n : Int) :
      (if decide (n < 0) = true then -((n.natAbs : Int) * (twoTo 0 : Nat))
        else (n.natAbs : Int) * (twoTo 0 : Nat)) = n := by
    rw [show twoTo 0 = 1 from rfl, Int.natCast_one, Int.mul_one]
    by_cases h : n < 0
    · rw [if_pos (decide_eq_true h)]
      omega
    · rw [if_neg (by rw [decide_eq_false h]; exact Bool.false_ne_true)]
      omega
  have hz : (0 : Int) - min 0 0 = 0 := by decide
  simp only [order, value, Decimal.Value.order, hz, Int.toNat_zero]
  rw [signed a, signed b]

end Number

end SparkGateway
