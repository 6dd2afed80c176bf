/-!
# Binary fractions

A finite floating-point number is an integer times a power of two.  This module reads that view off
the bits, and goes back: it finds the number nearest to a quotient of integers, a tie going to the
even neighbour.  Both directions use exact arithmetic on natural numbers only.
-/

namespace SparkGateway.Decimal

/-- What a floating-point number stands for: a signed `mantissa * 2 ^ exponent`, an infinity, or no
number at all. -/
inductive Value where
  /-- Not a number. -/
  | nan
  /-- An infinity. -/
  | infinite (negative : Bool)
  /-- A finite number. -/
  | finite (negative : Bool) (mantissa : Nat) (exponent : Int)
  deriving DecidableEq, Repr

/-- A power of two. -/
def twoTo (n : Nat) : Nat := Nat.pow 2 n

/-- A power of ten. -/
def tenTo (n : Nat) : Nat := Nat.pow 10 n

/-- The value of a floating-point number, from its bits. -/
def Value.ofFloat (x : Float) : Value :=
  let bits : Nat := x.toBits.toNat
  let negative := bits / twoTo 63 == 1
  let biased : Nat := bits / twoTo 52 % twoTo 11
  let fraction : Nat := bits % twoTo 52
  if biased = 2047 then
    if fraction = 0 then .infinite negative else .nan
  else if biased = 0 then .finite negative fraction (-1074)
  else .finite negative (fraction + twoTo 52) ((biased : Int) - 1075)

/-- The quotient of two numbers rounded to the nearest integer, a tie going to the even one. -/
def roundDiv (num den : Nat) : Nat :=
  let q := num / den
  let r := num % den
  if 2 * r < den then q
  else if den < 2 * r then q + 1
  else if q % 2 = 0 then q else q + 1

/-- A number times a power of two, as a quotient: numerator and denominator. -/
def scaled (n : Nat) (e : Int) : Nat × Nat :=
  if 0 ≤ e then (n * twoTo e.toNat, 1) else (n, twoTo (-e).toNat)

/-- The floating-point number with the given sign whose magnitude is nearest to `num / den`; beyond
the largest one it is an infinity. -/
def nearest (negative : Bool) (num den : Nat) : Float :=
  let sign : Nat := if negative then twoTo 63 else 0
  if num = 0 then Float.ofBits (UInt64.ofNat sign)
  else
    let guess : Int := (num.log2 : Int) - (den.log2 : Int) - 52
    let whole (e : Int) : Nat × Nat :=
      if 0 ≤ e then (num, den * twoTo e.toNat) else (num * twoTo (-e).toNat, den)
    let (n, d) := whole guess
    let exact := if n / d < twoTo 52 then guess - 1 else guess
    let e := max exact (-1074)
    let (n, d) := whole e
    let q := roundDiv n d
    let (q, e) := if q = twoTo 53 then (twoTo 52, e + 1) else (q, e)
    if 971 < e then Float.ofBits (UInt64.ofNat (sign + 2047 * twoTo 52))
    else if q < twoTo 52 then Float.ofBits (UInt64.ofNat (sign + q))
    else Float.ofBits (UInt64.ofNat (sign + (e + 1075).toNat * twoTo 52 + (q - twoTo 52)))

/-- The floating-point number nearest to an integer. -/
def nearestInt (n : Int) : Float := nearest (n < 0) n.natAbs 1

/-- The floating-point number nearest to `digits * 10 ^ power`.  Powers beyond the range of all
floating-point numbers are cut off before any large number is computed. -/
def nearestDecimal (negative : Bool) (digits : Nat) (power : Int) : Float :=
  let size : Int := (Nat.toDigits 10 digits).length
  if digits = 0 ∨ size + power < -400 then nearest negative 0 1
  else if 400 < size + power then nearest negative (twoTo 1024) 1
  else if 0 ≤ power then nearest negative (digits * tenTo power.toNat) 1
  else nearest negative digits (tenTo (-power).toNat)

/-- The integer part of a floating-point number, or `none` if it is not finite. -/
def truncated (x : Float) : Option Int :=
  match Value.ofFloat x with
  | .nan => none
  | .infinite _ => none
  | .finite negative m e =>
    let (n, d) := scaled m e
    let q : Int := (n / d : Nat)
    some (if negative then -q else q)

/-- A quotient is rounded to an integer at most half a unit away. -/
theorem roundDiv_near (num den : Nat) (hden : 0 < den) :
    2 * num ≤ 2 * (roundDiv num den * den) + den ∧
      2 * (roundDiv num den * den) ≤ 2 * num + den := by
  have hdiv : num = den * (num / den) + num % den := (Nat.div_add_mod num den).symm
  have hcomm : den * (num / den) = num / den * den := Nat.mul_comm _ _
  have hsucc : (num / den + 1) * den = num / den * den + den := Nat.succ_mul _ _
  have hlt : num % den < den := Nat.mod_lt _ hden
  unfold roundDiv
  simp only
  split
  · omega
  · split
    · omega
    · split <;> omega

example : nearestDecimal false 1 (-1) = 0.1 ∧ nearestDecimal true 25 (-1) = -2.5 := by
  constructor <;> decide +kernel

end SparkGateway.Decimal
