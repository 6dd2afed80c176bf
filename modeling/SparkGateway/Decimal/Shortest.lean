import SparkGateway.Decimal.Binary64

/-!
# Digits of binary fractions

Two ways to choose decimal digits for a finite floating-point number: the fewest digits that read
back as the same number, and a fixed count of significant digits.  Both give an integer made of the
digits together with the place of the point: digits `d` of length `n` with point `k` stand for
`d * 10 ^ (k - n)`.
-/

namespace SparkGateway.Decimal

/-- Decimal digits, first digit first, and where the point stands: `point` digits come before it. -/
structure Digits where
  /-- The digits without the zeros at their end; `[0]` for zero. -/
  digits : List Char
  /-- How many digits stand before the point; negative if zeros follow the point first. -/
  point : Int
  deriving DecidableEq, Repr

/-- The least `k` with `num / den < 10 ^ k`, for a positive quotient. -/
def pointOf (num den : Nat) : Int :=
  if den ≤ num then ((Nat.toDigits 10 (num / den)).length : Nat)
  else
    let zeros : Option Nat := (List.range 400).find? (fun j => den ≤ num * tenTo (j + 1))
    0 - ((zeros.getD 0 : Nat) : Int)

/-- A quotient times a power of ten, as a quotient. -/
def timesTen (num den : Nat) (p : Int) : Nat × Nat :=
  if 0 ≤ p then (num * tenTo p.toNat, den) else (num, den * tenTo (-p).toNat)

/-- An integer of digits without the zeros at its end, where `point` digits of it (one more if it has
grown by a digit) stand before the point. -/
def Digits.ofNat (n width : Nat) (point : Int) : Digits :=
  let ds := Nat.toDigits 10 n
  let point := point + ((ds.length : Int) - width)
  let kept := (ds.reverse.dropWhile (· == '0')).reverse
  ⟨if kept = [] then ['0'] else kept, point⟩

/-- The neighbours of `num / den` among the integers that lie between `lo / den` and `hi / den`, and
of two the nearer one; the even one if both are equally near.  `closed` says whether the bounds
themselves count. -/
def hit (lo num hi den : Nat) (closed : Bool) : Option Nat :=
  let below := num / den
  let above := below + 1
  let inside (n : Nat) : Bool :=
    if closed then lo ≤ n * den && n * den ≤ hi else lo < n * den && n * den < hi
  let r := num % den
  if r = 0 then some below
  else match inside below, inside above with
    | true, true =>
      some (if 2 * r < den then below else if den < 2 * r then above
        else if below % 2 = 0 then below else above)
    | true, false => some below
    | false, true => some above
    | false, false => none

/-- The fewest digits that read back as `mantissa * 2 ^ exponent`, a positive floating-point number,
and among those the nearest to it.  The reals that round to the number reach half way to its
neighbours, and include the bounds if the mantissa is even. -/
def shortest (mantissa : Nat) (exponent : Int) : Digits :=
  let narrow := mantissa = twoTo 52 ∧ -1074 < exponent
  let (num, den) := scaled (4 * mantissa) (exponent - 2)
  let (lo, _) := scaled (4 * mantissa - if narrow then 1 else 2) (exponent - 2)
  let (hi, _) := scaled (4 * mantissa + 2) (exponent - 2)
  let point := pointOf num den
  let found := (List.range 17).findSome? fun k =>
    let width : Nat := k + 1
    let (l, d) := timesTen lo den (width - point)
    let (n, _) := timesTen num den (width - point)
    let (h, _) := timesTen hi den (width - point)
    (hit l n h d (mantissa % 2 == 0)).map fun r => Digits.ofNat r width point
  found.getD ⟨['0'], 1⟩

/-- The digits of `mantissa * 2 ^ exponent`, positive, rounded to `width` significant ones, a tie
going to the even neighbour. -/
def significant (width mantissa : Nat) (exponent : Int) : Digits :=
  let (num, den) := scaled mantissa exponent
  let point := pointOf num den
  let (n, d) := timesTen num den (width - point)
  Digits.ofNat (roundDiv n d) width point

end SparkGateway.Decimal
