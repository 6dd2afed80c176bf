import SparkGateway.Decimal.Shortest

/-!
# Written numbers

How the digits of a number are laid out: positionally, or with a power of ten.  The choices are
collected in a record, with one value for numbers inside written values and one for amounts of time
inside messages.
-/

namespace SparkGateway.Decimal

/-- The choices in writing a number down. -/
structure Layout where
  /-- How many significant digits are kept; `none` keeps as few as read back. -/
  width : Option Nat
  /-- The least place of the point that is written positionally. -/
  least : Int
  /-- The greatest place of the point that is written positionally. -/
  greatest : Int
  /-- What follows a whole number that is written positionally. -/
  wholeMark : String

/-- Numbers inside written values have as few digits as read back, are positional from `0.0001` up
to sixteen digits before the point, and show a whole number by `.0`. -/
def Layout.value : Layout := ⟨none, -3, 16, ".0"⟩

/-- Amounts inside messages have six significant digits, are positional from `0.0001` up to six
digits before the point, and whole ones carry no mark. -/
def Layout.general : Layout := ⟨some 6, -3, 6, ""⟩

/-- A power of ten after the digits: a sign and at least two digits. -/
def exponentText (e : Int) : List Char :=
  let ds := Nat.toDigits 10 e.natAbs
  ['e', if e < 0 then '-' else '+'] ++ List.replicate (2 - ds.length) '0' ++ ds

/-- Digits laid out around the point. -/
def Layout.place (l : Layout) (d : Digits) : List Char :=
  if l.least ≤ d.point ∧ d.point ≤ l.greatest then
    if d.point ≤ 0 then '0' :: '.' :: List.replicate (-d.point).toNat '0' ++ d.digits
    else
      let n := d.point.toNat
      if d.digits.length ≤ n then
        d.digits ++ List.replicate (n - d.digits.length) '0' ++ l.wholeMark.toList
      else d.digits.take n ++ '.' :: d.digits.drop n
  else
    let rest := d.digits.drop 1
    d.digits.take 1 ++ (if rest = [] then [] else '.' :: rest) ++ exponentText (d.point - 1)

/-- A floating-point number as text. -/
def Layout.write (l : Layout) (x : Float) : String :=
  match Value.ofFloat x with
  | .nan => "nan"
  | .infinite negative => if negative then "-inf" else "inf"
  | .finite negative m e =>
    let d : Digits :=
      if m = 0 then ⟨['0'], 1⟩
      else match l.width with
        | none => shortest m e
        | some w => significant w m e
    String.ofList ((if negative then ['-'] else []) ++ l.place d)

example : Layout.value.write 0.1 = "0.1" ∧ Layout.value.write 1e20 = "1e+20" ∧
    Layout.value.write 100 = "100.0" ∧ Layout.general.write 100 = "100" := by
  refine ⟨?_, ?_, ?_, ?_⟩ <;> decide +kernel

end SparkGateway.Decimal
