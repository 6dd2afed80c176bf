import SparkGateway.Number
import SparkGateway.Text.Blank
import SparkGateway.Text.Digit

/-!
# Numerals

Numbers that a person or a service has written down as text: whole numbers and binary fractions.
Both may have blanks around them, a sign in front, digits of any script, and single underscores
between digits.  A whole number has at most `mostDigits` digits.

Main statement: `readDigits?_some` (the value of a run of ASCII digits).
-/

namespace SparkGateway.Numeral

open Text Decimal

/-- The greatest count of digits in the numeral of a whole number. -/
def mostDigits : Nat := 4300

/-- A numeral without the blanks around it, and with every digit replaced by the ASCII digit of its
value. -/
def normal (s : String) : List Char :=
  (trimSpaces s.toList).map fun c => ((digit? c).map fun d => Char.ofNat (48 + d)).getD c

/-- Removes single underscores between digits; `none` if there is any other underscore.  The first
argument says whether a digit stands before the text. -/
def dropUnderscores (afterDigit : Bool) : List Char → Option (List Char)
  | [] => some []
  | '_' :: c :: cs =>
    if afterDigit && c.isDigit then (dropUnderscores true cs).map (c :: ·) else none
  | c :: cs => if c = '_' then none else (dropUnderscores c.isDigit cs).map (c :: ·)

/-- A sign in front of a text: whether it is a minus, and the text after it. -/
def sign : List Char → Bool × List Char
  | '-' :: cs => (true, cs)
  | '+' :: cs => (false, cs)
  | cs => (false, cs)

/-- The number that ASCII digits stand for. -/
def digitsValue (ds : List Char) : Nat :=
  ds.foldl (fun n c => 10 * n + (c.toNat - 48)) 0

/-- A text that consists of ASCII digits, at least one, as a number. -/
def readDigits? (ds : List Char) : Option Nat :=
  if ds ≠ [] ∧ ds.all Char.isDigit then some (digitsValue ds) else none

/-- A whole number written as text. -/
def int? (s : String) : Option Int := do
  let cs ← dropUnderscores false (normal s)
  let (negative, ds) := sign cs
  let n ← readDigits? ds
  if ds.length ≤ mostDigits then
    some (if negative then -(n : Int) else n)
  else none

/-- An exponent after the digits of a fraction: nothing, or the letter `e`, a sign and digits. -/
def exponent? : List Char → Option Int
  | [] => some 0
  | c :: cs =>
    if c = 'e' ∨ c = 'E' then
      let (negative, ds) := sign cs
      (readDigits? ds).map fun n => if negative then -(n : Int) else n
    else none

/-- A decimal fraction without sign: digits with at most one point among them, then an exponent. -/
def fraction? (negative : Bool) (cs : List Char) : Option Float :=
  let whole := cs.takeWhile Char.isDigit
  let rest := cs.dropWhile Char.isDigit
  let (part, rest) := match rest with
    | '.' :: more => (more.takeWhile Char.isDigit, more.dropWhile Char.isDigit)
    | _ => ([], rest)
  if whole = [] ∧ part = [] then none
  else (exponent? rest).map fun e =>
    nearestDecimal negative (digitsValue (whole ++ part)) (e - part.length)

/-- A binary fraction in characters: a sign, and a decimal fraction or a word for infinity or for what
is not a number. -/
def signed? (cs : List Char) : Option Float :=
  let (negative, body) := sign cs
  let word := String.ofList (body.map Char.toLower)
  if word = "inf" ∨ word = "infinity" then
    some (nearest negative (twoTo 1024) 1)
  else if word = "nan" then some (Float.ofBits 0x7FF8000000000000)
  else fraction? negative body

/-- A binary fraction written as text. -/
def float? (s : String) : Option Float := do
  signed? (← dropUnderscores false (normal s))

theorem readDigits?_some {ds : List Char}
    (hne : ds ≠ [])
    (hds : ∀ c ∈ ds, c.isDigit = true) :
    readDigits? ds = some (digitsValue ds) := by
  simp [readDigits?, hne]
  exact hds

end SparkGateway.Numeral
