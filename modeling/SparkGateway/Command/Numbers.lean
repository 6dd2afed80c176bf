import SparkGateway.Number.Numeral

/-!
# Numbers on the command line

A word of the command line is a number if it is written with ASCII digits; spaces around it do not
matter.  A whole number may have a sign, zeros in front of its digits, single underscores between them,
and a fraction that consists of zeros.  Any other number may have single underscores anywhere but at its
ends.

Main statement: `readWhole?_digits` (digits that do not start with a zero are the number that they stand
for).
-/

namespace SparkGateway.Command

/-- What is left of digits once the zeros at their start are dropped, with the underscores among them; the
character before is given.  A zero stays where nothing but a fraction follows. -/
def afterZeros (before : Char) : List Char → Option (List Char)
  | [] => some [before]
  | c :: cs =>
    if c = '0' ∨ c = '_' then afterZeros c cs
    else if c = '.' then some (before :: c :: cs)
    else if c.isDigit then some (c :: cs)
    else none

/-- Digits without the zeros at their start; there are none if no digit comes first. -/
def dropZeros? : List Char → Option (List Char)
  | [] => none
  | c :: cs =>
    if c = '0' then afterZeros c cs
    else if c.isDigit then some (c :: cs)
    else none

/-- Digits without a fraction that consists of zeros. -/
def dropZeroFraction (s : List Char) : List Char :=
  match s.dropWhile (· != '.') with
  | _ :: d :: ds => if (d :: ds).all (· == '0') then s.takeWhile (· != '.') else s
  | _ => s

/-- Whether two underscores stand next to each other. -/
def hasDoubleUnderscore : List Char → Bool
  | '_' :: '_' :: _ => true
  | _ :: cs => hasDoubleUnderscore cs
  | [] => false

/-- Characters without their underscores, none of which may stand at an end or next to another. -/
def withoutUnderscores? (s : List Char) : Option (List Char) :=
  if s.head? = some '_' ∨ s.getLast? = some '_' ∨ hasDoubleUnderscore s = true then none
  else some (s.filter (· != '_'))

/-- The whole number that characters without a sign stand for. -/
def readWhole? (s : List Char) : Option Nat := do
  let digits ← withoutUnderscores? (dropZeroFraction (← dropZeros? s))
  if digits.length ≤ Numeral.mostDigits then Numeral.readDigits? digits else none

/-- A whole number in a word. -/
def wholeNumber? (word : String) : Option Int :=
  let (negative, s) := Numeral.sign (Text.trimSpaces word.toList)
  (readWhole? s).map fun n => if negative then -(n : Int) else n

/-- A number in a word. -/
def realNumber? (word : String) : Option Float :=
  match Numeral.signed? (Text.trimSpaces word.toList) with
  | some x => some x
  | none => (withoutUnderscores? word.toList).bind Numeral.signed?

theorem hasDoubleUnderscore_of_digits {s : List Char} (hs : ∀ c ∈ s, c.isDigit = true) :
    hasDoubleUnderscore s = false := by
  fun_induction hasDoubleUnderscore s with
  | case1 => simp at hs
  | case2 c cs _ ih => exact ih fun d hd => hs d (List.mem_cons_of_mem c hd)
  | case3 => rfl

theorem withoutUnderscores?_digits {s : List Char} (hs : ∀ c ∈ s, c.isDigit = true) :
    withoutUnderscores? s = some s := by
  have hne : ∀ c ∈ s, c ≠ '_' := by
    intro c hc h
    have := hs c hc
    simp [h] at this
  have hhead : s.head? ≠ some '_' := fun h => hne _ (List.mem_of_mem_head? h) rfl
  have hlast : s.getLast? ≠ some '_' := fun h => hne _ (List.mem_of_getLast? h) rfl
  have hkeep : s.filter (· != '_') = s := List.filter_eq_self.2 fun c hc => by simpa using hne c hc
  simp [withoutUnderscores?, hhead, hlast, hasDoubleUnderscore_of_digits hs, hkeep]

/-- Digits that do not start with a zero are the number that they stand for. -/
theorem readWhole?_digits {c : Char} {cs : List Char}
    (hzero : c ≠ '0')
    (hdigits : ∀ d ∈ c :: cs, d.isDigit = true)
    (hlength : (c :: cs).length ≤ Numeral.mostDigits) :
    readWhole? (c :: cs) = some (Numeral.digitsValue (c :: cs)) := by
  have hc : c.isDigit = true := hdigits c (by simp)
  have hdrop : dropZeros? (c :: cs) = some (c :: cs) := by simp [dropZeros?, hzero, hc]
  have hpoint : ∀ d ∈ c :: cs, (d != '.') = true := by
    intro d hd
    have := hdigits d hd
    by_cases h : d = '.'
    · simp [h] at this
    · simpa using h
  have hrest : (c :: cs).dropWhile (· != '.') = [] := by
    rw [← List.append_nil (c :: cs), List.dropWhile_append_of_pos hpoint]
    rfl
  have hwhole : dropZeroFraction (c :: cs) = c :: cs := by
    unfold dropZeroFraction
    rw [hrest]
  unfold readWhole?
  rw [hdrop]
  show (withoutUnderscores? (dropZeroFraction (c :: cs))).bind _ = _
  rw [hwhole, withoutUnderscores?_digits hdigits]
  show (if (c :: cs).length ≤ Numeral.mostDigits then Numeral.readDigits? (c :: cs) else none) = _
  rw [if_pos hlength]
  exact Numeral.readDigits?_some (List.cons_ne_nil c cs) hdigits

end SparkGateway.Command
