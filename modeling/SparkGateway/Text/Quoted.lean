import SparkGateway.Text.Printable

/-!
# Quoted text

A text inside a message or inside a written value is quoted: it stands between two quotation marks,
and what would be mistaken or would not be seen is written as an escape.

Main statement: `quoted_plain` (a text of printable characters without quotation mark or backslash
is itself between two apostrophes).
-/

namespace SparkGateway.Text

/-- The lowercase hexadecimal digits of a number, at least `width` of them. -/
def hexDigits (width n : Nat) : List Char :=
  let ds := Nat.toDigits 16 n
  List.replicate (width - ds.length) '0' ++ ds

/-- The mark around a text: an apostrophe, unless the text holds one and holds no double quote. -/
def quoteMark (s : List Char) : Char :=
  if '\'' ∈ s && '"' ∉ s then '"' else '\''

/-- A character inside a text between two marks `mark`. -/
def escapeChar (mark c : Char) : List Char :=
  if c = mark || c = '\\' then ['\\', c]
  else if c = '\n' then ['\\', 'n']
  else if c = '\r' then ['\\', 'r']
  else if c = '\t' then ['\\', 't']
  else if isPrintable c then [c]
  else if c.toNat < 0x100 then '\\' :: 'x' :: hexDigits 2 c.toNat
  else if c.toNat < 0x10000 then '\\' :: 'u' :: hexDigits 4 c.toNat
  else '\\' :: 'U' :: hexDigits 8 c.toNat

/-- A text between quotation marks. -/
def quotedChars (s : List Char) : List Char :=
  let mark := quoteMark s
  mark :: s.flatMap (escapeChar mark) ++ [mark]

/-- A string between quotation marks. -/
def quoted (s : String) : String := String.ofList (quotedChars s.toList)

theorem quoted_plain {s : List Char}
    (hs : ∀ c ∈ s, isPrintable c = true ∧ c ≠ '\'' ∧ c ≠ '\\' ∧ c ≠ '\n' ∧ c ≠ '\r' ∧ c ≠ '\t') :
    quotedChars s = '\'' :: s ++ ['\''] := by
  have hmark : quoteMark s = '\'' := by
    have : '\'' ∉ s := fun h => (hs _ h).2.1 rfl
    simp [quoteMark, this]
  have hbody : s.flatMap (escapeChar '\'') = s := by
    have hone : ∀ c ∈ s, escapeChar '\'' c = [c] := by
      intro c hc
      obtain ⟨hp, h1, h2, h3, h4, h5⟩ := hs c hc
      simp [escapeChar, hp, h1, h2, h3, h4, h5]
    clear hmark hs
    induction s with
    | nil => rfl
    | cons c cs ih =>
      simp [hone c (by simp), ih fun d hd => hone d (by simp [hd])]
  simp [quotedChars, hmark, hbody]

end SparkGateway.Text
