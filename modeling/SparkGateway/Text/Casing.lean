import SparkGateway.Text.CaseTable

/-!
# Lower and upper case

The full case mappings of Unicode, where one character may become several.  The only mapping that
looks at its surroundings is the lower case of a capital sigma, which has a form of its own at the
end of a word.

Main statements: `lowerChars_ascii` and `upperChars_ascii` (text in ASCII is mapped letter by letter,
as everybody expects).
-/

namespace SparkGateway.Text

/-- What a table of rows `(first, last, step, shift)` maps a code point to. -/
def shifted (table : List (Nat × Nat × Nat × Int)) (n : Nat) : Option Nat :=
  table.findSome? fun (first, last, step, shift) =>
    if first ≤ n && n ≤ last && (n - first) % step == 0 then some (n + shift).toNat else none

/-- Whether a code point lies in one of some ranges. -/
def inRanges (ranges : List (Nat × Nat)) (n : Nat) : Bool :=
  ranges.any fun r => r.1 ≤ n && n ≤ r.2

/-- The lower case of a character, wherever it stands. -/
def lowerChar (c : Char) : List Char :=
  if c.toNat < 128 then [c.toLower]
  else match CaseTable.lowerMany.lookup c.toNat with
    | some ns => ns.map Char.ofNat
    | none => [((shifted CaseTable.lower c.toNat).map Char.ofNat).getD c]

/-- The upper case of a character. -/
def upperChar (c : Char) : List Char :=
  if c.toNat < 128 then [c.toUpper]
  else match CaseTable.upperMany.lookup c.toNat with
    | some ns => ns.map Char.ofNat
    | none => [((shifted CaseTable.upper c.toNat).map Char.ofNat).getD c]

/-- Whether the nearest character that is not ignorable is a letter with case. -/
def nextIsCased (s : List Char) : Bool :=
  match s.dropWhile fun c => inRanges CaseTable.caseIgnorable c.toNat with
  | [] => false
  | c :: _ => inRanges CaseTable.cased c.toNat

/-- Lower case of a text whose characters before it are given nearest first: a capital sigma becomes
a final sigma if a letter stands before it and none after it. -/
def lowerAfter (before : List Char) : List Char → List Char
  | [] => []
  | c :: cs =>
    let here :=
      if c = 'Σ' then
        if nextIsCased before && !nextIsCased cs then ['ς'] else ['σ']
      else lowerChar c
    here ++ lowerAfter (c :: before) cs

/-- Lower case of a text. -/
def lowerChars (s : List Char) : List Char := lowerAfter [] s

/-- Upper case of a text. -/
def upperChars (s : List Char) : List Char := s.flatMap upperChar

/-- Lower case of a string. -/
def lower (s : String) : String := String.ofList (lowerChars s.toList)

/-- Upper case of a string. -/
def upper (s : String) : String := String.ofList (upperChars s.toList)

theorem lowerChar_ascii {c : Char} (hc : c.toNat < 128) : lowerChar c = [c.toLower] := by
  simp [lowerChar, hc]

theorem lowerAfter_ascii {before s : List Char} (hs : ∀ c ∈ s, c.toNat < 128) :
    lowerAfter before s = s.map Char.toLower := by
  induction s generalizing before with
  | nil => rfl
  | cons c cs ih =>
    have hc : c.toNat < 128 := hs c (by simp)
    have hsigma : c ≠ 'Σ' := by
      rintro rfl
      exact absurd hc (by decide)
    have hcs : ∀ d ∈ cs, d.toNat < 128 := fun d hd => hs d (by simp [hd])
    simp [lowerAfter, hsigma, lowerChar_ascii hc, ih hcs]

theorem lowerChars_ascii {s : List Char} (hs : ∀ c ∈ s, c.toNat < 128) :
    lowerChars s = s.map Char.toLower :=
  lowerAfter_ascii hs

theorem upperChars_ascii {s : List Char} (hs : ∀ c ∈ s, c.toNat < 128) :
    upperChars s = s.map Char.toUpper := by
  induction s with
  | nil => rfl
  | cons c cs ih =>
    have hc : c.toNat < 128 := hs c (by simp)
    have hcs : ∀ d ∈ cs, d.toNat < 128 := fun d hd => hs d (by simp [hd])
    have := ih hcs
    simp_all [upperChars, upperChar]

end SparkGateway.Text
