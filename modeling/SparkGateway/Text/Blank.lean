/-!
# Blank characters

Text that comes from a service is trimmed, cut into words and collapsed before it is shown or
compared.  This module says which characters count as blank and holds those three operations on
lists of characters, with their views on strings.

Main statements: `words_ne_nil` and `not_blank_of_mem_words` (a word is not empty and holds no blank
character), and `trim_eq_self` (text that neither starts nor ends with a blank is left alone).
-/

namespace SparkGateway.Text

/-- Blank characters are the Unicode separators of the classes space, line and paragraph, and the
control characters that the bidirectional algorithm treats as white space or separators. -/
def isBlank (c : Char) : Bool :=
  let n := c.toNat
  (9 ≤ n && n ≤ 13) || (28 ≤ n && n ≤ 32) || n == 0x85 || n == 0xA0 || n == 0x1680 ||
    (0x2000 ≤ n && n ≤ 0x200A) || n == 0x2028 || n == 0x2029 || n == 0x202F || n == 0x205F ||
    n == 0x3000

/-- Whether a character is blank and none of the four information separators. -/
def isSpace (c : Char) : Bool := isBlank c && !(28 ≤ c.toNat && c.toNat ≤ 31)

/-- Drops from the end every character that satisfies `p`. -/
def dropEndWhile (p : Char → Bool) (s : List Char) : List Char :=
  (s.reverse.dropWhile p).reverse

/-- Drops blanks at both ends. -/
def trimChars (s : List Char) : List Char :=
  dropEndWhile isBlank (s.dropWhile isBlank)

/-- Drops blanks at both ends, but no information separators. -/
def trimSpaces (s : List Char) : List Char :=
  dropEndWhile isSpace (s.dropWhile isSpace)

/-- Cuts text into its maximal runs of characters that are not blank.  The first argument is the
run that is being read, last character first. -/
def wordsFrom (cur : List Char) : List Char → List (List Char)
  | [] => if cur = [] then [] else [cur.reverse]
  | c :: cs =>
    if isBlank c then
      if cur = [] then wordsFrom [] cs else cur.reverse :: wordsFrom [] cs
    else wordsFrom (c :: cur) cs

/-- The words of a text: its maximal runs of characters that are not blank. -/
def words (s : List Char) : List (List Char) := wordsFrom [] s

/-- The words of a text with one space between two of them. -/
def collapseChars (s : List Char) : List Char := List.intercalate [' '] (words s)

/-- A string without the blanks at its ends. -/
def trim (s : String) : String := String.ofList (trimChars s.toList)

/-- A string without the blanks at its end. -/
def trimEnd (s : String) : String := String.ofList (dropEndWhile isBlank s.toList)

/-- A string without its trailing characters that satisfy `p`. -/
def trimEndWhere (p : Char → Bool) (s : String) : String :=
  String.ofList (dropEndWhile p s.toList)

/-- A string without the characters at its start that satisfy `p`. -/
def trimStartWhere (p : Char → Bool) (s : String) : String :=
  String.ofList (s.toList.dropWhile p)

/-- A string whose words are separated by single spaces. -/
def collapse (s : String) : String := String.ofList (collapseChars s.toList)

/-- Whether a string is empty or holds blanks only. -/
def isBlankText (s : String) : Bool := s.toList.all isBlank

theorem wordsFrom_ne_nil {cur s w : List Char}
    (hw : w ∈ wordsFrom cur s) :
    w ≠ [] := by
  fun_induction wordsFrom cur s with
  | case1 => simp at hw
  | case2 cur hcur => simp_all
  | case3 c cs _ ih => exact ih hw
  | case4 cur c cs _ hcur ih =>
    rcases List.mem_cons.1 hw with rfl | hw
    · simpa using hcur
    · exact ih hw
  | case5 cur c cs _ ih => exact ih hw

/-- No word is empty. -/
theorem words_ne_nil {s w : List Char} (hw : w ∈ words s) : w ≠ [] :=
  wordsFrom_ne_nil hw

theorem not_blank_of_mem_wordsFrom {cur s w : List Char} {d : Char}
    (hcur : ∀ a ∈ cur, isBlank a = false)
    (hw : w ∈ wordsFrom cur s)
    (hd : d ∈ w) :
    isBlank d = false := by
  fun_induction wordsFrom cur s with
  | case1 => simp at hw
  | case2 cur _ =>
    rw [List.mem_singleton.1 hw] at hd
    exact hcur d (List.mem_reverse.1 hd)
  | case3 c cs _ ih => exact ih (by simp) hw
  | case4 cur c cs _ _ ih =>
    rcases List.mem_cons.1 hw with rfl | hw
    · exact hcur d (List.mem_reverse.1 hd)
    · exact ih (by simp) hw
  | case5 cur c cs hc ih =>
    refine ih ?_ hw
    intro a ha
    rcases List.mem_cons.1 ha with rfl | ha
    · simpa using hc
    · exact hcur a ha

/-- A word holds no blank character. -/
theorem not_blank_of_mem_words {s w : List Char} {c : Char}
    (hw : w ∈ words s)
    (hc : c ∈ w) :
    isBlank c = false :=
  not_blank_of_mem_wordsFrom (by simp) hw hc

/-- Trimming leaves text alone that neither starts nor ends with a blank. -/
theorem trim_eq_self {s : List Char}
    (hhead : ∀ c, s.head? = some c → isBlank c = false)
    (hlast : ∀ c, s.getLast? = some c → isBlank c = false) :
    trimChars s = s := by
  have drop_eq : ∀ t : List Char, (∀ c, t.head? = some c → isBlank c = false) →
      t.dropWhile isBlank = t := by
    intro t ht
    cases t with
    | nil => rfl
    | cons a as => simp [List.dropWhile, ht a rfl]
  have hrev : ∀ c, s.reverse.head? = some c → isBlank c = false := by
    intro c hc
    exact hlast c (by simpa using hc)
  simp [trimChars, dropEndWhile, drop_eq s hhead, drop_eq _ hrev]

end SparkGateway.Text
