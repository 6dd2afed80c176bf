import SparkGateway.Text.Casing

/-!
# Markup

What the terminal shows is text with tags in square brackets.  Text from elsewhere is escaped, so that
nothing in it counts as a tag.

Main statement: `escape_plain` (text without brackets and backslashes is its own escaped form).
-/

namespace SparkGateway.Terminal

/-- The characters that a tag may start with. -/
def startsTagName (c : Char) : Bool := ('a' ≤ c && c ≤ 'z') || c == '#' || c == '/' || c == '@'

/-- Whether a text, which follows an opening bracket, is the rest of a tag: it starts like one, and a
closing bracket comes before the next opening one. -/
def endsTag : List Char → Bool
  | c :: rest => startsTagName c && rest.find? (fun d => d == '[' || d == ']') == some ']'
  | [] => false

/-- Escapes a text that follows `slashes` backslashes: before a tag they are doubled, and one more is
put there. -/
def escapeFrom (slashes : Nat) : List Char → List Char
  | [] => []
  | c :: rest =>
    if c = '\\' then c :: escapeFrom (slashes + 1) rest
    else if c = '[' ∧ endsTag rest then
      List.replicate (slashes + 1) '\\' ++ c :: escapeFrom 0 rest
    else c :: escapeFrom 0 rest

/-- Whether a text ends with exactly one backslash. -/
def endsWithSlash (s : List Char) : Bool :=
  match s.reverse with
  | c :: d :: _ => c == '\\' && d != '\\'
  | [c] => c == '\\'
  | [] => false

/-- Text in which nothing counts as a tag, also if a tag follows it. -/
def escapeChars (s : List Char) : List Char :=
  let escaped := escapeFrom 0 s
  if endsWithSlash escaped then escaped ++ ['\\'] else escaped

/-- Text in which nothing counts as a tag, also if a tag follows it. -/
def escape (s : String) : String := String.ofList (escapeChars s.toList)

/-- The words for states that are on the way to an end. -/
def pendingStates : List String :=
  ["not_started", "starting", "running", "recovering", "busy", "idle"]

/-- The style of the word for a state. -/
def stateStyle (state : String) : String :=
  let word := Text.lower state
  if word = "success" then "ok" else if pendingStates.contains word then "warn" else "err"

/-- The word for a state in its style. -/
def styledState (state shown : String) : String :=
  let style := stateStyle state
  s!"[{style}]{shown}[/{style}]"

theorem escapeFrom_plain (n : Nat) {s : List Char} (h : ∀ c ∈ s, c ≠ '\\' ∧ c ≠ '[') :
    escapeFrom n s = s := by
  induction s generalizing n with
  | nil => rfl
  | cons c rest ih =>
    have hc := h c (by simp)
    simp [escapeFrom, hc.1, hc.2, ih 0 fun d hd => h d (by simp [hd])]

/-- Text without brackets and backslashes is its own escaped form. -/
theorem escape_plain {text : String} (h : ∀ c ∈ text.toList, c ≠ '\\' ∧ c ≠ '[') :
    escape text = text := by
  have hslash : endsWithSlash text.toList = false := by
    unfold endsWithSlash
    split
    · next c d before hreverse =>
        have hc : c ∈ text.toList := List.mem_reverse.1 (hreverse ▸ List.mem_cons_self)
        simp [(h c hc).1]
    · next c hreverse =>
        have hc : c ∈ text.toList := List.mem_reverse.1 (hreverse ▸ List.mem_cons_self)
        simp [(h c hc).1]
    · rfl
  unfold escape escapeChars
  simp only [escapeFrom_plain 0 h, hslash, Bool.false_eq_true, if_false, String.ofList_toList]

end SparkGateway.Terminal
