import SparkGateway.Number

/-!
# Documents

What a service answers is a document: a value built from texts, numbers, truth values, lists and
named fields.  Fields keep the order in which their names first appear, and a repeated name keeps
the last value.

A service may put any value anywhere, so the module also says when a value counts as given, what it
is as a list of items, and in which ways a value can fail to fit its place (`Misfit`).

Main statements: `get?_put` (a field that is written is the one that is read) and `names_put`.
-/

namespace SparkGateway

/-- A document. -/
inductive Json where
  /-- Nothing. -/
  | null
  /-- A truth value. -/
  | bool (b : Bool)
  /-- A number. -/
  | num (n : Number)
  /-- A text. -/
  | str (s : String)
  /-- A list. -/
  | arr (items : List Json)
  /-- Named fields. -/
  | obj (fields : List (String × Json))
  deriving Inhabited

/-- How a value can fail to fit the place where it stands. -/
inductive Misfit where
  /-- The place wants a value of another kind. -/
  | wrongKind
  /-- The kind is right, but the value has no reading there. -/
  | badValue
  /-- The value is a number beyond every bound. -/
  | outOfRange
  /-- A text is needed and the value is none. -/
  | notText
  /-- The text holds markup that cannot be read. -/
  | badMarkup
  /-- The value is no text and cannot be drawn in a table. -/
  | notDrawable
  deriving DecidableEq, Repr

namespace Json

/-- Fields of a document: names with values. -/
abbrev Fields := List (String × Json)

/-- Writes a field: a known name keeps its place, a new one comes last. -/
def Fields.put (fields : Fields) (name : String) (v : Json) : Fields :=
  match fields with
  | [] => [(name, v)]
  | (n, w) :: rest => if n = name then (n, v) :: rest else (n, w) :: Fields.put rest name v

/-- Reads a field. -/
def Fields.get? (fields : Fields) (name : String) : Option Json := fields.lookup name

/-- The value of a field, where a missing field counts as null. -/
def Fields.get (fields : Fields) (name : String) : Json := (fields.get? name).getD .null

/-- A document that holds a whole number. -/
def int (n : Int) : Json := .num (.whole n)

/-- A text that may be missing. -/
def ofText? : Option String → Json
  | none => .null
  | some s => .str s

/-- Whether a value is null. -/
def isNull : Json → Bool
  | .null => true
  | _ => false

/-- Whether a value counts as given: null, false, zero and everything empty does not. -/
def given : Json → Bool
  | .null => false
  | .bool b => b
  | .num n => !n.isZero
  | .str s => !s.isEmpty
  | .arr items => !items.isEmpty
  | .obj fields => !fields.isEmpty

/-- A value that counts as given, or another one in its place. -/
def orElse (v w : Json) : Json := if v.given then v else w

/-- The items of a value: of a list its items, of a text its characters, of fields their names. -/
def items : Json → Except Misfit (List Json)
  | .arr xs => .ok xs
  | .str s => .ok (s.toList.map fun c => .str (String.singleton c))
  | .obj fields => .ok (fields.map fun f => .str f.1)
  | _ => .error .wrongKind

/-- The items of a value that counts as given; there are none otherwise. -/
def itemsIfGiven (v : Json) : Except Misfit (List Json) :=
  if v.given then v.items else .ok []

theorem Fields.get?_put (fields : Fields) (name other : String) (v : Json) :
    (fields.put name v).get? other = if other = name then some v else fields.get? other := by
  have lookup_cons (n : String) (w : Json) (rest : Fields) :
      Fields.get? ((n, w) :: rest) other = if other = n then some w else Fields.get? rest other := by
    by_cases h : other = n
    · simp [Fields.get?, h]
    · simp [Fields.get?, List.lookup_cons, beq_eq_false_iff_ne.2 h, h]
  induction fields with
  | nil => simp [Fields.put, lookup_cons]
  | cons f rest ih =>
    obtain ⟨n, w⟩ := f
    by_cases hn : n = name
    · subst hn
      simp only [Fields.put, if_true, lookup_cons]
      split <;> rfl
    · simp only [Fields.put, hn, if_false, lookup_cons, ih]
      by_cases ho : other = n
      · subst ho
        simp [hn]
      · simp [ho]

/-- Writing a field adds its name at the end if it is new and otherwise keeps the names. -/
theorem Fields.names_put (fields : Fields) (name : String) (v : Json) :
    (fields.put name v).map Prod.fst =
      if name ∈ fields.map Prod.fst then fields.map Prod.fst
      else fields.map Prod.fst ++ [name] := by
  induction fields with
  | nil => simp [Fields.put]
  | cons f rest ih =>
    obtain ⟨n, w⟩ := f
    by_cases hn : n = name
    · simp [Fields.put, hn]
    · have hn' : ¬ name = n := fun h => hn h.symm
      simp only [Fields.put, hn, if_false, List.map_cons, ih, List.mem_cons, hn', false_or]
      split <;> simp

end Json

end SparkGateway
