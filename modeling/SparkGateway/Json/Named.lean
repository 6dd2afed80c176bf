import SparkGateway.Json.Lookup

/-!
# Named values

Values may come under names that are no texts.  Two names are the same if they are equal as texts, or
equal as numbers, where a truth value counts as zero or one.  A name keeps the form and the place in
which it first appears, and takes the last value.

Main statement: `get?_ofFields` (among fields a name is looked up as ever).
-/

namespace SparkGateway.Json

/-- Values with names of any kind. -/
abbrev Named := List (Json × Json)

/-- Whether two numbers are one name; what is no number is one name. -/
def sameNumber (a b : Number) : Bool :=
  a.order b == some .eq || ((a.order a).isNone && (b.order b).isNone)

/-- Whether two values are one name. -/
def sameName : Json → Json → Bool
  | .null, .null => true
  | .str s, .str t => s == t
  | v, w =>
    match v.number?, w.number? with
    | some a, some b => sameNumber a b
    | _, _ => false

namespace Named

/-- Writes a value: a known name keeps its place, a new one comes last. -/
def put (named : Named) (name v : Json) : Named :=
  match named with
  | [] => [(name, v)]
  | (n, w) :: rest => if sameName n name then (n, v) :: rest else (n, w) :: put rest name v

/-- The value under a name that is a text. -/
def get? (named : Named) (name : String) : Option Json :=
  (named.find? fun e => sameName e.1 (.str name)).map Prod.snd

/-- Fields as named values. -/
def ofFields (fields : Fields) : Named := fields.map fun f => (.str f.1, f.2)

/-- Named values as fields, each name as it reads; of names that read alike the last counts. -/
def toFields (named : Named) : Fields :=
  named.foldl (fun fields e => fields.put e.1.display e.2) []

theorem get?_ofFields (fields : Fields) (name : String) :
    (ofFields fields).get? name = fields.get? name := by
  induction fields with
  | nil => rfl
  | cons f rest ih =>
    obtain ⟨n, v⟩ := f
    by_cases h : name = n
    · subst h
      simp [ofFields, get?, sameName, Fields.get?]
    · have hn : (n == name) = false := beq_eq_false_iff_ne.2 fun e => h e.symm
      have hc : (name == n) = false := beq_eq_false_iff_ne.2 h
      have hrest : (ofFields ((n, v) :: rest)).get? name = (ofFields rest).get? name := by
        simp [ofFields, get?, sameName, hn]
      rw [hrest, ih]
      simp [Fields.get?, List.lookup_cons, hc]

end Named

end SparkGateway.Json
