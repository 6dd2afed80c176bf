import SparkGateway.Json.Whole
import SparkGateway.Json.Written

/-!
# Lookup in documents

Reading a document for which a wrong shape is no error: a field that is missing, or that is asked of
something without fields, counts as null, and what is no list has no items.

Main statement: `field_put` (a field that is written is the one that is read).
-/

namespace SparkGateway.Json

/-- The fields of a value; there are none if it has no fields. -/
def fieldsOrNone : Json → Fields
  | .obj fields => fields
  | _ => []

/-- The items of a list; there are none if it is no list. -/
def itemsOrNone : Json → List Json
  | .arr items => items
  | _ => []

/-- A field, where a missing one is `default`. -/
def fieldOr (v : Json) (name : String) (default : Json) : Json :=
  (v.fieldsOrNone.get? name).getD default

/-- A field, where a missing one is null. -/
def field (v : Json) (name : String) : Json := v.fieldOr name .null

/-- A value as running text, unless it is null. -/
def text? : Json → Option String
  | .null => none
  | v => some v.display

/-- A value as a whole number; what has no whole number counts as zero. -/
def wholeOrZero (v : Json) : Int := v.toWhole.toOption.getD 0

/-- A value as a whole number, unless it is null. -/
def whole? : Json → Option Int
  | .null => none
  | v => some v.wholeOrZero

/-- A value as a number. -/
def number? : Json → Option Number
  | .num n => some n
  | .bool b => some (.whole (if b then 1 else 0))
  | _ => none

/-- A list of texts. -/
def texts (v : Json) : List String := v.itemsOrNone.map display

/-- Fields whose values are texts. -/
def textFields (v : Json) : List (String × String) :=
  v.fieldsOrNone.map fun f => (f.1, f.2.display)

theorem field_put (fields : Fields) (name other : String) (v : Json) :
    (Json.obj (fields.put name v)).field other =
      if other = name then v else (Json.obj fields).field other := by
  simp only [field, fieldOr, fieldsOrNone, Fields.get?_put]
  split <;> rfl

end SparkGateway.Json
