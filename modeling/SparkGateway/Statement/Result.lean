import SparkGateway.Json.Named
import SparkGateway.Reply
import SparkGateway.Text.Casing

/-!
# Results of statements

What an interpreter gives back for a statement: a status, and either the data of the result or the name,
the message and the trace of an error.
-/

namespace SparkGateway.Statement

/-- The result of a statement. -/
structure Result where
  /-- The word for how it went. -/
  status : String
  /-- The data of the result, by media type. -/
  data : Json
  /-- How many statements the interpreter had run before. -/
  executionCount : Json
  /-- The name of the error. -/
  errorName : Json
  /-- The message of the error. -/
  errorValue : Json
  /-- The trace of the error. -/
  traceback : List Json

namespace Result

/-- Whether the statement went well. -/
def ok (r : Result) : Bool := Text.lower r.status == "ok"

/-- The result in the fields of an output that came with a reply. -/
def ofFields (r : Reply) (fields : Json.Fields) : Except Stop Result :=
  match fields.get "status" with
  | .str status => do
    let traceback ← (fields.get "traceback").itemsIfGiven.mapError .misfit
    return {
      status := status
      data := (fields.get "data").orElse (.obj [])
      executionCount := fields.get "execution_count"
      errorName := fields.get "ename"
      errorValue := fields.get "evalue"
      traceback := traceback }
  | _ => .error (.fault (r.malformed "Statement output has no status"))

/-- The name and the value in an item of a list that stands for named values. -/
def namedItem (item : Json) : Except Misfit (Json × Json) := do
  match ← item.items with
  | [.arr _, _] => throw .wrongKind
  | [.obj _, _] => throw .wrongKind
  | [name, value] => return (name, value)
  | _ => throw .badValue

/-- The data of a result as named values: fields as they are, and a list of pairs as what it pairs. -/
def namedData : Json → Except Misfit Json.Named
  | .obj fields => .ok (.ofFields fields)
  | v => do
    (← v.items).foldlM (fun named item => do
      let (name, value) ← namedItem item
      return Json.Named.put named name value) []

end Result

end SparkGateway.Statement
