import SparkGateway.Exchange
import SparkGateway.Statement.Result

/-!
# Statements

A statement is a piece of code that a session runs.  It is sent once.  The reply either carries the
result already, or a record whose output is empty until the code has run; then the record is read again
after a pause, until it has an output or says that there will be none.
-/

namespace SparkGateway

/-- A piece of code to run. -/
structure Statement where
  /-- The code. -/
  code : String
  /-- The dialect of the code, if it is not that of the session. -/
  kind : Option String := none
  deriving DecidableEq, Repr

namespace Statement

variable {σ τ : Type}

/-- The document that is sent for a statement. -/
def document (s : Statement) : Json :=
  let code := [("code", Json.str s.code)]
  match s.kind with
  | none => .obj code
  | some kind => .obj (if kind.isEmpty then code else code ++ [("kind", .str kind)])

/-- The address of the statements of the session at an address. -/
def listUrl (session : String) : String := Text.trimEndWhere (· == '/') session ++ "/statements"

/-- The record of a statement in a reply. -/
def recordOf (r : Reply) : Except Fault Json.Fields := do
  if !r.ok then throw (r.refused .request "Statement request failed")
  r.fields "statement" (← r.document)

/-- The words for the states of a statement that will have no output. -/
def failedStates : List String := ["error", "cancelled"]

/-- The word for the state in a record. -/
def stateOf (fields : Json.Fields) : String :=
  Text.lower ((fields.get "state").orElse (.str "")).display

variable [Timeline τ]

/-- One look at a record, which ends the wait if there is an output, or if there will be none. -/
def outputRound (urls : String) (id : Json) (pause : τ) :
    Reply × Json.Fields → Run σ τ (Run.Round (Reply × Json.Fields) Result)
  | (r, fields) =>
    match fields.get "output" with
    | .obj output => do
      let result ← Run.ofStop (Result.ofFields r output)
      return .done result
    | _ => do
      let name := id.display
      let state := stateOf fields
      if failedStates.contains state then
        Run.fail (.statementFailed (.str "StatementFailed")
          (.str s!"Statement {name} ended in state {state}") [])
      Run.sleep pause
      let r ← Run.ask (.get s!"{urls}/{name}")
      let fields ← Run.ofFault (recordOf r)
      return .again (r, fields)

/-- Runs a statement in the session at an address, with a pause between two looks at its record. -/
def run (s : Statement) (session : String) (pause : τ) : Run σ τ Result := do
  let urls := listUrl session
  let r ← Run.ask (.post urls s.document)
  let fields ← Run.ofFault (recordOf r)
  match fields.get? "status" with
  | some _ => Run.ofStop (Result.ofFields r fields)
  | none =>
    match fields.get "id" with
    | .null => Run.fail (r.malformed "Statement response has no id")
    | id => do
      let name := id.display
      Run.note .debug s!"Statement {name} submitted to {urls}"
      Run.rounds (outputRound urls id pause) (r, fields)

end Statement

end SparkGateway
