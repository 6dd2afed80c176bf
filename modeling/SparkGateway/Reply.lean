import SparkGateway.Fault
import SparkGateway.Json.Reader

/-!
# Requests and replies

A request names a method, an address and, if something is sent, a document.  A reply carries a code
and a body; the body of a good reply is a document, and one that cannot be read is a fault.

Main statement: `document_eq_ok_iff`.
-/

namespace SparkGateway

/-- What a request does. -/
inductive Method where
  /-- Reads something. -/
  | get
  /-- Sends a document. -/
  | post
  /-- Removes something. -/
  | delete
  deriving DecidableEq, Repr

namespace Method

/-- The name of a method. -/
def name : Method → String
  | get => "GET"
  | post => "POST"
  | delete => "DELETE"

end Method

/-- A request. -/
structure Request where
  /-- What it does. -/
  method : Method
  /-- Where it goes. -/
  url : String
  /-- What it sends. -/
  payload : Option Json

namespace Request

/-- A request that reads an address. -/
def get (url : String) : Request := ⟨.get, url, none⟩

/-- A request that sends a document to an address. -/
def post (url : String) (payload : Json) : Request := ⟨.post, url, some payload⟩

/-- A request that removes what is at an address. -/
def delete (url : String) : Request := ⟨.delete, url, none⟩

end Request

/-- A reply to a request. -/
structure Reply where
  /-- The address that was asked. -/
  url : String
  /-- The code of the reply. -/
  code : Int
  /-- The body. -/
  body : Option String
  /-- What kind of body it is, if the service says so. -/
  contentType : Option String
  deriving DecidableEq, Repr

namespace Reply

/-- Whether the code of a reply says that all is well. -/
def ok (r : Reply) : Bool := 200 ≤ r.code && r.code < 300

/-- The fault of a reply that does not have the expected shape. -/
def malformed (r : Reply) (message : String) : Fault := .malformed message (some r.url) r.body

/-- The fault of a reply whose code refuses a request. -/
def refused (r : Reply) (kind : Refusal) (message : String) : Fault :=
  .refused kind message r.url r.code r.body

/-- The document in the body. -/
def document (r : Reply) : Except Fault Json :=
  match r.body.bind Json.parse? with
  | some v => .ok v
  | none => .error (r.malformed "Response is not valid JSON")

/-- The fields of a document that has to have fields; `what` says what the reply is about. -/
def fields (r : Reply) (what : String) : Json → Except Fault Json.Fields
  | .obj fs => .ok fs
  | _ => .error (r.malformed s!"Bad {what} response")

/-- A reply holds a document exactly if its body can be read as one. -/
theorem document_eq_ok_iff (r : Reply) (v : Json) :
    r.document = .ok v ↔ ∃ b, r.body = some b ∧ Json.parse? b = some v := by
  unfold document
  cases hb : r.body with
  | none => simp
  | some b =>
    cases hp : Json.parse? b with
    | none => simp [hp]
    | some w => simp [hp]

end Reply

end SparkGateway
