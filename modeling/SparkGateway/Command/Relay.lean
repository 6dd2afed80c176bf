import SparkGateway.Json.Compact
import SparkGateway.Json.Lookup
import SparkGateway.Reply
import SparkGateway.Exchange.Trace
import SparkGateway.Page.Loader
import SparkGateway.Settings

/-!
# Relaying requests

The program has no network of its own.  It hands each request to whoever stands behind it as a document
that says all that the connection needs, and takes the answer as a document too: a code with a body, or
the reason why the connection has failed.

Main statement: `answerOf_replied` (a reply that is written down is read back).
-/

namespace SparkGateway.Command

/-- The headers of a step besides those that every request carries: only page loads have any. -/
def ownHeaders {τ : Type} (step : Step τ) : List (String × String) :=
  if step.load?.isSome then Page.loadHeaders else []

/-- A request as a document, with what it carries, headers of its own among it, and how it is made under
some settings. -/
def requestDocument (s : Settings) (own : List (String × String)) (r : Request) : Json :=
  let profile := s.profile
  let credentials := match profile.credentials with
    | some (user, password) => Json.arr [.str user, .str password]
    | none => .null
  .obj [("method", .str r.method.name), ("url", .str r.url), ("payload", r.payload.getD .null),
    ("headers", .obj ((profile.headers ++ own).map fun h => (h.1, .str h.2))),
    ("credentials", credentials), ("verify", .bool profile.verify), ("timeout", .num s.timeout)]

/-- The answer in a document: a failed connection if there is a field for that, and a reply
otherwise. -/
def answerOf (v : Json) : Answer :=
  match (v.field "broken").text? with
  | some message => .broken message
  | none =>
    .reply (v.field "code").wholeOrZero (v.field "body").text? (v.field "contentType").text?

/-- A reply as a document. -/
def replied (code : Int) (body : Option String) : Json :=
  .obj [("code", .int code), ("body", .ofText? body)]

/-- A reply that is written down is read back. -/
theorem answerOf_replied (code : Int) (body : Option String) :
    answerOf (replied code body) = .reply code body none := by
  cases body <;> simp [answerOf, replied, Json.field, Json.fieldOr, Json.fieldsOrNone,
    Json.Fields.get?, List.lookup_cons, Json.text?, Json.wholeOrZero, Json.toWhole_int, Json.ofText?,
    Json.display, Except.toOption]

end SparkGateway.Command
