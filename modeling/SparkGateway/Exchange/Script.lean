import SparkGateway.Exchange.Turn

/-!
# Scripts

Surroundings that follow a script.  For each request the script lists the answers in order, and the
last of them repeats.  The number of requests is limited.

Since surroundings decide with all earlier steps in view, a script keeps no state: which answer is
next is the number of equal requests before.
-/

namespace SparkGateway

/-- The answers to one request, in order. -/
structure Route where
  /-- The method of the request. -/
  method : Method
  /-- The address of the request. -/
  url : String
  /-- The answers; the last repeats. -/
  answers : List Answer

/-- Answers to requests.  Of two routes for one request the later counts. -/
structure Script where
  /-- The routes. -/
  routes : List Route
  /-- How many requests are served. -/
  limit : Int

namespace Script

/-- The answers that a script holds for a request. -/
def answers (s : Script) (r : Request) : List Answer :=
  match s.routes.reverse.find? fun t => t.method == r.method && t.url == r.url with
  | some t => t.answers
  | none => []

/-- The answer to a request after the requests made before it. -/
def serve (s : Script) (earlier : List Request) (r : Request) : Answer :=
  if s.limit ≤ earlier.length then .stop (.foreign "RequestLimit" "request limit reached")
  else
    let answers := s.answers r
    let seen := earlier.countP fun e => e.method == r.method && e.url == r.url
    (answers[min seen (answers.length - 1)]?).getD
      (.stop (.foreign "UnexpectedRequest" s!"{r.method.name} {r.url}"))

end Script

namespace Surroundings

variable {τ : Type}

/-- How many rounds a loop may take in surroundings that follow a script. -/
def scriptedPatience : Nat := 1000000

/-- Surroundings in which documents and pages have a script each, nothing is cut short, the person at the
terminal agrees to everything and picks nothing, and work that goes on at the same time takes turns. -/
def ofScripts (documents pages : Script) (connects : Bool) : Surroundings τ where
  answer t r := documents.serve t.requests r
  page t url := pages.serve t.loads (.get url)
  halt _ := none
  confirms _ := true
  picks _ := []
  turn := Prospect.soonest
  waits := true
  connects := connects
  patience := scriptedPatience

/-- Surroundings in which one script serves documents and pages alike. -/
def ofScript (s : Script) : Surroundings τ :=
  { ofScripts s s true with
    answer := fun t r => s.serve t.visits r
    page := fun t url => s.serve t.visits (.get url) }

end Surroundings

end SparkGateway
