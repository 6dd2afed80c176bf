import SparkGateway.Exchange

/-!
# Traces

The views on the steps of a piece of work: the requests that were made, the pages that were loaded, the
pauses, the items given, the remarks and what was shown.  Each view keeps the order of the steps.

Main statements: a view of two stretches of work is the view of the first followed by that of the
second, as in `requests_append`, and counts of steps add up, as in `opened_append`.
-/

namespace SparkGateway

namespace Step

variable {τ : Type}

/-- The request that a step is. -/
def request? : Step τ → Option Request
  | .asked r => some r
  | _ => none

/-- The page load that a step is, as a request. -/
def load? : Step τ → Option Request
  | .loaded url => some (.get url)
  | _ => none

/-- The request that a step is, whether for a document or for a page. -/
def visit? (s : Step τ) : Option Request := s.request?.or s.load?

/-- The pause that a step is. -/
def pause? : Step τ → Option τ
  | .slept amount => some amount
  | _ => none

/-- The item that a step gives. -/
def item? : Step τ → Option Item
  | .gave item => some item
  | _ => none

/-- The remark that a step is. -/
def note? : Step τ → Option (Level × String)
  | .noted level text => some (level, text)
  | _ => none

/-- The state of a progress display that a step shows. -/
def board? : Step τ → Option Terminal.Board
  | .shown (.board b) => some b
  | _ => none

/-- Whether a step opens a connection. -/
def opens : Step τ → Bool
  | .connected => true
  | _ => false

/-- Whether a step closes a connection. -/
def closes : Step τ → Bool
  | .released => true
  | _ => false

end Step

namespace Trace

variable {τ : Type}

/-- The requests for documents. -/
def requests (t : Trace τ) : List Request := t.filterMap Step.request?

/-- The page loads, as requests. -/
def loads (t : Trace τ) : List Request := t.filterMap Step.load?

/-- All requests, for documents and for pages. -/
def visits (t : Trace τ) : List Request := t.filterMap Step.visit?

/-- The pauses. -/
def pauses (t : Trace τ) : List τ := t.filterMap Step.pause?

/-- The items given. -/
def items (t : Trace τ) : List Item := t.filterMap Step.item?

/-- The remarks in the log. -/
def notes (t : Trace τ) : List (Level × String) := t.filterMap Step.note?

/-- How often a connection was opened. -/
def opened (t : Trace τ) : Nat := t.countP Step.opens

/-- How often a connection was closed. -/
def closed (t : Trace τ) : Nat := t.countP Step.closes

/-- The progress display as it was shown last. -/
def lastBoard? (t : Trace τ) : Option Terminal.Board := (t.filterMap Step.board?).getLast?

/-- Whether the trace ends with a pause that is the one numbered `n`, counted from one. -/
def endsAtPause (t : Trace τ) (n : Int) : Bool :=
  (t.getLast?.bind Step.pause?).isSome && t.pauses.length == n

/-- Whether the trace ends with an item and at least `n` items were given after the first `start`
steps. -/
def endsAtItem (t : Trace τ) (start : Nat) (n : Int) : Bool :=
  (t.getLast?.bind Step.item?).isSome && n ≤ (items (t.drop start)).length

@[simp] theorem requests_append (t u : Trace τ) : requests (t ++ u) = requests t ++ requests u :=
  List.filterMap_append

@[simp] theorem loads_append (t u : Trace τ) : loads (t ++ u) = loads t ++ loads u :=
  List.filterMap_append

@[simp] theorem visits_append (t u : Trace τ) : visits (t ++ u) = visits t ++ visits u :=
  List.filterMap_append

@[simp] theorem pauses_append (t u : Trace τ) : pauses (t ++ u) = pauses t ++ pauses u :=
  List.filterMap_append

@[simp] theorem items_append (t u : Trace τ) : items (t ++ u) = items t ++ items u :=
  List.filterMap_append

@[simp] theorem notes_append (t u : Trace τ) : notes (t ++ u) = notes t ++ notes u :=
  List.filterMap_append

@[simp] theorem opened_append (t u : Trace τ) : opened (t ++ u) = opened t + opened u :=
  List.countP_append

@[simp] theorem closed_append (t u : Trace τ) : closed (t ++ u) = closed t + closed u :=
  List.countP_append

end Trace

end SparkGateway
