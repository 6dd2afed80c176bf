import SparkGateway.Reply
import SparkGateway.Terminal.Display
import SparkGateway.Timeline

/-!
# Exchanges

All work with the gateway is a sequence of steps: requests, page loads, pauses, remarks for the log,
and things given to whoever follows.  A piece of work is a function (`Run`) from its surroundings and
the world before it to its outcome and the world after it.  The world remembers every step, and the
surroundings decide each answer from the steps before it, so any server, however it behaves, is such a
function.

What a piece of work keeps in memory between its steps is the parameter `σ`, its time is `τ`.

Main statements: the equations of the steps, such as `sleep_eq` and `attempt_eq`.
-/

namespace SparkGateway

/-- How urgent a remark is. -/
inductive Level where
  /-- Of interest when looking for an error. -/
  | debug
  /-- Of general interest. -/
  | info
  /-- Something has gone wrong. -/
  | warning
  deriving DecidableEq, Repr

namespace Level

/-- The name of a level. -/
def name : Level → String
  | debug => "DEBUG"
  | info => "INFO"
  | warning => "WARNING"

end Level

/-- Whether a line of a followed log is the log's own or reports an error. -/
inductive Severity where
  /-- A line of the log. -/
  | log
  /-- A report of an error. -/
  | error
  deriving DecidableEq, Repr

namespace Severity

/-- The name of a severity. -/
def name : Severity → String
  | log => "log"
  | error => "error"

end Severity

/-- One thing out of a sequence that is given while it is discovered. -/
inductive Item where
  /-- A line of a log. -/
  | line (severity : Severity) (text : String)
  /-- A container on a host. -/
  | container (host id : String)
  deriving DecidableEq, Repr

/-- One step of a piece of work. -/
inductive Step (τ : Type) where
  /-- A request was made. -/
  | asked (r : Request)
  /-- A page was loaded. -/
  | loaded (url : String)
  /-- A connection was opened. -/
  | connected
  /-- A connection was closed. -/
  | released
  /-- A pause was made, or at least begun. -/
  | slept (amount : τ)
  /-- A remark was written to the log. -/
  | noted (level : Level) (text : String)
  /-- An item was given. -/
  | gave (item : Item)
  /-- Something was shown or asked. -/
  | shown (d : Terminal.Display)

/-- The steps of a piece of work, in order. -/
abbrev Trace (τ : Type) := List (Step τ)

/-- What a piece of work would do if it went on alone. -/
structure Prospect (τ : Type) where
  /-- The steps that it would take. -/
  steps : Trace τ
  /-- Whether it would stop without a value. -/
  stops : Bool

/-- How a connection answers. -/
inductive Answer where
  /-- With a reply. -/
  | reply (code : Int) (body : Option String) (contentType : Option String)
  /-- Not at all; the connection fails. -/
  | broken (message : String)
  /-- The work ends here. -/
  | stop (s : Stop)

/-- The surroundings of a piece of work.  Each decision is made with all earlier steps in view. -/
structure Surroundings (τ : Type) where
  /-- How a request is answered. -/
  answer : Trace τ → Request → Answer
  /-- How the load of a page is answered. -/
  page : Trace τ → String → Answer
  /-- Whether the work stops at a pause or at an item that was given, the last of the steps. -/
  halt : Trace τ → Option Stop
  /-- Whether the person at the terminal says yes to a question that has just been shown. -/
  confirms : Trace τ → Bool
  /-- Which entries the person picks, counted from zero, of a choice that has just been shown. -/
  picks : Trace τ → List Nat
  /-- Which of several pieces of work that go on at the same time is over next, counted from zero, in view
  of what each would do if it went on alone. -/
  turn : List (Prospect τ) → Nat
  /-- Whether the terminal can wait for an answer to be entered. -/
  waits : Bool
  /-- Whether requests open connections of their own, which is noted in the log. -/
  connects : Bool
  /-- How many rounds any loop may take. -/
  patience : Nat

/-- The world of a piece of work. -/
structure World (σ τ : Type) where
  /-- What is kept in memory. -/
  memory : σ
  /-- The time. -/
  now : τ
  /-- All steps so far, in order. -/
  trace : Trace τ

/-- A piece of work that gives a value or stops. -/
def Run (σ τ α : Type) : Type := Surroundings τ → World σ τ → Except Stop α × World σ τ

namespace Run

variable {σ τ α β : Type}

/-- Work that gives a value at once. -/
def value (a : α) : Run σ τ α := fun _ w => (.ok a, w)

/-- Work that goes on with another piece of work. -/
def andThen (x : Run σ τ α) (f : α → Run σ τ β) : Run σ τ β := fun env w =>
  match x env w with
  | (.ok a, w) => f a env w
  | (.error e, w) => (.error e, w)

instance : Monad (Run σ τ) where
  pure := value
  bind := andThen

/-- Work that stops. -/
def stop (e : Stop) : Run σ τ α := fun _ w => (.error e, w)

/-- Work that stops with a fault. -/
def fail (f : Fault) : Run σ τ α := stop (.fault f)

/-- The outcome of a piece of work, as a value. -/
def attempt (x : Run σ τ α) : Run σ τ (Except Stop α) := fun env w =>
  let (r, w) := x env w
  (.ok r, w)

/-- The outcome of a piece of work in which a service that could not be reached is a value. -/
def reachable (x : Run σ τ α) : Run σ τ (Except String α) := do
  match ← attempt x with
  | .ok a => value (.ok a)
  | .error (.fault (.unreachable m)) => value (.error m)
  | .error e => stop e

/-- A piece of work with a memory of its own. -/
def withMemory {ρ : Type} (m : ρ) (x : Run ρ τ α) : Run σ τ α := fun env w =>
  let (r, v) := x env ⟨m, w.now, w.trace⟩
  (r, ⟨w.memory, v.now, v.trace⟩)

/-- A value that may be a fault instead. -/
def ofFault : Except Fault α → Run σ τ α
  | .ok a => value a
  | .error f => fail f

/-- A value that may not fit instead. -/
def ofMisfit : Except Misfit α → Run σ τ α
  | .ok a => value a
  | .error m => stop (.misfit m)

/-- A value that may be any stop instead. -/
def ofStop : Except Stop α → Run σ τ α
  | .ok a => value a
  | .error e => stop e

/-- What is kept in memory. -/
def memory : Run σ τ σ := fun _ w => (.ok w.memory, w)

/-- Keeps something else in memory. -/
def remember (m : σ) : Run σ τ Unit := fun _ w => (.ok (), { w with memory := m })

/-- The time. -/
def now : Run σ τ τ := fun _ w => (.ok w.now, w)

/-- How many rounds a loop may take. -/
def patience : Run σ τ Nat := fun env w => (.ok env.patience, w)

/-- What a piece of work would do if it went on alone. -/
def prospect (x : Run σ τ α) (env : Surroundings τ) (w : World σ τ) : Prospect τ :=
  let (r, v) := x env w
  ⟨v.trace.drop w.trace.length, !r.toBool⟩

/-- Which of several pieces of work that go on at the same time is over next, counted from zero. -/
def next (xs : List (Run σ τ α)) : Run σ τ Nat := fun env w =>
  (.ok (env.turn (xs.map fun x => x.prospect env w) % xs.length), w)

/-- What a round of a loop decides. -/
inductive Round (α β : Type) where
  /-- There is another round. -/
  | again (next : α)
  /-- This was the last round. -/
  | done (result : β)

/-- Does one round after another until one is the last, for a number of rounds. -/
def roundsWithin (round : α → Run σ τ (Round α β)) : Nat → α → Run σ τ β
  | 0, _ => stop .spent
  | n + 1, a => do
    match ← round a with
    | .again b => roundsWithin round n b
    | .done b => value b

/-- Does one round after another until one is the last. -/
def rounds (round : α → Run σ τ (Round α β)) (a : α) : Run σ τ β := do
  let n ← patience
  roundsWithin round n a

/-- Adds a step. -/
def record (s : Step τ) : Run σ τ Unit := fun _ w =>
  (.ok (), { w with trace := w.trace ++ [s] })

/-- Writes a remark to the log. -/
def note (level : Level) (text : String) : Run σ τ Unit := record (.noted level text)

/-- Gives an item. -/
def give (item : Item) : Run σ τ Unit := fun env w =>
  let w := { w with trace := w.trace ++ [.gave item] }
  match env.halt w.trace with
  | some e => (.error e, w)
  | none => (.ok (), w)

/-- Shows something. -/
def display (d : Terminal.Display) : Run σ τ Unit := record (.shown d)

/-- Whether the person says yes to a question of yes or no, which is shown.  A terminal that cannot wait
for the answer to be entered takes the question only without that wish. -/
def confirm (message : String) (default : Bool) : Run σ τ Bool := fun env w =>
  let asked := w.trace ++ [.shown (.confirm message default true)]
  let asked := if env.waits then asked else asked ++ [.shown (.confirm message default false)]
  (.ok (env.confirms asked), { w with trace := asked })

/-- Which entries the person picks of a choice, which is shown. -/
def choose (message : String) (entries : List String) : Run σ τ (List Nat) := fun env w =>
  let asked := w.trace ++ [.shown (.choose message entries)]
  (.ok (env.picks asked), { w with trace := asked })

/-- Makes a pause. -/
def sleep [Timeline τ] (amount : τ) : Run σ τ Unit := fun env w =>
  let w := { w with trace := w.trace ++ [.slept amount] }
  match env.halt w.trace with
  | some e => (.error e, w)
  | none => (.ok (), { w with now := Timeline.plus w.now amount })

/-- The answer to a request, which is a step. -/
def answered (r : Request) : Run σ τ Answer := fun env w =>
  (.ok (env.answer w.trace r), { w with trace := w.trace ++ [.asked r] })

/-- The answer to the load of a page, which is a step. -/
def pageAnswered (url : String) : Run σ τ Answer := fun env w =>
  (.ok (env.page w.trace url), { w with trace := w.trace ++ [.loaded url] })

/-- Whether requests open connections of their own. -/
def connects : Run σ τ Bool := fun env w => (.ok env.connects, w)

/-- The reply to a request.  A connection that fails is a fault that may pass. -/
def ask (r : Request) : Run σ τ Reply := do
  let method := r.method.name
  let url := r.url
  let opens ← connects
  if opens then
    note .debug s!"{method} {url}"
    record .connected
  let a ← answered r
  if opens then record .released
  match a with
  | .reply code body contentType => return ⟨url, code, body, contentType⟩
  | .broken message => fail (.unreachable s!"{method} {url} failed: {message}")
  | .stop e => stop e

@[simp] theorem pure_eq (a : α) (env : Surroundings τ) (w : World σ τ) :
    (pure a : Run σ τ α) env w = (.ok a, w) := rfl

theorem bind_ok {x : Run σ τ α} {f : α → Run σ τ β} {env : Surroundings τ} {w w' : World σ τ} {a : α}
    (h : x env w = (.ok a, w')) :
    (x >>= f) env w = f a env w' := by
  show andThen x f env w = _
  simp [andThen, h]

theorem bind_error {x : Run σ τ α} {f : α → Run σ τ β} {env : Surroundings τ} {w w' : World σ τ}
    {e : Stop}
    (h : x env w = (.error e, w')) :
    (x >>= f) env w = (.error e, w') := by
  show andThen x f env w = _
  simp [andThen, h]

/-- The outcome of work is a value whatever it is, and the world changes as it does. -/
theorem attempt_eq (x : Run σ τ α) (env : Surroundings τ) (w : World σ τ) :
    attempt x env w = (.ok (x env w).1, (x env w).2) := rfl

/-- A pause is a step; the time moves on by its length unless it is cut short. -/
theorem sleep_eq [Timeline τ] (amount : τ) (env : Surroundings τ) (w : World σ τ)
    (h : env.halt (w.trace ++ [.slept amount]) = none) :
    sleep amount env w =
      (.ok (), ⟨w.memory, Timeline.plus w.now amount, w.trace ++ [.slept amount]⟩) := by
  simp [sleep, h]

end Run

end SparkGateway
