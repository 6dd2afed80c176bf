import SparkGateway.Session.Snapshot
import SparkGateway.Statement.Basic

/-!
# Sessions

A session keeps an interpreter on the gateway that statements are sent to.  What is known of it is the
last snapshot, which is the memory of the work; creating the session, looking at it and killing it
replace the snapshot as a whole, and a request that fails leaves it as it was.  Work that is done within
a session ends with the session being closed, however the work itself ends.

Main statements: `refresh_uncreated` and `kill_uncreated` (nothing is asked of a session that does not
exist).
-/

namespace SparkGateway

/-- The dialects of an interpreter. -/
inductive Session.Kind where
  /-- The dialect for compiled code. -/
  | spark
  /-- The dialect with a scripting language. -/
  | pyspark
  /-- The dialect for statistics. -/
  | sparkr
  /-- The dialect for queries. -/
  | sql
  deriving DecidableEq, Repr

/-- The name of a dialect. -/
def Session.Kind.name : Session.Kind → String
  | .spark => "spark"
  | .pyspark => "pyspark"
  | .sparkr => "sparkr"
  | .sql => "sql"

/-- How one session is worked with. -/
structure Session (τ : Type) where
  /-- The name of the session. -/
  name : String
  /-- The address of the gateway, without a slash at its end. -/
  base : String
  /-- The dialect of the interpreter. -/
  kind : Session.Kind
  /-- How long it may take until an application runs the session. -/
  applicationDeadline : τ
  /-- The pause between two looks at the session. -/
  pause : τ

namespace Session

/-- All dialects. -/
def Kind.all : List Kind := [.spark, .pyspark, .sparkr, .sql]

/-- The dialect with a name. -/
def Kind.ofName? (name : String) : Option Kind := Kind.all.find? fun k => k.name == name

/-- What is remembered of a session. -/
structure Memory where
  /-- The last snapshot. -/
  snapshot : Snapshot := {}
  /-- Whether the session has been closed. -/
  closed : Bool := false

/-- What is remembered of a session that was created elsewhere. -/
def Memory.attached (id : Int) : Memory := { snapshot := { identity := some id, state := .starting } }

variable {τ : Type}

/-- A session behind the gateway at an address. -/
def behind (base name : String) (kind : Kind) (applicationDeadline pause : τ) : Session τ :=
  ⟨name, Text.trimEndWhere (· == '/') base, kind, applicationDeadline, pause⟩

/-- The name of a session that was created elsewhere. -/
def attachedName (id : Int) : String := "session-" ++ id.repr

/-- How long it may take until an application runs a session, unless another time is set. -/
def defaultDeadline [Timeline τ] : τ := Timeline.seconds 180

/-- The pause between two looks at a session, unless another one is set. -/
def defaultPause [Timeline τ] : τ := Timeline.seconds 1

/-- The address of all sessions. -/
def listUrl (s : Session τ) : String := s.base ++ "/sessions"

/-- The last snapshot. -/
def snapshot : Run Memory τ Snapshot := do
  return (← Run.memory).snapshot

/-- Replaces the snapshot. -/
def replace (snapshot : Snapshot) : Run Memory τ Unit := do
  Run.remember { ← Run.memory with snapshot := snapshot }

/-- The number of the session. -/
def number (s : Session τ) : Run Memory τ Int := do
  match (← snapshot).identity with
  | some id => return id
  | none =>
    Run.fail (.sessionDown
      s!"{s.name} isn't created. Call create() before getting its ID." [])

/-- The address of a session with a number. -/
def urlOf (s : Session τ) (id : Int) : String := s.listUrl ++ "/" ++ id.repr

/-- The address of the session. -/
def url (s : Session τ) : Run Memory τ String := do
  return s.urlOf (← s.number)

/-- The document that is sent to create the session. -/
def document (s : Session τ) : Json := .obj [("name", .str s.name), ("kind", .str s.kind.name)]

/-- Creates the session. -/
def create (s : Session τ) : Run Memory τ Unit := do
  let r ← Run.ask (.post s.listUrl s.document)
  if !r.ok then Run.fail (r.refused .submission s!"Failed to create session {s.name}")
  let new ← Run.ofStop (Snapshot.ofReply r)
  replace new
  let id := (← s.number).repr
  let state := new.state.word
  Run.note .info s!"Created session {s.name} (id={id}, state={state})"

/-- Looks at the session, if it exists. -/
def refresh (s : Session τ) : Run Memory τ Unit := do
  match (← snapshot).identity with
  | none => return
  | some id => do
    let r ← Run.ask (.get (s.urlOf id))
    if !r.ok then Run.fail (r.refused .request s!"Failed to get session {s.name}")
    let new ← Run.ofStop (Snapshot.ofReply r)
    replace new

/-- Kills the session, if it exists.  Every code up to 300 is fine. -/
def kill (s : Session τ) : Run Memory τ Unit := do
  match (← snapshot).identity with
  | none => return
  | some id => do
    let r ← Run.ask (.delete (s.urlOf id))
    if r.code > 300 then Run.fail (r.refused .kill s!"Failed to kill session {s.name}")
    replace { ← snapshot with state := .dead }
    Run.note .info s!"Killed session {s.name}"

/-- Closes the session, which kills it; a session that has been closed is left alone. -/
def close (s : Session τ) : Run Memory τ Unit := do
  let m ← Run.memory
  if m.closed then return
  Run.remember { m with closed := true }
  s.kill

/-- Closes the session after work in it has stopped.  That the session cannot be closed is only worth
a remark, so what has stopped the work is what the caller sees. -/
def closeAfter {α : Type} (s : Session τ) (e : Stop) : Run Memory τ α := do
  match ← s.close.attempt with
  | .ok () => Run.stop e
  | .error (.fault f) => do
    let reason := f.message
    Run.note .warning s!"Failed to close session {s.name}: {reason}"
    Run.stop e
  | .error other => Run.stop other

/-- Does some work within the session, which is closed at the end. -/
def within {α : Type} (s : Session τ) (work : Run Memory τ α) : Run Memory τ α := do
  match ← work.attempt with
  | .ok a => do
    s.close
    return a
  | .error e => s.closeAfter e

theorem refresh_uncreated (s : Session τ) (env : Surroundings τ) (w : World Memory τ)
    (h : w.memory.snapshot.identity = none) :
    s.refresh env w = (.ok (), w) := by
  have hs : (snapshot : Run Memory τ Snapshot) env w = (.ok w.memory.snapshot, w) := rfl
  unfold refresh
  rw [Run.bind_ok hs, h]
  rfl

theorem kill_uncreated (s : Session τ) (env : Surroundings τ) (w : World Memory τ)
    (h : w.memory.snapshot.identity = none) :
    s.kill env w = (.ok (), w) := by
  have hs : (snapshot : Run Memory τ Snapshot) env w = (.ok w.memory.snapshot, w) := rfl
  unfold kill
  rw [Run.bind_ok hs, h]
  rfl

end Session

end SparkGateway
