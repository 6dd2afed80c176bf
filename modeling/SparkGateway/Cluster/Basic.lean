import SparkGateway.Cluster.Application
import SparkGateway.Cluster.Attempt
import SparkGateway.Polling
import SparkGateway.Url.Join

/-!
# The resource manager

The resource manager of a cluster is reached through the gateway, under a root of its own.  It tells
about applications and their attempts.  A reply whose code is not good counts as nothing yet, so asking
is a matter of polling.

Main statement: `rootOf_slashes` (slashes around the root do not matter).
-/

namespace SparkGateway

/-- How the resource manager of a cluster is reached. -/
structure Cluster (τ : Type) where
  /-- An address on the gateway. -/
  gateway : String
  /-- The path of the resource manager on the gateway, which starts with a slash. -/
  root : String
  /-- How long the page of an attempt takes to fill. -/
  settle : τ

namespace Cluster

variable {σ τ : Type}

/-- The path of the resource manager, unless another one is set. -/
def defaultRoot : String := "/yarnui"

/-- A path that starts with a slash and has no other one at its ends. -/
def rootOf (path : List Char) : List Char :=
  '/' :: Text.dropEndWhile (· == '/') (path.dropWhile (· == '/'))

/-- The resource manager behind an address on the gateway. -/
def on (gateway path : String) (settle : τ) : Cluster τ :=
  ⟨gateway, String.ofList (rootOf path.toList), settle⟩

/-- How long the page of an attempt takes to fill, unless another time is set. -/
def defaultSettle [Timeline τ] : τ := Timeline.seconds 3

/-- The address of a path below the root of the resource manager. -/
def address (c : Cluster τ) (path : String) : Except Misfit String :=
  let below := Text.trimStartWhere (· == '/') path
  match Url.join? c.gateway s!"{c.root}/{below}" with
  | some url => .ok url
  | none => .error .badValue

/-- The address of an application. -/
def applicationUrl (c : Cluster τ) (application : String) : Except Misfit String :=
  c.address s!"ws/v1/cluster/apps/{application}"

/-- The address of the attempts of an application. -/
def attemptsUrl (c : Cluster τ) (application : String) : Except Misfit String :=
  c.address s!"ws/v1/cluster/apps/{application}/appattempts"

/-- The address of the page of an attempt. -/
def attemptPageUrl (c : Cluster τ) (attempt : String) : Except Misfit String :=
  c.address s!"hn/cluster/appattempt/{attempt}"

/-- The reply to a request for an address, unless its code says that there is nothing yet. -/
def lookUp (url : String) : Run σ τ (Option Reply) := do
  let r ← Run.ask (.get url)
  if r.ok then return some r
  let code := r.code.repr
  Run.note .debug s!"GET {url} returned {code}"
  return none

variable [Timeline τ]

/-- What the resource manager says of an application. -/
def application (c : Cluster τ) (p : Polling τ) (id : String) : Run σ τ Application := do
  let url ← Run.ofMisfit (c.applicationUrl id)
  p.seek s!"get YARN application {id}" do
    match ← lookUp url with
    | some r => return some (← Run.ofFault (Application.ofReply r))
    | none => return none

/-- The attempts of an application. -/
def attempts (p : Polling τ) (url id : String) : Run σ τ (List Attempt) :=
  p.seek s!"get attempts of {id}" do
    match ← lookUp url with
    | some r => return some (← Run.ofStop (Attempt.listOfReply r))
    | none => return none

/-- The current attempt of an application. -/
def currentAttempt (c : Cluster τ) (p : Polling τ) (id : String) : Run σ τ Attempt := do
  let url ← Run.ofMisfit (c.attemptsUrl id)
  match Attempt.current? (← attempts p url id) with
  | some a => return a
  | none => Run.fail (.noAttempt s!"No attempt found for application {id} at {url}")

/-- A link to logs as text: a value that is none is no address at all. -/
def linkText : Json → Except Misfit String
  | .str s => .ok s
  | .arr _ => .error .wrongKind
  | .obj _ => .error .wrongKind
  | _ => .error .notText

omit [Timeline τ] in
/-- The address of the log of the driver of an attempt: the link of the attempt, moved below the root
of the resource manager. -/
def driverLogUrl (c : Cluster τ) (a : Attempt) : Except Misfit (Option String) := do
  if !a.logsLink.given then return none
  let link ← linkText a.logsLink
  match Url.parse? link.toList with
  | none => throw .badValue
  | some u =>
    let host := String.ofList (u.host?.getD "None".toList)
    let path := String.ofList u.path
    return some (← c.address s!"{host}{path}")

omit [Timeline τ] in
/-- Slashes around the root do not matter. -/
theorem rootOf_slashes (n m : Nat) {path : List Char}
    (hhead : ∀ c, path.head? = some c → c ≠ '/')
    (hlast : ∀ c, path.getLast? = some c → c ≠ '/') :
    rootOf (List.replicate n '/' ++ path ++ List.replicate m '/') = '/' :: path := by
  have skip (k : Nat) (s : List Char) :
      (List.replicate k '/' ++ s).dropWhile (· == '/') = s.dropWhile (· == '/') := by
    induction k with
    | zero => rfl
    | succ k ih => simp [List.replicate_succ, ih]
  have stay (s : List Char) (h : ∀ c, s.head? = some c → c ≠ '/') :
      s.dropWhile (· == '/') = s := by
    cases s with
    | nil => rfl
    | cons c cs => exact List.dropWhile_cons_of_neg (by simpa using h c rfl)
  have hback : ∀ c, path.reverse.head? = some c → c ≠ '/' := by
    intro c hc
    exact hlast c (by simpa using hc)
  unfold rootOf Text.dropEndWhile
  rw [List.append_assoc, skip]
  cases path with
  | nil =>
    have hm := skip m []
    simp only [List.append_nil, List.dropWhile_nil] at hm
    simp [hm]
  | cons d ds =>
    have hd := hhead d rfl
    rw [List.cons_append, List.dropWhile_cons_of_neg (by simpa using hd), ← List.cons_append,
      List.reverse_append, List.reverse_replicate, skip, stay _ hback, List.reverse_reverse]

end Cluster

end SparkGateway
