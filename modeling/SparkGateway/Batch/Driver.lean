import SparkGateway.Batch.Basic
import SparkGateway.Text.Digit

/-!
# The driver of a batch

The driver of a batch runs on the host of the application master, and its log is that of the current
attempt.  The host is read off an address: a host without a colon, a colon, and digits.

Main statement: `hostChars?_some` (an address of that form names its host).
-/

namespace SparkGateway.Batch

variable {σ τ : Type}

/-- The host in an address: what stands before a colon that only digits follow. -/
def hostChars? (address : List Char) : Option (List Char) :=
  match Url.cutAt? (· == ':') address with
  | some (host, port) =>
    if host ≠ [] ∧ port ≠ [] ∧ port.all Text.isDecimal then some host else none
  | none => none

/-- The host in an address, which may be missing. -/
def host? : Json → Except Misfit (Option String)
  | .str s => .ok ((hostChars? (Text.trimChars s.toList)).map String.ofList)
  | v => if v.given then .error .notText else .ok none

variable [Timeline τ]

/-- The host of the driver of a batch that runs. -/
def driverHost (b : Batch τ) : Run σ τ String := do
  let c ← b.manager
  let application := (← b.application).display
  let a ← c.application b.polling application
  if a.finished then
    let id := (← Run.ofFault b.number).repr
    Run.fail (.finished s!"The Livy batch {id} on YARN is not running")
  else
    match ← Run.ofMisfit (host? a.masterAddress) with
    | some host => return host
    | none => do
      let url ← Run.ofMisfit (c.applicationUrl application)
      let address := a.masterAddress.written
      Run.fail (.malformed s!"Bad amHostHttpAddress {address}" (some url) none)

/-- The address of the log of the driver, if the current attempt links to one. -/
def driverLogUrl (b : Batch τ) : Run σ τ (Option String) := do
  let c ← b.manager
  let application := (← b.application).display
  let attempt ← c.currentAttempt b.polling application
  Run.ofMisfit (c.driverLogUrl attempt)

/-- The containers of the current attempt whose logs are available, each with its host. -/
def containers (b : Batch τ) : Run (Page.Cache τ) τ (List (String × String)) := do
  let c ← b.manager
  let application := (← b.application).display
  let attempt ← c.currentAttempt b.polling application
  c.containers b.polling attempt.name

omit [Timeline τ] in
/-- An address of a host, a colon and digits names the host. -/
theorem hostChars?_some {host port : List Char}
    (hhost : host ≠ [] ∧ ∀ c ∈ host, (c == ':') = false)
    (hport : port ≠ [] ∧ ∀ c ∈ port, Text.isDecimal c = true) :
    hostChars? (host ++ ':' :: port) = some host := by
  have hcut : Url.cutAt? (· == ':') (host ++ ':' :: port) = some (host, port) :=
    Url.cutAt?_append hhost.2 rfl
  have hall : port.all Text.isDecimal = true := List.all_eq_true.2 hport.2
  simp [hostChars?, hcut, hhost.1, hport.1, hall]

end SparkGateway.Batch
