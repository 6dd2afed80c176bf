import SparkGateway.Exchange
import SparkGateway.Page.Builder
import SparkGateway.Page.Cache

/-!
# Loading pages

A page is loaded over a connection of its own, which is closed before anything else happens.  A load
that fails, for whatever reason, counts as a service that could not be reached.  Pages that have been
loaded are kept in a cache, which is the memory of the work.

Main statement: `fetch_cached` (a page that is kept and not too old is given without any step).
-/

namespace SparkGateway.Page

variable {σ τ : Type}

/-- What a page is asked for with, besides what every request carries. -/
def loadHeaders : List (String × String) := [("Accept", "text/html")]

/-- The page at an address as the service has it now. -/
def load (url : String) : Run σ τ Page := do
  Run.note .debug s!"Loading page {url}"
  Run.record .connected
  let a ← Run.pageAnswered url
  Run.record .released
  match a with
  | .reply code body _ =>
    if 200 ≤ code ∧ code < 300 then
      match body with
      | some html => Run.ofMisfit (Page.ofHtml url html)
      | none => Run.stop (.misfit .wrongKind)
    else
      let c := code.repr
      Run.fail (.unreachable s!"GET {url} returned {c}")
  | .broken message => Run.fail (.unreachable s!"GET {url} failed: {message}")
  | .stop e => Run.stop e

variable [Timeline τ]

/-- Loads a page and keeps it. -/
def renew (url : String) : Run (Cache τ) τ Page := do
  let page ← load url
  let cache ← Run.memory
  let t ← Run.now
  Run.remember (cache.put t url page)
  return page

/-- The kept page of an address, if there is one that is not too old. -/
def kept (url : String) : Run (Cache τ) τ (Option Page) := do
  let cache ← Run.memory
  let t ← Run.now
  let (found, cache) := cache.get t url
  Run.remember cache
  return found

/-- The page at an address: one that is kept, unless a new one is asked for or none is kept. -/
def fetch (url : String) (fresh : Bool) : Run (Cache τ) τ Page := do
  if fresh then renew url
  else
    match ← kept url with
    | some page => return page
    | none => renew url

theorem fetch_cached (url : String) (page : Page) (env : Surroundings τ) (w : World (Cache τ) τ)
    (h : w.memory.get w.now url = (some page, w.memory)) :
    fetch url false env w = (.ok page, w) := by
  have hkept : kept url env w = (.ok (some page), w) := by
    unfold kept
    rw [Run.bind_ok (show Run.memory env w = (.ok w.memory, w) from rfl),
      Run.bind_ok (show Run.now env w = (.ok w.now, w) from rfl)]
    simp only [h]
    rfl
  simp only [fetch, Bool.false_eq_true, if_false]
  rw [Run.bind_ok hkept]
  rfl

end SparkGateway.Page
