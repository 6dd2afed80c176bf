import SparkGateway.Command.Batches
import SparkGateway.Proofs.Exchange.Shown
import SparkGateway.Proofs.Polling.Scripted

/-!
# What commands report

Commands show lines of four kinds and end in a few ways.  Work whose failure ends the program shows
nothing of its own if it gives a value; if it stops, it shows error lines only, and the exit code is 1
unless the program was interrupted or has chosen its exit code itself (`orExit_of_stop`).
-/

namespace SparkGateway

open Terminal

variable {σ τ α : Type} {env : Surroundings τ} {w v : World σ τ} {es : List (Event τ)}

/-- The world after several things more were shown. -/
def World.showingAll (w : World σ τ) (ds : List Display) : World σ τ :=
  { w with trace := w.trace ++ ds.map .shown }

@[simp] theorem World.showingAll_displays (w : World σ τ) (ds : List Display) :
    (w.showingAll ds).trace.displays = w.trace.displays ++ ds := by
  simp [showingAll, Trace.displays, List.filterMap_map, Function.comp_def, Step.display?]

theorem World.showingAll_append (w : World σ τ) (ds ds' : List Display) :
    w.showingAll (ds ++ ds') = (w.showingAll ds).showingAll ds' := by
  simp [showingAll]

/-- What is shown takes no answer from a script. -/
theorem World.hears_showingAll (w : World σ τ) (ds : List Display) (script : Nat → Said) :
    (w.showingAll ds).hears script = w.hears script := by
  have hrequests : (w.showingAll ds).trace.requests = w.trace.requests := by
    simp [World.showingAll, Trace.requests, List.filterMap_map, Function.comp_def, Step.request?]
  funext k
  rw [World.hears, World.hears, hrequests]

theorem Surroundings.events_shown (env : Surroundings τ) (before : Trace τ) (ds : List Display) :
    env.events before (ds.map .shown) = ds.map .shown := by
  induction ds generalizing before with
  | nil => rfl
  | cons d ds ih =>
      rw [List.map_cons, events, ih]
      rfl

namespace Run

/-- Work after which something more is shown. -/
theorem Course.showingAll {x : Run σ τ α} {β : Type} {y : Run σ τ β} {r : Except Stop α}
    {r' : Except Stop β} (hx : Course x env w es r v) {ds : List Display}
    (hy : y env w = (r', v.showingAll ds)) : Course y env w (es ++ ds.map .shown) r' (v.showingAll ds) := by
  obtain ⟨t, htrace, rfl⟩ := hx.steps
  refine ⟨hy, t ++ ds.map .shown, ?_, ?_⟩
  · show v.trace ++ ds.map .shown = _
    rw [htrace, List.append_assoc]
  · rw [Surroundings.events_append, Surroundings.events_shown]

/-- Work that shows some things and nothing else. -/
theorem Course.shows {x : Run σ τ α} {r : Except Stop α} {ds : List Display}
    (h : x env w = (r, w.showingAll ds)) : Course x env w (ds.map .shown) r (w.showingAll ds) :=
  ⟨h, _, rfl, env.events_shown _ _⟩

theorem Course.display (d : Display) : Course (display d) env w [.shown d] (.ok ()) (w.showingAll [d]) :=
  ⟨rfl, [.shown d], rfl, rfl⟩

end Run

namespace Command

open Run

/-! ## The batch of a command -/

/-- The address of a batch. -/
def batchAddress (s : Settings) (id : Int) : String :=
  let number := id.repr
  s!"{s.batchesUrl}/{number}"

theorem bareUri_batchesUrl (s : Settings) : Batch.bareUri s.batchesUrl = s.batchesUrl := by
  simp [Batch.bareUri, Settings.batchesUrl, Text.trimEndWhere, Text.dropEndWhile, String.toList_append]

theorem batchUrl_batchOf (s : Settings) (id : Int) :
    (batchOf s id).batchUrl = .ok (batchAddress s id) := by
  show Except.ok s!"{Batch.bareUri s.batchesUrl}/{id.repr}" = _
  rw [bareUri_batchesUrl]
  rfl

/-! ## Lines -/

/-- Whether a display is a line of markup that begins with a mark. -/
def begins (mark : String) : Display → Bool
  | .line markup => mark.toList.isPrefixOf markup.toList
  | _ => false

/-- A line that tells that something has gone well. -/
def IsSuccessLine (d : Display) : Prop := begins "[ok]" d = true

/-- A line that reports an error. -/
def IsErrorLine (d : Display) : Prop := begins "[err]" d = true

instance (d : Display) : Decidable (IsSuccessLine d) := inferInstanceAs (Decidable (_ = true))

theorem IsErrorLine.not_success {d : Display} (h : IsErrorLine d) : ¬ IsSuccessLine d := by
  cases d with
  | line markup =>
      obtain ⟨rest, hrest⟩ := List.isPrefixOf_iff_prefix.1 h
      simp [IsSuccessLine, begins, ← hrest, List.isPrefixOf]
  | _ => exact nomatch h

/-- The line that tells that something has gone well. -/
def successLine (message : String) : Display := .line s!"[ok]✓[/] {message}"

/-- The line with a warning. -/
def warningLine (message : String) : Display := .line s!"[warn]⚠[/] {message}"

/-- The line with a remark. -/
def infoLine (message : String) : Display := .line s!"[title]›[/] {message}"

/-- The line that reports an error. -/
def errorLine (message : String) : Display :=
  let shown := escape message
  .line s!"[err]✗[/] {shown}"

/-- The line for a value with a label. -/
def fieldLine (label value : String) : Display :=
  let shown := escape value
  .line s!"[meta]{label}[/]: {shown}"

theorem successLine_success (message : String) : IsSuccessLine (successLine message) := by
  simp [IsSuccessLine, begins, successLine, String.toList_append, toString]

theorem errorLine_error (message : String) : IsErrorLine (errorLine message) := by
  simp [IsErrorLine, begins, errorLine, String.toList_append, toString]

theorem logMarkup_error (line : String) : IsErrorLine (.line (logMarkup .error line)) := by
  simp [IsErrorLine, begins, logMarkup, String.toList_append, toString]

theorem showNamed_eq (named : Json.Named) (env : Surroundings τ) (w : World σ τ) :
    showNamed named env w =
      (.ok (), w.showingAll (named.map fun e => fieldLine e.1.display e.2.display)) := by
  induction named generalizing w with
  | nil => simp [showNamed, World.showingAll]
  | cons e named ih =>
      have hfirst := ih (w.showingAll [fieldLine e.1.display e.2.display])
      rw [← World.showingAll_append] at hfirst
      exact hfirst

/-! ## Ends of the program -/

theorem exitWarning_course (message : String) (code : Int) :
    Course (exitWarning message code : Run σ τ α) env w [.shown (warningLine message)]
      (.error (.exit code)) (w.showingAll [warningLine message]) :=
  (Course.display (warningLine message)).bind (.silent rfl rfl)

theorem exitOk_course {message : String} (h : message.isEmpty = false) :
    Course (exitOk message : Run σ τ α) env w [.shown (infoLine message)] (.error (.exit 0))
      (w.showingAll [infoLine message]) := by
  unfold exitOk
  rw [h]
  exact (Course.display (infoLine message)).bind (.silent rfl rfl)

/-- A trace is shown line by line, unless something in it is no text. -/
theorem showTrace_eq (lines : List Json) (env : Surroundings τ) (w : World σ τ) :
    ∃ ds r, showTrace lines env w = (r, w.showingAll ds) ∧ (∀ d ∈ ds, IsErrorLine d) ∧
      (r = .ok () ∨ r = .error (.misfit .notText)) := by
  induction lines generalizing w with
  | nil => exact ⟨[], .ok (), by simp [showTrace, World.showingAll], by simp, .inl rfl⟩
  | cons line lines ih =>
      cases line with
      | str text =>
          let shown := Display.line (logMarkup .error (Text.trimEndWhere (· == '\n') text))
          obtain ⟨ds, r, hrun, hds, hr⟩ := ih (w.showingAll [shown])
          refine ⟨shown :: ds, r, ?_, List.forall_mem_cons.2 ⟨logMarkup_error _, hds⟩, hr⟩
          rw [show shown :: ds = [shown] ++ ds from rfl, World.showingAll_append, ← hrun]
          rfl
      | _ => exact ⟨[], _, by simp [showTrace, World.showingAll, stop], by simp, .inr rfl⟩

theorem showFault_eq (f : Fault) (env : Surroundings τ) (w : World σ τ) :
    ∃ ds r, showFault f env w = (r, w.showingAll ds) ∧ (∀ d ∈ ds, IsErrorLine d) ∧
      (r = .ok () ∨ r = .error (.misfit .notText)) := by
  cases f with
  | statementFailed name value traceback =>
      obtain ⟨ds, r, hrun, hds, hr⟩ := showTrace_eq traceback env w
      rcases hr with rfl | rfl
      · refine ⟨ds ++ [errorLine (Fault.statementFailed name value traceback).message], .ok (), ?_, ?_,
          .inl rfl⟩
        · rw [showFault, bind_ok hrun, World.showingAll_append]
          rfl
        · simpa [or_imp, forall_and] using ⟨hds, errorLine_error _⟩
      · exact ⟨ds, _, by rw [showFault, bind_error hrun], hds, .inr rfl⟩
  | _ => exact ⟨[errorLine _], .ok (), rfl, by simpa using errorLine_error _, .inl rfl⟩

/-- What stops a program with exit code 1: neither an interruption, nor an end with an exit code. -/
def Fails : Stop → Prop
  | .interrupted | .exit _ => False
  | _ => True

/-- Work that stops shows error lines and nothing else, and gives no value. -/
theorem orExit_of_stop {work : Run σ τ α} {e : Stop} (h : work env w = (.error e, v)) :
    ∃ ds e', orExit work env w = (.error e', v.showingAll ds) ∧ (∀ d ∈ ds, IsErrorLine d) ∧
      (Fails e → ∀ β, exitCode (.error e' : Except Stop β) = 1) := by
  have hattempt : work.attempt env w = (.ok (.error e), v) := by rw [attempt_eq, h]
  have hself : v = v.showingAll [] := by simp [World.showingAll]
  unfold orExit
  rw [bind_ok hattempt]
  cases e with
  | fault f =>
      obtain ⟨ds, r, hrun, hds, hr⟩ := showFault_eq f env v
      rcases hr with rfl | rfl
      · exact ⟨ds, _, bind_ok hrun, hds, fun _ _ => rfl⟩
      · exact ⟨ds, _, bind_error hrun, hds, fun _ _ => rfl⟩
  | interrupted => exact ⟨[errorLine "Interrupted"], _, rfl, by simpa using errorLine_error _, nofun⟩
  | exit code => exact ⟨[], _, congrArg _ hself, by simp, nofun⟩
  | _ => exact ⟨[], _, congrArg _ hself, by simp, fun _ _ => rfl⟩

theorem course_orExit {work : Run σ τ α} {a : α} (h : Course work env w es (.ok a) v) :
    Course (orExit work) env w es (.ok a) v :=
  ⟨orExit_ok work env w v a h.run, h.steps⟩

/-- Work that stops shows error lines after it. -/
theorem course_orExit_stop {work : Run σ τ α} {e : Stop} (h : Course work env w es (.error e) v) :
    ∃ ds e', Course (orExit work) env w (es ++ ds.map .shown) (.error e') (v.showingAll ds) ∧
      (∀ d ∈ ds, IsErrorLine d) ∧
      (Fails e → ∀ β, exitCode (.error e' : Except Stop β) = 1) := by
  obtain ⟨ds, e', hrun, hds, hcode⟩ := orExit_of_stop h.run
  exact ⟨ds, e', h.showingAll hrun, hds, hcode⟩

end Command

end SparkGateway
