import SparkGateway.Cluster.Containers
import SparkGateway.Proofs.Page.Fetching
import SparkGateway.Proofs.Polling.Scripted

/-!
# The page of an attempt

The page of an attempt is loaded until it shows that the attempt is past its launch (`PastLaunch`).  Each try
waits for the page to settle and loads it, whatever is kept in the cache.  Along every script of loads the
first page past launch is given, after exactly the loads and pauses up to it, and if there is none among as
many as are allowed, the attempts are exhausted after all of them (`attemptPage_loads`).
-/

namespace SparkGateway

open Run Polling

/-! ## Pages past launch -/

namespace Page

/-- A row tells the state of an attempt: its first cell holds the label, and its second one the state. -/
def TellsState (r : Row) (state : String) : Prop :=
  ∃ label value, r.cells[0]? = some label ∧ r.cells[1]? = some value ∧
    Text.lower (Text.trim label.text) = "application attempt state:" ∧
    state = Text.lower (Text.trim value.text)

/-- The first row of the table `info` that tells a state tells another one than the launch. -/
def PastLaunch (p : Page) : Prop :=
  ∃ info before row after state, p.table? "info" = some info ∧ info.rows = before ++ row :: after ∧
    (∀ r ∈ before, ∀ s, ¬TellsState r s) ∧ TellsState row state ∧ state ≠ "launched"

theorem attemptState?_eq_some_iff (r : Row) (state : String) :
    attemptState? r = some state ↔ TellsState r state := by
  unfold attemptState? TellsState Row.cellAt?
  cases r.cells[0]? with
  | none => simp
  | some label =>
      cases r.cells[1]? with
      | none => simp
      | some value =>
          by_cases hlabel : Text.lower (Text.trim label.text) = stateLabel
          · simp [hlabel, stateLabel, eq_comm]
          · have hother : Text.lower (Text.trim label.text) ≠ "application attempt state:" := hlabel
            simp [hlabel, hother]

/-- The state that the rows of a table tell is that of the first row that tells one. -/
theorem findSome?_attemptState?_iff (rows : List Row) (state : String) :
    rows.findSome? attemptState? = some state ↔ ∃ before row after, rows = before ++ row :: after ∧
      (∀ r ∈ before, ∀ s, ¬TellsState r s) ∧ TellsState row state := by
  rw [List.findSome?_eq_some_iff]
  simp only [Option.eq_none_iff_forall_ne_some, ne_eq, attemptState?_eq_some_iff]
  constructor
  · rintro ⟨before, row, after, hrows, hrow, hbefore⟩
    exact ⟨before, row, after, hrows, hbefore, hrow⟩
  · rintro ⟨before, row, after, hrows, hbefore, hrow⟩
    exact ⟨before, row, after, hrows, hrow, hbefore⟩

theorem isPastLaunch_iff (p : Page) : p.isPastLaunch = true ↔ p.PastLaunch := by
  have hstate : p.isPastLaunch = true ↔ ∃ info state, p.table? "info" = some info ∧
      info.rows.findSome? attemptState? = some state ∧ state ≠ "launched" := by
    unfold isPastLaunch
    cases p.table? "info" with
    | none => simp
    | some info => cases hrows : info.rows.findSome? attemptState? <;> simp [hrows]
  rw [hstate]
  simp only [findSome?_attemptState?_iff]
  constructor
  · rintro ⟨info, state, hinfo, ⟨before, row, after, hrows, hbefore, hrow⟩, hne⟩
    exact ⟨info, before, row, after, state, hinfo, hrows, hbefore, hrow, hne⟩
  · rintro ⟨info, before, row, after, state, hinfo, hrows, hbefore, hrow, hne⟩
    exact ⟨info, state, hinfo, ⟨before, row, after, hrows, hbefore, hrow⟩, hne⟩

end Page

/-! ## Scripts of loads -/

variable {σ τ : Type}

/-- The same surroundings with a service whose page loads follow a script, in which no pause is cut short. -/
def Surroundings.showing (env : Surroundings τ) (script : Nat → Said) : Surroundings τ :=
  { env with
    page := fun t _ => (script t.loads.length).answer
    halt := fun _ => none }

/-- What a script says to the loads from a world on. -/
def World.sees (w : World σ τ) (script : Nat → Said) (k : Nat) : Answer :=
  (script (w.trace.loads.length + k)).answer

/-- A load that is waited out: its page is not past launch, or the service could not be reached. -/
def Page.WaitedOut (url : String) (a : Answer) : Prop :=
  (∃ page, Page.ofAnswer url a = .ok page ∧ ¬page.PastLaunch) ∨
    ∃ message, Page.ofAnswer url a = .error (.fault (.unreachable message))

/-- What a load comes to for work that waits for a page past launch. -/
def Page.awaited (url : String) (a : Answer) : Except Stop (Option Page) :=
  (Page.ofAnswer url a).map fun page => if page.isPastLaunch then some page else none

theorem Page.notYet_awaited {url : String} {a : Answer} (h : Page.WaitedOut url a) :
    notYet (Page.awaited url a) = true := by
  unfold awaited
  rcases h with ⟨page, hpage, hpast⟩ | ⟨message, hlost⟩
  · rw [← isPastLaunch_iff, Bool.not_eq_true] at hpast
    rw [hpage, Except.map, hpast]
    rfl
  · rw [hlost]
    rfl

theorem Page.awaited_of_pastLaunch {url : String} {a : Answer} {page : Page}
    (h : Page.ofAnswer url a = .ok page) (hpast : page.PastLaunch) :
    Page.awaited url a = .ok (some page) := by
  rw [awaited, h, Except.map, (isPastLaunch_iff page).2 hpast]
  rfl

/-- A fetch of a new page loads it, whatever is kept. -/
theorem Page.fetch_course [Timeline τ] (env : Surroundings τ) (url : String) (w : World (Cache τ) τ) :
    ∃ v, Course (fetch url true) env w [.loaded url (env.page (w.trace ++ connecting url) url)]
      (loadedAfter env w.trace url) v := by
  have hfetched := fetch_fetched env url true w
  have hevents : env.events w.trace (loading url) =
      [.loaded url (env.page (w.trace ++ connecting url) url)] := by
    simp [loading, connecting, Surroundings.events, Step.event?]
  obtain ⟨⟨r, v⟩, hrun⟩ : ∃ result, fetch url true env w = result := ⟨_, rfl⟩
  rw [hrun] at hfetched
  cases hfetched with
  | kept hfresh => cases hfresh
  | came _ hpage | failed _ hpage => exact ⟨_, hrun.trans (by rw [hpage]), loading url, rfl, hevents⟩

namespace Cluster

variable [Timeline τ]

/-- One try to load the page of an attempt. -/
def attemptTry (c : Cluster τ) (attempt url : String) : Run (Page.Cache τ) τ (Option Page) := do
  Run.sleep c.settle
  let page ← Page.fetch url true
  if page.isPastLaunch then return some page
  Run.note .debug s!"Attempt {attempt} is not past LAUNCHED yet"
  return none

theorem attemptPage_eq {c : Cluster τ} {attempt url : String} (h : c.attemptPageUrl attempt = .ok url)
    (p : Polling τ) :
    c.attemptPage p attempt = p.seek s!"load attempt page {url}" (c.attemptTry attempt url) := by
  unfold attemptPage
  rw [h]
  rfl

theorem attemptTry_of_isPastLaunch {c : Cluster τ} (attempt : String) {url : String}
    {env : Surroundings τ} {w : World (Page.Cache τ) τ} {page : Page}
    (hrest : env.halt (w.trace ++ [.slept c.settle]) = none)
    (hanswer : Page.ofAnswer url
      (env.page (w.trace ++ [.slept c.settle] ++ Page.connecting url) url) = .ok page)
    (hpast : page.isPastLaunch = true) :
    c.attemptTry attempt url env w =
      (.ok (some page), ⟨w.memory.put (Timeline.plus w.now c.settle) url page,
        Timeline.plus w.now c.settle, w.trace ++ [.slept c.settle] ++ Page.loading url⟩) := by
  unfold attemptTry
  rw [bind_ok (sleep_eq c.settle env w hrest), bind_ok (Page.fetch_fresh hanswer), if_pos hpast]
  rfl

/-- A page that is past launch when it is loaded first is given, and kept. -/
theorem attemptPage_of_isPastLaunch {c : Cluster τ} {p : Polling τ} {attempt url : String}
    {env : Surroundings τ} {w : World (Page.Cache τ) τ} {page : Page} (hattempts : 1 ≤ p.attempts)
    (hurl : c.attemptPageUrl attempt = .ok url)
    (hrest : env.halt (w.trace ++ [.slept c.settle]) = none)
    (hanswer : Page.ofAnswer url
      (env.page (w.trace ++ [.slept c.settle] ++ Page.connecting url) url) = .ok page)
    (hpast : page.isPastLaunch = true) :
    c.attemptPage p attempt env w =
      (.ok page, ⟨w.memory.put (Timeline.plus w.now c.settle) url page,
        Timeline.plus w.now c.settle, w.trace ++ [.slept c.settle] ++ Page.loading url⟩) := by
  have htry := attemptTry_of_isPastLaunch attempt hrest hanswer hpast
  let x : Polled (Page.Cache τ) τ Page :=
    ⟨p, s!"load attempt page {url}", c.attemptTry attempt url, env, w⟩
  obtain ⟨left, hleft⟩ : ∃ left, p.attempts.toNat = left + 1 := ⟨p.attempts.toNat - 1, by omega⟩
  have hresult : x.result = x.remaining 0 (left + 1) := by
    rw [← hleft]
    exact Polled.result_eq_remaining (show ((0 : Nat) : Int) < p.attempts by omega)
      (fun j hj => absurd hj j.not_lt_zero) fun j hj => absurd hj j.not_lt_zero
  have hvalue : x.outcomeAt 0 = .ok (some page) := congrArg Prod.fst htry
  rw [Polled.remaining_of_value hvalue] at hresult
  rw [attemptPage_eq hurl]
  exact hresult.trans (congrArg (fun v => (Except.ok page, v)) (congrArg Prod.snd htry))

/-- A try waits for the page to settle and loads it once. -/
theorem attemptTry_course (c : Cluster τ) (attempt url : String) (env : Surroundings τ)
    (script : Nat → Said) (w : World (Page.Cache τ) τ) :
    ∃ v, Course (c.attemptTry attempt url) (env.showing script) w
      [.paused c.settle, .loaded url (w.sees script 0)] (Page.awaited url (w.sees script 0)) v := by
  let u : World (Page.Cache τ) τ :=
    ⟨w.memory, Timeline.plus w.now c.settle, w.trace ++ [.slept c.settle]⟩
  have hsleep : Course (Run.sleep c.settle) (env.showing script) w [.paused c.settle] (.ok ()) u :=
    .step (sleep_eq c.settle (env.showing script) w rfl) rfl
  have hloads : (u.trace ++ Page.connecting url).loads = w.trace.loads := by
    simp [u, Trace.loads, Step.load?, Page.connecting]
  have hseen : (env.showing script).page (u.trace ++ Page.connecting url) url = w.sees script 0 := by
    simp [Surroundings.showing, World.sees, hloads]
  obtain ⟨v, hfetch⟩ := Page.fetch_course (env.showing script) url u
  rw [Page.loadedAfter, hseen] at hfetch
  unfold attemptTry Page.awaited
  cases hpage : Page.ofAnswer url (w.sees script 0) with
  | error e =>
      rw [hpage] at hfetch
      exact ⟨v, hsleep.bind hfetch.bind_error⟩
  | ok page =>
      rw [hpage] at hfetch
      have hjudged : Does (σ := Page.Cache τ) (env.showing script) (do
            if page.isPastLaunch then return some page
            Run.note .debug s!"Attempt {attempt} is not past LAUNCHED yet"
            return none) (Silent (.ok (if page.isPastLaunch then some page else none))) := by
        by_cases hpast : page.isPastLaunch = true
        · rw [if_pos hpast, if_pos hpast]
          exact value_silent _
        · rw [if_neg hpast, if_neg hpast]
          exact (note_silent _ _).silent_bind (fun _ _ => value_silent none) fun _ h => by cases h
      obtain ⟨es, r, v', hlast, -, rfl, rfl⟩ := hjudged v
      exact ⟨v', hsleep.bind (hfetch.bind hlast)⟩

/-- The first load after the settling, and then so many more, each after a pause and the settling. -/
def settling (c : Cluster τ) (p : Polling τ) (url : String) (said : Nat → Answer) : Nat → List (Event τ)
  | 0 => [.paused c.settle, .loaded url (said 0)]
  | k + 1 => c.settling p url said k ++ [.paused p.pause, .paused c.settle, .loaded url (said (k + 1))]

section Settling

omit [Timeline τ]

variable (c : Cluster τ) (p : Polling τ) (url : String) (said : Nat → Answer) (k : Nat)

theorem loads_settling :
    (c.settling p url said k).filterMap Event.load? = List.replicate (k + 1) (.get url) := by
  induction k with
  | zero => rfl
  | succ k ih =>
      rw [settling, List.filterMap_append, ih, List.replicate_succ' (n := k + 1)]
      rfl

theorem pauses_settling :
    (c.settling p url said k).filterMap Event.pause? =
      c.settle :: (List.replicate k [p.pause, c.settle]).flatten := by
  induction k with
  | zero => rfl
  | succ k ih =>
      rw [settling, List.filterMap_append, ih, List.replicate_succ', List.flatten_append]
      rfl

/-- How many pauses there are: one before each load, and one between two. -/
theorem length_pauses_settling :
    ((c.settling p url said k).filterMap Event.pause?).length = 2 * k + 1 := by
  induction k with
  | zero => rfl
  | succ k ih =>
      rw [settling, List.filterMap_append, List.length_append, ih]
      rfl

end Settling

/-- What the loading of the page of an attempt is to do along a script of loads. -/
structure LoadsUntilPast (c : Cluster τ) (p : Polling τ) (attempt url : String) (env : Surroundings τ)
    (script : Nat → Said) (w : World (Page.Cache τ) τ) : Prop where
  /-- The first page past launch is given, and the loads and pauses stop with its load. -/
  found : ∀ (k : Nat) page, (k : Int) < p.attempts →
    (∀ j < k, Page.WaitedOut url (w.sees script j)) →
    Page.ofAnswer url (w.sees script k) = .ok page → page.PastLaunch →
      ∃ v, Course (c.attemptPage p attempt) (env.showing script) w
          (c.settling p url (w.sees script) k) (.ok page) v ∧
        v.trace.loads = w.trace.loads ++ List.replicate (k + 1) (.get url) ∧
        v.trace.pauses =
          w.trace.pauses ++ c.settle :: (List.replicate k [p.pause, c.settle]).flatten
  /-- Without one among as many loads as are allowed, the attempts are exhausted after all of them. -/
  exhausted : (∀ j : Nat, (j : Int) < p.attempts → Page.WaitedOut url (w.sees script j)) →
    ∃ v last, Course (c.attemptPage p attempt) (env.showing script) w
        (c.settling p url (w.sees script) (p.attempts.toNat - 1))
        (.error (.fault (.exhausted s!"load attempt page {url}" p.attempts last))) v ∧
      v.trace.loads = w.trace.loads ++ List.replicate p.attempts.toNat (.get url) ∧
      (v.trace.pauses.length : Int) = w.trace.pauses.length + (2 * p.attempts - 1)

/-- The page of an attempt is polled for along a script of loads. -/
def attemptPolled (c : Cluster τ) (p : Polling τ) (attempt url : String) (env : Surroundings τ)
    (script : Nat → Said) (w : World (Page.Cache τ) τ) : Polled (Page.Cache τ) τ Page :=
  ⟨p, s!"load attempt page {url}", c.attemptTry attempt url, env.showing script, w⟩

section Polled

variable {c : Cluster τ} {p : Polling τ} {attempt url : String} {env : Surroundings τ}
  {script : Nat → Said} {w : World (Page.Cache τ) τ}

theorem sees_worldAt (k : Nat) :
    ((c.attemptPolled p attempt url env script w).worldAt k).sees script 0 = w.sees script k := by
  have hcounts : (c.attemptPolled p attempt url env script w).Counts fun u => u.trace.loads.length := by
    refine ⟨fun u => ?_, fun u level text => ?_, fun u t amount => ?_⟩
    · obtain ⟨v, hcourse⟩ := attemptTry_course c attempt url env script u
      show ((c.attemptTry attempt url) (env.showing script) u).2.trace.loads.length = _
      rw [hcourse.run, hcourse.loads, List.length_append]
      rfl
    · simp [Trace.loads, Step.load?]
    · simp [Trace.loads, Step.load?]
  have hcount := Polled.count_worldAt hcounts k
  simp only [World.sees, hcount, Nat.add_zero]
  rfl

theorem attemptPolled_goes :
    (c.attemptPolled p attempt url env script w).Goes fun k =>
      [.paused c.settle, .loaded url (w.sees script k)] := by
  intro k
  obtain ⟨v, hcourse⟩ := attemptTry_course c attempt url env script
    ((c.attemptPolled p attempt url env script w).worldAt k)
  rw [sees_worldAt] at hcourse
  exact ⟨_, v, hcourse⟩

theorem outcomeAt_attemptPolled (k : Nat) :
    (c.attemptPolled p attempt url env script w).outcomeAt k = Page.awaited url (w.sees script k) := by
  obtain ⟨v, hcourse⟩ := attemptTry_course c attempt url env script
    ((c.attemptPolled p attempt url env script w).worldAt k)
  rw [sees_worldAt] at hcourse
  exact hcourse.outcome_eq

theorem nothingYet_attemptPolled {n : Nat} (h : ∀ j < n, Page.WaitedOut url (w.sees script j)) :
    (c.attemptPolled p attempt url env script w).NothingYet n := by
  intro j hj
  rw [outcomeAt_attemptPolled]
  exact Page.notYet_awaited (h j hj)

theorem tried_attemptPolled (k : Nat) :
    (c.attemptPolled p attempt url env script w).tried
        (fun k => [.paused c.settle, .loaded url (w.sees script k)]) k ++
      [.paused c.settle, .loaded url (w.sees script k)] = c.settling p url (w.sees script) k := by
  induction k with
  | zero => rfl
  | succ k ih =>
      rw [settling, ← ih, Polled.tried, Polled.tried, List.range_succ, List.flatMap_append,
        List.flatMap_singleton]
      simp only [List.append_assoc]
      rfl

end Polled

/-- Along every script of loads, whatever is kept in the cache, the page of an attempt is loaded until it
is past launch, or as often as is allowed. -/
theorem attemptPage_loads {c : Cluster τ} {p : Polling τ} {attempt url : String}
    (hurl : c.attemptPageUrl attempt = .ok url) (hp : 1 ≤ p.attempts) (env : Surroundings τ)
    (script : Nat → Said) (w : World (Page.Cache τ) τ) : c.LoadsUntilPast p attempt url env script w := by
  have hrests (k : Nat) : (c.attemptPolled p attempt url env script w).Rests k := fun j _ => rfl
  constructor
  · intro k page hk hwaited hpage hpast
    obtain ⟨v, hcourse⟩ := attemptPolled_goes.course_of_value hk (nothingYet_attemptPolled hwaited)
      (hrests k) ((outcomeAt_attemptPolled k).trans (Page.awaited_of_pastLaunch hpage hpast))
    rw [tried_attemptPolled] at hcourse
    rw [attemptPage_eq hurl]
    refine ⟨v, hcourse, ?_, ?_⟩
    · rw [← loads_settling c p url (w.sees script)]
      exact hcourse.loads
    · rw [← pauses_settling c p url (w.sees script)]
      exact hcourse.pauses
  · intro hwaited
    obtain ⟨k, hk⟩ : ∃ k : Nat, (k : Int) + 1 = p.attempts := ⟨p.attempts.toNat - 1, by omega⟩
    have hlast : p.attempts.toNat - 1 = k := by omega
    have hall : p.attempts.toNat = k + 1 := by omega
    obtain ⟨v, hcourse⟩ := attemptPolled_goes.course_of_exhausted hk
      (nothingYet_attemptPolled fun j hj => hwaited j (by omega)) (hrests k)
    rw [tried_attemptPolled] at hcourse
    rw [attemptPage_eq hurl, hlast, hall]
    refine ⟨v, _, hcourse, ?_, ?_⟩
    · rw [← loads_settling c p url (w.sees script)]
      exact hcourse.loads
    · have hpauses := length_pauses_settling c p url (w.sees script) k
      have htotal : v.trace.pauses.length = w.trace.pauses.length + (2 * k + 1) := by
        rw [← hpauses, ← List.length_append]
        exact congrArg List.length hcourse.pauses
      omega

/-- A service that cannot be reached, then shows a launch, and then an attempt that runs. -/
def launchedLate (k : Nat) : Said :=
  if k = 0 then .broken "down"
  else if k = 1 then
    .reply 200 (some
      "<table id=info><tr><th>Application Attempt State:</th><td>LAUNCHED</td></tr></table>") none
  else
    .reply 200 (some
      "<table id=info><tr><th>Application Attempt State:</th><td>RUNNING</td></tr></table>") none

/-- The page of an attempt that tells its state. -/
def attemptIn (state : String) : Page :=
  ⟨"http://livy:8998/yarnui/hn/cluster/appattempt/attempt_1",
    [⟨some "info", [], [⟨[⟨"Application Attempt State:", none⟩, ⟨state, none⟩]⟩]⟩],
    "Application Attempt State: " ++ state⟩

/-- A page that is kept and past launch does not spare the loads. -/
theorem attemptPage_loads_of_launchedLate :
    let c : Cluster Number := .on "http://livy:8998/batches" "/yarnui" (.whole 3)
    let p : Polling Number := ⟨3, .whole 5⟩
    let url := (attemptIn "RUNNING").url
    let env : Surroundings Number := Replies.surroundings {} 9
    let kept : Page.Cache Number := ⟨.whole 60, 100, [⟨url, .whole 0, attemptIn "FINISHED"⟩]⟩
    let w : World (Page.Cache Number) Number := ⟨kept, .whole 0, []⟩
    (kept.get (.whole 0) url).1 = some (attemptIn "FINISHED") ∧
      ∃ v, Run.Course (c.attemptPage p "attempt_1") (env.showing launchedLate) w
          (c.settling p url (w.sees launchedLate) 2) (.ok (attemptIn "RUNNING")) v ∧
        v.trace.loads = List.replicate 3 (.get url) ∧
        v.trace.pauses = [.whole 3, .whole 5, .whole 3, .whole 5, .whole 3] := by
  intro c p url env kept w
  have hurl : c.attemptPageUrl "attempt_1" = .ok url := by decide +kernel
  have hlaunched : Page.ofAnswer url (w.sees launchedLate 1) = .ok (attemptIn "LAUNCHED") :=
    Page.ofAnswer_html (by decide) (by decide +kernel)
  have hrunning : Page.ofAnswer url (w.sees launchedLate 2) = .ok (attemptIn "RUNNING") :=
    Page.ofAnswer_html (by decide) (by decide +kernel)
  have hwaited : ∀ j < 2, Page.WaitedOut url (w.sees launchedLate j) := by
    intro j hj
    obtain rfl | rfl : j = 0 ∨ j = 1 := by omega
    · exact .inr ⟨_, rfl⟩
    · refine .inl ⟨_, hlaunched, ?_⟩
      rw [← Page.isPastLaunch_iff]
      decide +kernel
  refine ⟨by decide +kernel, ?_⟩
  exact (attemptPage_loads hurl (by decide) env launchedLate w).found 2 (attemptIn "RUNNING") (by decide)
    hwaited hrunning ((Page.isPastLaunch_iff _).1 (by decide +kernel))

end Cluster

end SparkGateway
