import SparkGateway.Proofs.Command.Reporting

/-!
# The command that kills

The command that kills batches asks for one removal after the other and ends at the first that is not
fine.  So the batches that are told to be killed are those before it, in order, each is asked for once,
and the exit code tells whether there was none such (`KillsUpTo`).  Before that the batches have to be
known, by name or by a choice from all of them, and the person may have to agree; if it does not come so
far, nothing is asked to be removed (`KillsNothing`).
-/

namespace SparkGateway

open Terminal Run

variable {σ τ α : Type}

/-- The removal that an event asks for, with the answer to it. -/
def Event.removal? : Event τ → Option (Request × Answer)
  | .answered r a => if r.method = .delete then some (r, a) else none
  | _ => none

/-- The line that something has gone well that an event is. -/
def Event.success? : Event τ → Option Display
  | .shown d => if Command.IsSuccessLine d then some d else none
  | _ => none

theorem removals_shown (ds : List Display) :
    (ds.map .shown : List (Event τ)).filterMap Event.removal? = [] := by
  simp [List.filterMap_map, Function.comp_def, Event.removal?]

theorem successes_shown {ds : List Display} (h : ∀ d ∈ ds, ¬ Command.IsSuccessLine d) :
    (ds.map .shown : List (Event τ)).filterMap Event.success? = [] := by
  rw [List.filterMap_map, List.filterMap_eq_nil_iff]
  exact fun d hd => if_neg (h d hd)

namespace Command

/-! ## Kills one after the other -/

/-- The request that kills a batch. -/
def killing (s : Settings) (id : Int) : Request := .delete (batchAddress s id)

/-- The line that tells that a batch was killed. -/
def killedLine (id : Int) : Display :=
  let number := id.repr
  successLine s!"Batch {number} killed"

/-- The answer to a kill is fine: a reply with a code up to 300. -/
def Fine : Answer → Prop
  | .reply code _ _ => code ≤ 300
  | _ => False

/-- Of the answers to `n` kills the first `k` are fine, and the next one, if there is one, is not. -/
structure FineUpTo (said : Nat → Answer) (n k : Nat) : Prop where
  within : k ≤ n
  fine : ∀ i < k, Fine (said i)
  notFine : k < n → ¬ Fine (said k)

theorem fineUpTo_zero {said : Nat → Answer} {n : Nat} (h : 0 < n → ¬ Fine (said 0)) :
    FineUpTo said n 0 :=
  ⟨Nat.zero_le n, fun _ hi => absurd hi (Nat.not_lt_zero _), h⟩

theorem FineUpTo.succ {said : Nat → Answer} {n k : Nat} (hfine : Fine (said 0))
    (h : FineUpTo (fun i => said (i + 1)) n k) : FineUpTo said (n + 1) (k + 1) where
  within := Nat.succ_le_succ h.within
  fine
    | 0, _ => hfine
    | i + 1, hi => h.fine i (Nat.lt_of_succ_lt_succ hi)
  notFine hlt := h.notFine (Nat.lt_of_succ_lt_succ hlt)

/-- What is seen of kills of which the first `k` are fine: each of them is asked for and told before the
next, and one more is asked for if there is one. -/
def killsUpTo (s : Settings) (said : Nat → Answer) : List Int → Nat → List (Event Number)
  | [], _ => []
  | id :: _, 0 => [.answered (killing s id) (said 0)]
  | id :: ids, k + 1 =>
    .answered (killing s id) (said 0) :: .shown (killedLine id) ::
      killsUpTo s (fun i => said (i + 1)) ids k

theorem killedLine_success (id : Int) : IsSuccessLine (killedLine id) := successLine_success _

theorem removals_killsUpTo (s : Settings) (said : Nat → Answer) (ids : List Int) (k : Nat) :
    (killsUpTo s said ids k).filterMap Event.removal? =
      (ids.take (k + 1)).mapIdx fun i id => (killing s id, said i) := by
  fun_induction killsUpTo s said ids k with
  | case1 said k => simp
  | case2 said id ids => rfl
  | case3 said id ids k ih =>
      rw [List.take_succ_cons, List.mapIdx_cons, ← ih]
      rfl

theorem successes_killsUpTo (s : Settings) (said : Nat → Answer) (ids : List Int) (k : Nat) :
    (killsUpTo s said ids k).filterMap Event.success? = (ids.take k).map killedLine := by
  fun_induction killsUpTo s said ids k with
  | case1 said k => simp
  | case2 said id ids => rfl
  | case3 said id ids k ih =>
      have hline : (Event.shown (killedLine id) : Event Number).success? = some (killedLine id) :=
        if_pos (killedLine_success id)
      rw [List.take_succ_cons, List.map_cons, ← ih, List.filterMap_cons_none rfl,
        List.filterMap_cons_some hline]

/-- What an answer to a kill comes to. -/
def killOutcome (s : Settings) (id : Int) (a : Answer) : Except Stop Unit := do
  let found ← a.outcome (killing s id)
  let number := id.repr
  if found.code > 300 then .error (.fault (found.refused .kill s!"Failed to kill batch {number}"))
  else .ok ()

theorem killOutcome_of_fine (s : Settings) (id : Int) {a : Answer} (h : Fine a) :
    killOutcome s id a = .ok () := by
  cases a with
  | reply code body contentType => exact if_neg (Int.not_lt.2 h)
  | _ => exact h.elim

theorem killOutcome_of_not_fine (s : Settings) (id : Int) {said : Said} (h : ¬ Fine said.answer) :
    ∃ f, killOutcome s id said.answer = .error (.fault f) := by
  cases said with
  | reply code body contentType => exact ⟨_, if_pos (Int.not_le.1 h)⟩
  | broken message => exact ⟨_, rfl⟩

theorem kill_reads (s : Settings) (id : Int) (env : Surroundings Number) :
    Does env ((batchOf s id).kill : Run Pages Number Unit)
      (Reads env (killing s id) (killOutcome s id)) := by
  unfold Batch.kill
  rw [batchUrl_batchOf]
  refine Does.reads_bind (ask_reads (killing s id)) fun found => ?_
  show Does env (if found.code > 300 then _ else _) _
  split
  · exact stop_silent _
  · exact note_silent _ _

variable {s : Settings} {ids : List Int} {confirm : Bool} {env : Surroundings Number}
  {script : Nat → Said} {w u : World Pages Number}

/-- What a kill that is fine comes to, and the line after it. -/
theorem killFirst_course (s : Settings) (env : Surroundings Number) (id : Int)
    (hfine : Fine (w.hears script 0)) :
    ∃ u, Course (orExit (batchOf s id).kill) (env.saying script) w
        [.answered (killing s id) (w.hears script 0)] (.ok ()) u ∧
      ∀ i, (u.showingAll [killedLine id]).hears script i = w.hears script (i + 1) := by
  obtain ⟨u, hkill⟩ := (kill_reads s id (env.saying script)).course_hears w
  rw [killOutcome_of_fine s id hfine] at hkill
  refine ⟨u, course_orExit hkill, fun i => ?_⟩
  rw [World.hears_showingAll, hkill.hears, Nat.add_comm i 1]
  rfl

/-- Kills one after the other end at the first that is not fine. -/
theorem killEach_course (s : Settings) (env : Surroundings Number) (script : Nat → Said) (ids : List Int)
    (w : World Pages Number) :
    ∃ (k : Nat) (ds : List Display) (r : Except Stop Unit) (v : World Pages Number),
      Course (killEach s ids) (env.saying script) w
        (killsUpTo s (w.hears script) ids k ++ ds.map .shown) r v ∧
      FineUpTo (w.hears script) ids.length k ∧ (∀ d ∈ ds, IsErrorLine d) ∧
      exitCode r = if k = ids.length then 0 else 1 := by
  -- Each kill takes one answer of the script, so the rest begins in a world that hears it from the next on.
  induction ids generalizing w with
  | nil => exact ⟨0, [], .ok (), w, .silent rfl rfl, fineUpTo_zero nofun, by simp, rfl⟩
  | cons id ids ih =>
      by_cases hfine : Fine (w.hears script 0)
      · obtain ⟨u, hfirst, hears⟩ := killFirst_course s env id hfine
        obtain ⟨k, ds, r, v, hrest, hupTo, hds, hcode⟩ := ih (u.showingAll [killedLine id])
        rw [funext hears] at hrest hupTo
        refine ⟨k + 1, ds, r, v, ?_, hupTo.succ hfine, hds, by simpa using hcode⟩
        exact hfirst.bind ((Course.display (killedLine id)).bind hrest)
      · obtain ⟨u, hkill⟩ := (kill_reads s id (env.saying script)).course_hears w
        obtain ⟨f, hf⟩ := killOutcome_of_not_fine s id hfine
        have hstop : Course (batchOf s id).kill (env.saying script) w _ (.error (.fault f)) u := hf ▸ hkill
        obtain ⟨ds, e, hcourse, hds, hcode⟩ := course_orExit_stop hstop
        refine ⟨0, ds, .error e, _, hcourse.bind_error, fineUpTo_zero fun _ => hfine, hds, ?_⟩
        exact hcode trivial Unit

/-! ## The batches that are meant -/

/-- The message while the batches are listed. -/
def loading : Display := .status "Loading batches..."

/-- The request for all batches. -/
def listingRequest (s : Settings) : Request := .get s.batchesUrl

/-- The batches that an answer to the request for all of them tells. -/
def listing (s : Settings) (a : Answer) : Except Stop (List Batch.Snapshot) := do
  let found ← a.outcome (listingRequest s)
  let code := found.code.repr
  if found.ok then Batch.Snapshot.listOfReply found
  else .error (.fault (.malformed s!"Failed to list batches (code {code})" (some s.batchesUrl) found.body))

theorem list_reads (s : Settings) (env : Surroundings Number) :
    Does env (Batch.list s.batchesUrl : Run Pages Number (List Batch.Snapshot))
      (Reads env (listingRequest s) (listing s)) := by
  unfold Batch.list
  rw [bareUri_batchesUrl]
  refine Does.reads_bind (ask_reads (listingRequest s)) fun found => ?_
  cases hok : found.ok with
  | true => exact ofStop_silent _
  | false => exact stop_silent _

/-- A snapshot that cannot be read is malformed or does not fit. -/
theorem ofJson_fails {found : Reply} {v : Json} {e : Stop} (h : Batch.Snapshot.ofJson found v = .error e) :
    Fails e := by
  unfold Batch.Snapshot.ofJson at h
  rcases malformed_or_further (fun _ => Reply.fields_error) h with ⟨message, rfl⟩ | ⟨fields, -, h⟩
  · trivial
  split at h
  · rcases bind_eq_error h with hlog | ⟨log, -, hvalue⟩
    · obtain ⟨m, -, rfl⟩ := mapError_eq_error hlog
      trivial
    · cases hvalue
  · obtain rfl := Except.error.inj h
    trivial

theorem listOfReply_fails {found : Reply} {e : Stop} (h : Batch.Snapshot.listOfReply found = .error e) :
    Fails e := by
  unfold Batch.Snapshot.listOfReply at h
  rcases malformed_or_further (fun _ => Reply.document_error) h with ⟨message, rfl⟩ | ⟨document, -, h⟩
  · trivial
  rcases malformed_or_further (fun _ => Reply.fields_error) h with ⟨message, rfl⟩ | ⟨fields, -, h⟩
  · trivial
  rcases bind_eq_error h with hitems | ⟨items, -, h⟩
  · obtain ⟨m, -, rfl⟩ := mapError_eq_error hitems
    trivial
  · obtain ⟨v, -, hv⟩ := mapM_eq_error h
    exact ofJson_fails hv

/-- Batches that are not listed end the program with exit code 1, since nobody interrupts a script. -/
theorem listing_fails {said : Said} {e : Stop} (h : listing s said.answer = .error e) : Fails e := by
  cases said with
  | broken message =>
      obtain rfl := Except.error.inj h
      trivial
  | reply code body contentType =>
      rcases bind_eq_error h with hnone | ⟨found, -, hfound⟩
      · cases hnone
      · dsimp only at hfound
        split at hfound
        · exact listOfReply_fails hfound
        · obtain rfl := Except.error.inj hfound
          trivial

/-- The world once the gateway has said which batches there are. -/
def listed (s : Settings) (env : Surroundings Number) (w : World Pages Number) : World Pages Number :=
  (Batch.list s.batchesUrl env (w.showingAll [loading])).2

/-- The choice from some batches. -/
def offer (batches : List Batch.Snapshot) : Display :=
  .choose "Select batches:" (batches.map choiceTitle)

/-- The numbers of the batches that the person picks from those that are offered. -/
def picked (env : Surroundings Number) (batches : List Batch.Snapshot) (u : World Pages Number) : List Int :=
  ((env.picks (u.showingAll [offer batches]).trace).filterMap fun i => batches[i]?).map fun b => b.id

/-- What is seen while the batches are listed. -/
def listingEvents (s : Settings) (a : Answer) : List (Event Number) :=
  [.shown loading, .answered (listingRequest s) a]

theorem list_course (s : Settings) (env : Surroundings Number) (script : Nat → Said)
    (w : World Pages Number) :
    Course (Batch.list s.batchesUrl) (env.saying script) (w.showingAll [loading])
      [.answered (listingRequest s) (w.hears script 0)] (listing s (w.hears script 0))
      (listed s (env.saying script) w) := by
  obtain ⟨v, hlist⟩ := (list_reads s (env.saying script)).course_hears (w.showingAll [loading])
  rw [World.hears_showingAll] at hlist
  have hv : v = listed s (env.saying script) w := by
    unfold listed
    rw [hlist.run]
  exact hv ▸ hlist

theorem chooseBatches_course (batches : List Batch.Snapshot) (env : Surroundings Number)
    (u : World Pages Number) :
    Course (chooseBatches batches) env u [.shown (offer batches)]
      (.ok ((env.picks (u.showingAll [offer batches]).trace).filterMap fun i => batches[i]?))
      (u.showingAll [offer batches]) :=
  ⟨rfl, [.shown (offer batches)], rfl, rfl⟩

/-- From batches that the gateway has listed the person picks. -/
theorem chosenBatches_of_some {batches : List Batch.Snapshot}
    (h : listing s (w.hears script 0) = .ok batches) (hsome : batches ≠ []) :
    Course (chosenBatches s) (env.saying script) w
      (listingEvents s (w.hears script 0) ++ [.shown (offer batches)])
      (.ok (picked env batches (listed s (env.saying script) w)))
      ((listed s (env.saying script) w).showingAll [offer batches]) := by
  have hlist := list_course s env script w
  rw [h] at hlist
  have hchoose := (chooseBatches_course batches (env.saying script) (listed s (env.saying script) w)).bind
    (f := fun chosen => pure (chosen.map fun b => b.id)) (.silent rfl rfl)
  refine (Course.display loading).bind ((course_orExit hlist).bind ?_)
  dsimp only
  rw [if_neg (by simpa using hsome)]
  exact hchoose

/-- Without any batches there is a warning. -/
theorem chosenBatches_of_none (env : Surroundings Number) (h : listing s (w.hears script 0) = .ok []) :
    Course (chosenBatches s) (env.saying script) w
      (listingEvents s (w.hears script 0) ++ [.shown (warningLine "No batches found")])
      (.error (.exit 0)) ((listed s (env.saying script) w).showingAll [warningLine "No batches found"]) := by
  have hlist := list_course s env script w
  rw [h] at hlist
  exact (Course.display loading).bind
    ((course_orExit hlist).bind (exitWarning_course "No batches found" 0).bind_error)

theorem chosenBatches_of_error (env : Surroundings Number) {e : Stop}
    (h : listing s (w.hears script 0) = .error e) :
    ∃ ds e', Course (chosenBatches s) (env.saying script) w
        (listingEvents s (w.hears script 0) ++ ds.map .shown) (.error e')
        ((listed s (env.saying script) w).showingAll ds) ∧
      (∀ d ∈ ds, IsErrorLine d) ∧ ∀ β, exitCode (.error e' : Except Stop β) = 1 := by
  have hlist := list_course s env script w
  rw [h] at hlist
  obtain ⟨ds, e', hcourse, hds, hcode⟩ := course_orExit_stop hlist
  refine ⟨ds, e', ?_, hds, hcode (listing_fails h)⟩
  exact (Course.display loading).bind hcourse.bind_error

/-- The batches that are meant, with what is seen and the world once they are known: those that are named,
or else those that the person picks from all that the gateway lists. -/
inductive Meant (s : Settings) (ids : List Int) (env : Surroundings Number) (script : Nat → Said)
    (w : World Pages Number) : List Int → List (Event Number) → World Pages Number → Prop where
  | named : ids ≠ [] → Meant s ids env script w ids [] w
  | chosen {batches : List Batch.Snapshot} : ids = [] → listing s (w.hears script 0) = .ok batches →
      batches ≠ [] → Meant s ids env script w (picked env batches (listed s (env.saying script) w))
        (listingEvents s (w.hears script 0) ++ [.shown (offer batches)])
        ((listed s (env.saying script) w).showingAll [offer batches])

variable {meant : List Int} {ps : List (Event Number)}

theorem Meant.course (h : Meant s ids env script w meant ps u) :
    Course (if ids.isEmpty then chosenBatches s else pure ids) (env.saying script) w ps (.ok meant) u := by
  cases h with
  | named hnamed =>
      rw [if_neg (by simpa using hnamed)]
      exact .silent rfl rfl
  | chosen hnone hlisting hsome =>
      rw [if_pos (by simpa using hnone)]
      exact chosenBatches_of_some hlisting hsome

theorem listingEvents_quiet (s : Settings) (a : Answer) :
    (listingEvents s a).filterMap Event.removal? = [] ∧ (listingEvents s a).filterMap Event.success? = [] :=
  ⟨rfl, rfl⟩

theorem Meant.quiet (h : Meant s ids env script w meant ps u) :
    ps.filterMap Event.removal? = [] ∧ ps.filterMap Event.success? = [] := by
  cases h with
  | named => exact ⟨rfl, rfl⟩
  | chosen => exact ⟨rfl, rfl⟩

/-! ## The question -/

/-- The question whether so many batches are to be killed; a terminal that cannot wait is asked twice. -/
def question (env : Surroundings Number) (count : Nat) : List Display :=
  let number := count.repr
  let message := s!"Kill {number} batch(es)?"
  let asked := s!"[livyops] {message}"
  [.line "[meta]Use y/n then Enter[/]", .confirm asked false true] ++
    if env.waits then [] else [.confirm asked false false]

/-- What is shown before the kills. -/
def questions (env : Surroundings Number) (confirm : Bool) (count : Nat) : List Display :=
  if confirm then question env count else []

/-- The person has to agree and does not. -/
def Declines (env : Surroundings Number) (confirm : Bool) (ids : List Int) (u : World Pages Number) : Prop :=
  confirm = true ∧ env.confirms (u.showingAll (question env ids.length)).trace = false

/-- What is done once the batches are known that are meant. -/
def proceed (s : Settings) (confirm : Bool) (ids : List Int) : Run Pages Number Unit := do
  if ids.isEmpty then exitWarning "No batches selected" 0
  if confirm then
    let count := ids.length.repr
    if !(← askYes s!"Kill {count} batch(es)?" false) then exitOk "Cancelled"
  killEach s ids

theorem killBatches_eq (s : Settings) (ids : List Int) (confirm : Bool) :
    killBatches s ids confirm =
      (if ids.isEmpty then chosenBatches s else pure ids) >>= proceed s confirm := by
  cases ids <;> rfl

theorem question_quiet (env : Surroundings Number) (count : Nat) :
    ∀ d ∈ question env count, ¬ IsSuccessLine d := by
  have hline : ¬ IsSuccessLine (.line "[meta]Use y/n then Enter[/]") := by decide
  have hasked (message : String) (waits : Bool) : ¬ IsSuccessLine (.confirm message false waits) := nofun
  unfold question
  cases env.waits with
  | true => exact List.forall_mem_cons.2 ⟨hline, List.forall_mem_singleton.2 (hasked _ _)⟩
  | false =>
      exact List.forall_mem_cons.2 ⟨hline, List.forall_mem_cons.2 ⟨hasked _ _,
        List.forall_mem_singleton.2 (hasked _ _)⟩⟩

theorem ask_question (env : Surroundings Number) (count : Nat) (u : World Pages Number) :
    let number := count.repr
    Course (askYes s!"Kill {number} batch(es)?" false) env u ((question env count).map .shown)
      (.ok (env.confirms (u.showingAll (question env count)).trace)) (u.showingAll (question env count)) := by
  refine Course.shows ?_
  cases hwaits : env.waits <;>
    simp [askYes, question, hwaits, showLine, display, record, confirm, bind, andThen, World.showingAll]

/-- Without a pick there is a warning. -/
theorem proceed_nil (s : Settings) (confirm : Bool) (env : Surroundings Number) (u : World Pages Number) :
    Course (proceed s confirm []) env u [.shown (warningLine "No batches selected")] (.error (.exit 0))
      (u.showingAll [warningLine "No batches selected"]) :=
  (exitWarning_course "No batches selected" 0).bind_error

/-- What is done with batches that are meant: they are killed unless the person has to agree and does
not. -/
theorem proceed_of_some (hsome : meant ≠ []) :
    proceed s confirm meant = if confirm then do
        let number := meant.length.repr
        let agrees ← askYes s!"Kill {number} batch(es)?" false
        if agrees then killEach s meant
        else do
          exitOk "Cancelled"
          killEach s meant
      else killEach s meant := by
  cases meant with
  | nil => exact absurd rfl hsome
  | cons first rest =>
      cases confirm with
      | false => rfl
      | true =>
          show askYes _ false >>= _ = askYes _ false >>= _
          refine congrArg _ (funext fun agrees => ?_)
          cases agrees <;> rfl

theorem proceed_of_declined (s : Settings) (hsome : meant ≠ []) (h : Declines env confirm meant u) :
    ∃ v, Course (proceed s confirm meant) env u
      ((question env meant.length ++ [infoLine "Cancelled"]).map .shown) (.error (.exit 0)) v := by
  obtain ⟨hconfirm, hno⟩ := h
  have hasked := ask_question env meant.length u
  rw [hno] at hasked
  refine ⟨(u.showingAll (question env meant.length)).showingAll [infoLine "Cancelled"], ?_⟩
  rw [proceed_of_some hsome, if_pos hconfirm, List.map_append]
  exact hasked.bind (exitOk_course (by decide)).bind_error

theorem proceed_of_agreed (hsome : meant ≠ []) (h : ¬ Declines env confirm meant u)
    {es : List (Event Number)} {r : Except Stop Unit} {v : World Pages Number}
    (hkills : Course (killEach s meant) env (u.showingAll (questions env confirm meant.length)) es r v) :
    Course (proceed s confirm meant) env u
      ((questions env confirm meant.length).map .shown ++ es) r v := by
  rw [proceed_of_some hsome]
  cases confirm with
  | false => simpa [questions, World.showingAll] using hkills
  | true =>
      have hasked := ask_question env meant.length u
      have hyes : env.confirms (u.showingAll (question env meant.length)).trace = true := by
        simpa [Declines] using h
      rw [hyes] at hasked
      exact hasked.bind hkills

/-! ## The command -/

/-- Nothing is asked to be removed, and no batch is told to be killed. -/
structure KillsNothing (es : List (Event Number)) (r : Except Stop Unit) (code : Int) : Prop where
  asked : es.filterMap Event.removal? = []
  told : es.filterMap Event.success? = []
  code : exitCode r = code

/-- Some batches are killed one after the other, after some events, and the kills of the first `k` are
fine. -/
structure KillsUpTo (s : Settings) (ids : List Int) (said : Nat → Answer) (k : Nat)
    (before es : List (Event Number)) (r : Except Stop Unit) : Prop extends
    FineUpTo said ids.length k where
  /-- Each kill that is fine is told before the next one is asked for; after one that is not there are only
  errors. -/
  seen : ∃ ds : List Display,
    es = before ++ killsUpTo s said ids k ++ ds.map .shown ∧ ∀ d ∈ ds, IsErrorLine d
  /-- The removals that are asked for are those of the batches up to the first whose kill is not fine, in
  order and each once. -/
  asked : es.filterMap Event.removal? = (ids.take (k + 1)).mapIdx fun i id => (killing s id, said i)
  /-- The batches that are told to be killed are those before it. -/
  told : es.filterMap Event.success? = (ids.take k).map killedLine
  /-- The exit code tells whether all kills are fine. -/
  code : exitCode r = if k = ids.length then 0 else 1

/-- What comes of the command that kills, whatever the gateway says and whatever the person wants. -/
structure KillsInOrder (s : Settings) (ids : List Int) (confirm : Bool) (env : Surroundings Number)
    (script : Nat → Said) (w : World Pages Number) (es : List (Event Number)) (r : Except Stop Unit) :
    Prop where
  /-- The batches that are meant are killed, unless the person has to agree and does not. -/
  killed : ∀ meant ps u, Meant s ids env script w meant ps u → meant ≠ [] →
    ¬ Declines env confirm meant u → ∃ k, KillsUpTo s meant (u.hears script) k
      (ps ++ (questions env confirm meant.length).map .shown) es r
  declined : ∀ meant ps u, Meant s ids env script w meant ps u → meant ≠ [] →
    Declines env confirm meant u → KillsNothing es r 0
  /-- The person may pick none of the batches that are listed. -/
  unpicked : ∀ ps u, Meant s ids env script w [] ps u → KillsNothing es r 0
  /-- There may be no batches. -/
  unfound : ids = [] → listing s (w.hears script 0) = .ok [] → KillsNothing es r 0
  /-- The batches may not be listed. -/
  unlisted : ∀ e, ids = [] → listing s (w.hears script 0) = .error e → KillsNothing es r 1

/-- What is shown beside the kills asks for nothing and tells of no success. -/
theorem killsNothing_of_shown {ps : List (Event Number)} (ds : List Display) {r : Except Stop Unit}
    {code : Int} (hps : ps.filterMap Event.removal? = [] ∧ ps.filterMap Event.success? = [])
    (hds : ∀ d ∈ ds, ¬ IsSuccessLine d) (hcode : exitCode r = code) :
    KillsNothing (ps ++ ds.map .shown) r code where
  asked := by rw [List.filterMap_append, hps.1, removals_shown, List.append_nil]
  told := by rw [List.filterMap_append, hps.2, successes_shown hds, List.append_nil]
  code := hcode

theorem killBatches_of_meant {es : List (Event Number)} {r : Except Stop Unit} {v : World Pages Number}
    (hmeant : Meant s ids env script w meant ps u)
    (h : Course (proceed s confirm meant) (env.saying script) u es r v) :
    Course (killBatches s ids confirm) (env.saying script) w (ps ++ es) r v :=
  killBatches_eq s ids confirm ▸ hmeant.course.bind h

theorem killBatches_of_unknown (confirm : Bool) {es : List (Event Number)} {e : Stop}
    {v : World Pages Number} (h : Course (chosenBatches s) (env.saying script) w es (.error e) v) :
    Course (killBatches s [] confirm) (env.saying script) w es (.error e) v :=
  killBatches_eq s [] confirm ▸ h.bind_error

theorem killBatches_killed (hmeant : Meant s ids env script w meant ps u) (hsome : meant ≠ [])
    (hagreed : ¬ Declines env confirm meant u) :
    ∃ k, KillsUpTo s meant (u.hears script) k (ps ++ (questions env confirm meant.length).map .shown)
      ((killBatches s ids confirm).events (env.saying script) w)
      (killBatches s ids confirm (env.saying script) w).1 := by
  obtain ⟨k, ds, r, v, hkills, hupTo, hds, hcode⟩ :=
    killEach_course s env script meant (u.showingAll (questions env confirm meant.length))
  rw [World.hears_showingAll] at hkills hupTo
  have hsaying : ¬ Declines (env.saying script) confirm meant u := hagreed
  have hcourse : Course (killBatches s ids confirm) (env.saying script) w
      (ps ++ (questions env confirm meant.length).map .shown ++ killsUpTo s (u.hears script) meant k ++
        ds.map .shown) r v := by
    rw [List.append_assoc, List.append_assoc]
    exact killBatches_of_meant hmeant (proceed_of_agreed hsome hsaying hkills)
  have hquestions : ∀ d ∈ questions env confirm meant.length, ¬ IsSuccessLine d := by
    cases confirm with
    | true => exact question_quiet env meant.length
    | false => exact nofun
  have hbeside := killsNothing_of_shown (r := .ok ()) _ hmeant.quiet hquestions rfl
  rw [hcourse.events_eq, hcourse.outcome_eq]
  refine ⟨k, hupTo, ⟨ds, rfl, hds⟩, ?_, ?_, hcode⟩
  · rw [List.filterMap_append, List.filterMap_append, hbeside.asked, removals_killsUpTo, removals_shown]
    simp
  · rw [List.filterMap_append, List.filterMap_append, hbeside.told, successes_killsUpTo,
      successes_shown fun d hd => (hds d hd).not_success]
    simp

theorem killBatches_declined (hmeant : Meant s ids env script w meant ps u) (hsome : meant ≠ [])
    (hdeclined : Declines env confirm meant u) :
    KillsNothing ((killBatches s ids confirm).events (env.saying script) w)
      (killBatches s ids confirm (env.saying script) w).1 0 := by
  have hsaying : Declines (env.saying script) confirm meant u := hdeclined
  obtain ⟨v, hdone⟩ := proceed_of_declined s hsome hsaying
  have hcourse := killBatches_of_meant hmeant hdone
  rw [hcourse.events_eq, hcourse.outcome_eq]
  refine killsNothing_of_shown _ hmeant.quiet (fun d hd => ?_) rfl
  rcases List.mem_append.1 hd with hquestion | hline
  · exact question_quiet (env.saying script) meant.length d hquestion
  · obtain rfl := List.mem_singleton.1 hline
    decide

theorem killBatches_unpicked (confirm : Bool) (hmeant : Meant s ids env script w [] ps u) :
    KillsNothing ((killBatches s ids confirm).events (env.saying script) w)
      (killBatches s ids confirm (env.saying script) w).1 0 := by
  have hcourse := killBatches_of_meant hmeant (proceed_nil s confirm (env.saying script) u)
  rw [hcourse.events_eq, hcourse.outcome_eq]
  exact killsNothing_of_shown [warningLine "No batches selected"] hmeant.quiet (by simp; decide) rfl

theorem killBatches_unfound (confirm : Bool) (env : Surroundings Number)
    (h : listing s (w.hears script 0) = .ok []) :
    KillsNothing ((killBatches s [] confirm).events (env.saying script) w)
      (killBatches s [] confirm (env.saying script) w).1 0 := by
  have hcourse := killBatches_of_unknown confirm (chosenBatches_of_none env h)
  rw [hcourse.events_eq, hcourse.outcome_eq]
  exact killsNothing_of_shown [warningLine "No batches found"] (listingEvents_quiet _ _) (by simp; decide) rfl

theorem killBatches_unlisted (confirm : Bool) (env : Surroundings Number) {e : Stop}
    (h : listing s (w.hears script 0) = .error e) :
    KillsNothing ((killBatches s [] confirm).events (env.saying script) w)
      (killBatches s [] confirm (env.saying script) w).1 1 := by
  obtain ⟨ds, e', hdone, hds, hcode⟩ := chosenBatches_of_error env h
  have hcourse := killBatches_of_unknown confirm hdone
  rw [hcourse.events_eq, hcourse.outcome_eq]
  exact killsNothing_of_shown ds (listingEvents_quiet _ _) (fun d hd => (hds d hd).not_success) (hcode Unit)

/-- **The batches are killed in order up to the first that cannot be killed**, once it is known which are
meant and the person agrees. -/
theorem killBatches_inOrder (s : Settings) (ids : List Int) (confirm : Bool) (env : Surroundings Number)
    (script : Nat → Said) (w : World Pages Number) :
    KillsInOrder s ids confirm env script w ((killBatches s ids confirm).events (env.saying script) w)
      (killBatches s ids confirm (env.saying script) w).1 where
  killed _ _ _ hmeant hsome hagreed := killBatches_killed hmeant hsome hagreed
  declined _ _ _ hmeant hsome hdeclined := killBatches_declined hmeant hsome hdeclined
  unpicked _ _ hmeant := killBatches_unpicked confirm hmeant
  unfound hnone hlisting := by
    subst hnone
    exact killBatches_unfound confirm env hlisting
  unlisted e hnone hlisting := by
    subst hnone
    exact killBatches_unlisted confirm env hlisting

/-- Batch 7 is killed, since the code 300 is fine; batch 8 is not, and batch 9 is not asked for. -/
example :
    let s : Settings := { address := "http://livy:8998" }
    let script (k : Nat) : Said := .reply (300 + k) none none
    let env : Surroundings Number := Replies.surroundings {} 9
    let run := killBatches s [7, 8, 9] false (env.saying script) ⟨noPages s, .whole 0, []⟩
    exitCode run.1 = 1 ∧
      run.2.trace.requests.map Request.url = ["http://livy:8998/batches/7", "http://livy:8998/batches/8"] ∧
      run.2.trace.displays.filter (begins "[ok]") = [killedLine 7] := by
  decide +kernel

end Command

end SparkGateway
