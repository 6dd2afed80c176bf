import SparkGateway.Proofs.Batch.Submission
import SparkGateway.Proofs.Polling.Scripted

/-!
# The inquiries about a batch

Five questions are asked until they are answered: for the state of a batch, whether it is alive, for its
application, and of the resource manager for that application and for its current attempt.  They differ
in what a good reply is read as and in which good replies say nothing yet.

Each does what it is to do along every script, unless the answer at which it stops has a value that does
not fit: for a batch a log without items, for an attempt a number beyond every bound
(`polls_uniformly`).  The two questions for the state go through the same requests and pauses, and differ
only in what becomes of the word for the state.
-/

namespace SparkGateway

open Run Polling

namespace Batch

variable {σ τ α : Type}

/-! ## The questions -/

/-- A question about a batch, whose answer is found in a snapshot. -/
def seenAt (what url : String) (pick : Snapshot → Except Stop (Option α)) : Inquiry α :=
  ⟨what, url, fun found => Snapshot.ofReply found >>= pick⟩

/-- A question for the word for the state of a batch. -/
def wordAt (what url : String) : Inquiry String := seenAt what url fun s => .ok s.state

/-- The question what the state of a batch is. -/
def stateAt (url : String) : Inquiry String := wordAt "get job state" url

/-- Whether the state that a word names is not one in which a batch has come to its end. -/
def lives (word : String) : Except Stop Bool :=
  ((State.parse word).mapError .fault).map fun state => !state.isDone

/-- The question whether a batch is alive. -/
def aliveAt (url : String) : Inquiry Bool := (wordAt "detect job activity" url).further lives

/-- The question for the application that runs a batch. -/
def applicationIdAt (url : String) : Inquiry Json :=
  seenAt "get job application id" url fun s => .ok s.application

/-- The question for what the resource manager knows of an application. -/
def applicationAt (id url : String) : Inquiry Cluster.Application :=
  ⟨s!"get YARN application {id}", url, fun found =>
    ((Cluster.Application.ofReply found).mapError .fault).map some⟩

/-- The question for the attempts of an application. -/
def attemptsAt (id url : String) : Inquiry (List Cluster.Attempt) :=
  ⟨s!"get attempts of {id}", url, fun found => (Cluster.Attempt.listOfReply found).map some⟩

/-- The current one of the attempts of an application. -/
def currentOf (id url : String) (attempts : List Cluster.Attempt) : Except Stop Cluster.Attempt :=
  match Cluster.Attempt.current? attempts with
  | some attempt => .ok attempt
  | none => .error (.fault (.noAttempt s!"No attempt found for application {id} at {url}"))

/-- The question for the current attempt of an application. -/
def attemptAt (id url : String) : Inquiry Cluster.Attempt :=
  (attemptsAt id url).further (currentOf id url)

/-- A good reply lists an attempt with a number beyond every bound, before anything else that is wrong
with the list. -/
def ListsBoundless (q : Request) (a : Answer) : Prop :=
  ∃ found, a.goodReply? q = some found ∧
    Cluster.Attempt.listOfReply found = .error (.misfit .outOfRange)

/-! ## How good replies are read -/

theorem seenAt_orderly (what url : String) (pick : Snapshot → Option α) :
    (seenAt what url fun s => .ok (pick s)).Orderly := by
  intro found e h
  rcases bind_eq_error h with hread | ⟨s, -, hs⟩
  · rcases Snapshot.ofReply_cases found with ⟨s, hok⟩ | ⟨message, hbad⟩ | ⟨hmisfit, -⟩
    · exact nomatch hok.symm.trans hread
    · exact .inl ⟨_, Except.error.inj (hread.symm.trans hbad), trivial⟩
    · exact .inr ⟨_, Except.error.inj (hread.symm.trans hmisfit)⟩
  · cases hs

/-- An answer about a batch does not fit exactly if it names the number of the batch, and with it a log
that has no items. -/
theorem seenAt_breaks_iff (what url : String) (pick : Snapshot → Option α) (a : Answer) :
    (seenAt what url fun s => .ok (pick s)).Breaks a ↔ LosesNumber (.get url) a := by
  constructor
  · rintro ⟨found, m, hgood, hbreaks⟩
    rcases bind_eq_error hbreaks with hread | ⟨s, -, hs⟩
    · rcases Snapshot.ofReply_cases found with ⟨s, hok⟩ | ⟨message, hbad⟩ |
        ⟨-, fields, n, hnumbers, hlog⟩
      · exact nomatch hok.symm.trans hread
      · exact nomatch hbad.symm.trans hread
      · exact ⟨fields, n, ⟨found, hgood, hnumbers⟩, hlog⟩
    · cases hs
  · rintro ⟨fields, n, ⟨found, hgood, hnumbers⟩, hlog⟩
    refine ⟨found, .wrongKind, hgood, ?_⟩
    show Snapshot.ofReply found >>= _ = _
    rw [Snapshot.ofReply_of_numbers hnumbers, Json.itemsIfGiven_of_unlistable hlog]
    rfl

theorem lives_of_ok {word : String} {state : State} (h : State.parse word = .ok state) :
    lives word = .ok !state.isDone := by
  unfold lives
  rw [h]
  rfl

theorem lives_of_error {word : String} {f : Fault} (h : State.parse word = .error f) :
    lives word = .error (.fault f) := by
  unfold lives
  rw [h]
  rfl

theorem lives_told : Inquiry.FailsTold lives := by
  intro word e h
  obtain ⟨f, hf, rfl⟩ := mapError_eq_error (map_eq_error h)
  obtain ⟨message, rfl⟩ := parse_error hf
  exact ⟨_, rfl, trivial⟩

theorem applicationAt_fault {id url : String} {found : Reply} {e : Stop}
    (h : (applicationAt id url).read found = .error e) : ∃ f, e = .fault f ∧ Inquiry.Told f := by
  obtain ⟨f, hf, rfl⟩ := mapError_eq_error (map_eq_error h)
  obtain ⟨message, rfl⟩ := Cluster.Application.ofReply_error hf
  exact ⟨_, rfl, trivial⟩

theorem attemptsAt_orderly (id url : String) : (attemptsAt id url).Orderly := by
  intro found e h
  rcases Cluster.Attempt.listOfReply_error (map_eq_error h) with ⟨message, rfl⟩ | rfl
  · exact .inl ⟨_, rfl, trivial⟩
  · exact .inr ⟨_, rfl⟩

theorem attemptsAt_breaks_iff (id url : String) (a : Answer) :
    (attemptsAt id url).Breaks a ↔ ListsBoundless (.get url) a := by
  constructor
  · rintro ⟨found, m, hgood, hbreaks⟩
    have hread := map_eq_error hbreaks
    rcases Cluster.Attempt.listOfReply_error hread with ⟨message, hfault⟩ | hmisfit
    · cases hfault
    · exact ⟨found, hgood, hmisfit ▸ hread⟩
  · rintro ⟨found, hgood, hread⟩
    exact ⟨found, .outOfRange, hgood, congrArg (Except.map some) hread⟩

theorem currentOf_told (id url : String) : Inquiry.FailsTold (currentOf id url) := by
  intro attempts e h
  unfold currentOf at h
  split at h
  · cases h
  · exact ⟨_, (Except.error.inj h).symm, trivial⟩

theorem attemptAt_orderly (id url : String) : (attemptAt id url).Orderly :=
  (attemptsAt_orderly id url).further (currentOf_told id url)

theorem attemptAt_read_of_ok {id url : String} {found : Reply} {attempts : List Cluster.Attempt}
    (h : Cluster.Attempt.listOfReply found = .ok attempts) :
    (attemptAt id url).read found = (currentOf id url attempts).map some := by
  show finishing _ ((Cluster.Attempt.listOfReply found).map some) = _
  rw [h]
  rfl

theorem attemptAt_read_of_error {id url : String} {found : Reply} {e : Stop}
    (h : Cluster.Attempt.listOfReply found = .error e) : (attemptAt id url).read found = .error e := by
  show finishing _ ((Cluster.Attempt.listOfReply found).map some) = _
  rw [h]
  rfl

/-- A good reply is never "nothing yet" about attempts, not even if it lists none. -/
theorem attemptAt_read_ne_none {id url : String} (found : Reply) :
    (attemptAt id url).read found ≠ .ok none := by
  cases hlist : Cluster.Attempt.listOfReply found with
  | error e =>
      rw [attemptAt_read_of_error hlist]
      nofun
  | ok attempts =>
      rw [attemptAt_read_of_ok hlist]
      cases currentOf id url attempts <;> nofun

theorem attemptAt_decides {τ : Type} {p : Polling τ} {id url : String} {said : Nat → Answer} {k : Nat}
    {found : Reply} (hk : (k : Int) < p.attempts) (hyet : ∀ j < k, (attemptAt id url).NotYet (said j))
    (hgood : (said k).goodReply? (.get url) = some found) : (attemptAt id url).Decides p said k := by
  refine ⟨hk, hyet, fun hnot => ?_⟩
  rw [← Inquiry.notYet_outcome_iff (attemptAt_orderly id url).reached,
    Inquiry.outcome_of_goodReply (q := attemptAt id url) hgood] at hnot
  rcases notYet_iff.1 hnot with hnone | ⟨message, hlost⟩
  · exact attemptAt_read_ne_none found hnone
  · exact (attemptAt_orderly id url).reached found message hlost

/-! ## The work that puts the questions -/

theorem seenAt_further {β : Type} (what url : String) (pick : Snapshot → Except Stop (Option α))
    (finish : α → Except Stop β) :
    (seenAt what url pick).further finish = seenAt what url fun s => finishing finish (pick s) := by
  unfold seenAt Inquiry.further finishing
  congr 1
  funext found
  exact bind_assoc _ _ _

theorem outcome_seenAt (what url : String) (pick : Snapshot → Option α) :
    (seenAt what url fun s => .ok (pick s)).outcome =
      fun a => statusIn url a >>= fun found => .ok (found.bind pick) := by
  funext a
  unfold Inquiry.outcome statusIn
  rw [bind_assoc]
  refine congrArg (a.looked (.get url) >>= ·) (funext fun found => ?_)
  cases found with
  | none => rfl
  | some found =>
      show Snapshot.ofReply found >>= _ = (Snapshot.ofReply found).map some >>= _
      cases Snapshot.ofReply found <;> rfl

variable [Timeline τ] {b : Batch τ} {c : Cluster τ} {p : Polling τ} {id url : String}

theorem seek_puts (hurl : b.batchUrl = .ok url) (hp : 1 ≤ b.polling.attempts) (what : String)
    (pick : Snapshot → Option α) :
    (seenAt what url fun s => .ok (pick s)).Puts b.polling (σ := σ) (b.polling.seek what do
      match ← b.status with
      | some snapshot => return pick snapshot
      | none => return none) := by
  refine Inquiry.puts_of_reads hp fun env => ?_
  rw [outcome_seenAt]
  refine (status_reads hurl).reads_bind fun found => ?_
  cases found with
  | none => exact value_silent none
  | some snapshot => exact value_silent (pick snapshot)

/-- The question for a snapshot that names a state, and for the word for that state. -/
def shownAt (what url : String) : Inquiry (Snapshot × String) :=
  seenAt what url fun s => .ok (s.state.map fun word => (s, word))

omit [Timeline τ] in
theorem shownAt_further (what url : String) (finish : String → Except Stop α) :
    (shownAt what url).further (fun v => finish v.2) = (wordAt what url).further finish := by
  rw [shownAt, wordAt, seenAt_further, seenAt_further]
  refine congrArg (seenAt what url) (funext fun s => ?_)
  cases s.state <;> rfl

theorem pollStatus_puts (hurl : b.batchUrl = .ok url) (hp : 1 ≤ b.polling.attempts) (what : String) :
    (shownAt what url).Puts b.polling (b.pollStatus what : Run σ τ (Snapshot × String)) :=
  seek_puts hurl hp what _

theorem pollState_puts (hurl : b.batchUrl = .ok url) (hp : 1 ≤ b.polling.attempts) :
    (stateAt url).Puts b.polling (b.pollState : Run σ τ String) := by
  rw [← (stateAt url).further_ok, stateAt, ← shownAt_further]
  exact (pollStatus_puts hurl hp _).further (fun env v => value_silent _) fun v e => nofun

theorem isAlive_puts (hurl : b.batchUrl = .ok url) (hp : 1 ≤ b.polling.attempts) :
    (aliveAt url).Puts b.polling (b.isAlive : Run σ τ Bool) := by
  rw [aliveAt, ← shownAt_further]
  refine (pollStatus_puts hurl hp _).further (fun env v => ?_) fun v => lives_told v.2
  obtain ⟨snapshot, word⟩ := v
  refine (ofFault_silent (State.parse word)).silent_bind (fun state hstate => ?_) fun e he => ?_
  · have hlives : lives word = .ok !state.isDone := congrArg (Except.map _) hstate
    dsimp only
    rw [hlives]
    exact value_silent _
  · have hlives : lives word = .error e := congrArg (Except.map _) he
    dsimp only
    rw [hlives]
    exact ⟨rfl, rfl⟩

theorem applicationId_puts (hurl : b.batchUrl = .ok url) (hp : 1 ≤ b.polling.attempts) :
    (applicationIdAt url).Puts b.polling (b.application : Run σ τ Json) :=
  seek_puts hurl hp _ _

theorem application_puts (hurl : c.applicationUrl id = .ok url) (hp : 1 ≤ p.attempts) :
    (applicationAt id url).Puts p (c.application p id : Run σ τ Cluster.Application) := by
  unfold Cluster.application
  rw [hurl]
  refine Inquiry.puts_of_reads hp fun env => (lookUp_reads url).reads_bind fun found => ?_
  cases found with
  | none => exact value_silent none
  | some found =>
      have hread : (applicationAt id url).read found =
          ((Cluster.Application.ofReply found).mapError .fault).map some := rfl
      dsimp only
      rw [hread]
      refine (ofFault_silent (Cluster.Application.ofReply found)).silent_bind (fun application h => ?_)
        fun e he => ?_
      · rw [h]
        exact value_silent _
      · rw [he]
        exact ⟨rfl, rfl⟩

theorem attempts_puts (hp : 1 ≤ p.attempts) :
    (attemptsAt id url).Puts p (Cluster.attempts p url id : Run σ τ (List Cluster.Attempt)) := by
  refine Inquiry.puts_of_reads hp fun env => (lookUp_reads url).reads_bind fun found => ?_
  cases found with
  | none => exact value_silent none
  | some found =>
      have hread : (attemptsAt id url).read found = (Cluster.Attempt.listOfReply found).map some := rfl
      dsimp only
      rw [hread]
      refine (ofStop_silent (Cluster.Attempt.listOfReply found)).silent_bind (fun attempts h => ?_)
        fun e he => ?_
      · rw [h]
        exact value_silent _
      · rw [he]
        exact ⟨rfl, rfl⟩

theorem currentAttempt_puts (hurl : c.attemptsUrl id = .ok url) (hp : 1 ≤ p.attempts) :
    (attemptAt id url).Puts p (c.currentAttempt p id : Run σ τ Cluster.Attempt) := by
  unfold Cluster.currentAttempt
  rw [hurl]
  refine (attempts_puts hp).further (fun env attempts => ?_) (currentOf_told id url)
  unfold currentOf
  cases Cluster.Attempt.current? attempts with
  | none => exact stop_silent _
  | some attempt => exact value_silent attempt

/-! ## All questions -/

/-- What becomes of the question whether a batch is alive, next to the question for its state: a failure
is the same, up to what exhausted attempts were for, and a word tells what state it names. -/
structure AliveBeside (r : Except Stop String) (r' : Except Stop Bool) : Prop where
  failed : ∀ e, r = .error e → SameBut "get job state" "detect job activity" (.error e) r'
  known : ∀ word state, r = .ok word → State.parse word = .ok state → r' = .ok !state.isDone
  unknown : ∀ word f, r = .ok word → State.parse word = .error f →
    r' = .error (.fault f) ∧ ∃ message, f = .malformed message none none

/-- The five questions do what they are to do along a script, unless an answer does not fit. -/
structure PollsUniformly (b : Batch τ) (c : Cluster τ) (id : String) (env : Surroundings τ)
    (script : Nat → Said) (w : World σ τ) : Prop where
  state : ∀ url, b.batchUrl = .ok url →
    ((stateAt url).Kept b.polling b.pollState env script w ↔
      ∀ k, (stateAt url).Decides b.polling (w.hears script) k →
        ¬ LosesNumber (.get url) (w.hears script k))
  alive : ∀ url, b.batchUrl = .ok url →
    ((aliveAt url).Kept b.polling b.isAlive env script w ↔
      ∀ k, (aliveAt url).Decides b.polling (w.hears script) k →
        ¬ LosesNumber (.get url) (w.hears script k))
  applicationId : ∀ url, b.batchUrl = .ok url →
    ((applicationIdAt url).Kept b.polling b.application env script w ↔
      ∀ k, (applicationIdAt url).Decides b.polling (w.hears script) k →
        ¬ LosesNumber (.get url) (w.hears script k))
  application : ∀ url, c.applicationUrl id = .ok url →
    (applicationAt id url).Kept b.polling (c.application b.polling id) env script w
  attempt : ∀ url, c.attemptsUrl id = .ok url →
    ((attemptAt id url).Kept b.polling (c.currentAttempt b.polling id) env script w ↔
      ∀ k, (attemptAt id url).Decides b.polling (w.hears script) k →
        ¬ ListsBoundless (.get url) (w.hears script k))
  /-- An empty list of attempts ends the question for the current one at once. -/
  empty : ∀ url (k : Nat) found, c.attemptsUrl id = .ok url → (k : Int) < b.polling.attempts →
    (∀ j < k, (attemptAt id url).NotYet (w.hears script j)) →
    (w.hears script k).goodReply? (.get url) = some found → Cluster.Attempt.listOfReply found = .ok [] →
      (c.currentAttempt b.polling id).events (env.saying script) w =
          b.polling.asking (.get url) (w.hears script) (k + 1) ∧
        (c.currentAttempt b.polling id (env.saying script) w).1 =
          .error (.fault (.noAttempt s!"No attempt found for application {id} at {url}"))
  /-- The two questions for the state go through the same requests and pauses. -/
  beside : ∀ url, b.batchUrl = .ok url →
    b.isAlive.events (env.saying script) w = b.pollState.events (env.saying script) w ∧
      AliveBeside (b.pollState (env.saying script) w).1 (b.isAlive (env.saying script) w).1

theorem alive_beside (hurl : b.batchUrl = .ok url) (hp : 1 ≤ b.polling.attempts) (env : Surroundings τ)
    (script : Nat → Said) (w : World σ τ) :
    b.isAlive.events (env.saying script) w = b.pollState.events (env.saying script) w ∧
      AliveBeside (b.pollState (env.saying script) w).1 (b.isAlive (env.saying script) w).1 := by
  obtain ⟨m, r, v, hcourse, hconcluded⟩ := pollState_puts hurl hp env script w
  obtain ⟨m', r', v', hcourse', hconcluded'⟩ := isAlive_puts hurl hp env script w
  have hfinish := hconcluded.finish lives_told.ne_unreachable
  have hsame : (fun j => finishing lives ((stateAt url).outcome (w.hears script j))) =
      fun j => (aliveAt url).outcome (w.hears script j) :=
    funext fun j => ((wordAt "detect job activity" url).outcome_further lives _).symm
  rw [hsame] at hfinish
  obtain ⟨rfl, hbut⟩ := hfinish.unique hconcluded'
  rw [hcourse.events_eq, hcourse'.events_eq, hcourse.outcome_eq, hcourse'.outcome_eq]
  refine ⟨rfl, ?_, ?_, ?_⟩
  · rintro e rfl
    exact hbut
  · rintro word state rfl hstate
    rw [show (Except.ok word >>= lives) = lives word from pure_bind word lives,
      lives_of_ok hstate] at hbut
    rcases hbut with rfl | ⟨n, last, hexhausted, -⟩
    · rfl
    · cases hexhausted
  · rintro word f rfl hf
    obtain ⟨message, rfl⟩ := parse_error hf
    rw [show (Except.ok word >>= lives) = lives word from pure_bind word lives,
      lives_of_error hf] at hbut
    rcases hbut with rfl | ⟨n, last, hexhausted, -⟩
    · exact ⟨rfl, message, rfl⟩
    · cases hexhausted

omit [Timeline τ] in
/-- An empty list of attempts is not "nothing yet". -/
theorem empty_decides (p : Polling τ) {said : Nat → Answer} {k : Nat} {found : Reply}
    (hk : (k : Int) < p.attempts) (hyet : ∀ j < k, (attemptAt id url).NotYet (said j))
    (hgood : (said k).goodReply? (.get url) = some found)
    (hempty : Cluster.Attempt.listOfReply found = .ok []) :
    (attemptAt id url).Decides p said k ∧ (attemptAt id url).read found =
      .error (.fault (.noAttempt s!"No attempt found for application {id} at {url}")) :=
  ⟨attemptAt_decides hk hyet hgood, attemptAt_read_of_ok hempty⟩

/-- Along every script, and with at least one attempt, the five questions read the answers in order,
stop at the first that is not "nothing yet" and come to what it tells, unless that answer is one that does
not fit; the question whether a batch is alive goes beside the question for its state. -/
theorem polls_uniformly (b : Batch τ) (hp : 1 ≤ b.polling.attempts) (c : Cluster τ) (id : String)
    (env : Surroundings τ) (script : Nat → Said) (w : World σ τ) :
    PollsUniformly b c id env script w := by
  constructor
  · intro url hurl
    rw [(pollState_puts hurl hp).kept_iff (seenAt_orderly _ _ _)]
    simp only [stateAt, wordAt, seenAt_breaks_iff]
  · intro url hurl
    rw [(isAlive_puts hurl hp).kept_iff ((seenAt_orderly _ _ _).further lives_told)]
    simp only [aliveAt, wordAt, Inquiry.breaks_further_iff lives_told, seenAt_breaks_iff]
  · intro url hurl
    rw [(applicationId_puts hurl hp).kept_iff (seenAt_orderly _ _ _)]
    simp only [applicationIdAt, seenAt_breaks_iff]
  · intro url hurl
    have horderly : (applicationAt id url).Orderly := fun found e h => .inl (applicationAt_fault h)
    refine ((application_puts hurl hp).kept_iff horderly env script w).2 ?_
    rintro k - ⟨found, m, -, hbreaks⟩
    obtain ⟨f, hf, -⟩ := applicationAt_fault hbreaks
    cases hf
  · intro url hurl
    rw [(currentAttempt_puts hurl hp).kept_iff (attemptAt_orderly id url)]
    simp only [attemptAt, Inquiry.breaks_further_iff (currentOf_told id url), attemptsAt_breaks_iff]
  · intro url k found hurl hk hyet hgood hempty
    obtain ⟨hdecides, hread⟩ := empty_decides b.polling hk hyet hgood hempty
    obtain ⟨hevents, found', hgood', houtcome⟩ :=
      (currentAttempt_puts hurl hp).at_decision (attemptAt_orderly id url).reached env hdecides
    obtain rfl := Option.some.inj (hgood'.symm.trans hgood)
    refine ⟨hevents, ?_⟩
    exact map_eq_error (houtcome.symm.trans hread)
  · exact fun url hurl => alive_beside hurl hp env script w

/-- The batch 7 at a gateway. -/
def seventh : Batch Number := .attached "http://livy:8998/batches" 7 none ⟨3, .whole 5⟩

/-- A connection that fails, and then a batch that runs. -/
def runningLate (k : Nat) : Said :=
  if k = 0 then .broken "down"
  else .reply 200 (some "\x7b\"id\": 7, \"state\": \"running\"\x7d") none

theorem polls_uniformly_of_runningLate :
    let c : Cluster Number := .on "http://livy:8998/batches" "/yarnui" (.whole 3)
    let env : Surroundings Number := Replies.surroundings {} 9
    let w : World Unit Number := ⟨(), .whole 0, []⟩
    (1 ≤ seventh.polling.attempts ∧
        (seventh.pollState (env.saying runningLate) w).1.toOption = some "running" ∧
        (seventh.isAlive (env.saying runningLate) w).1.toOption = some true) ∧
      PollsUniformly seventh c "application_1_0001" env runningLate w := by
  intro c env w
  refine ⟨⟨by decide, by decide +kernel, by decide +kernel⟩, ?_⟩
  exact polls_uniformly seventh (by decide) c "application_1_0001" env runningLate w

/-- A service that shows a batch at work, with a number for a log. -/
def runningUnlisted (_ : Nat) : Said :=
  .reply 200 (some "\x7b\"id\": 7, \"state\": \"running\", \"log\": 5\x7d") none

/-- The question for the state of a batch ends in a misfit, although its answer names the state. -/
theorem pollState_not_kept :
    let env : Surroundings Number := Replies.surroundings {} 9
    let w : World Unit Number := ⟨(), .whole 0, []⟩
    ∃ url, seventh.batchUrl = .ok url ∧
      (∃ m, (seventh.pollState (env.saying runningUnlisted) w).1 = .error (.misfit m)) ∧
      ¬ (stateAt url).Kept seventh.polling seventh.pollState env runningUnlisted w := by
  intro env w
  obtain ⟨url, hurl⟩ : ∃ url, seventh.batchUrl = .ok url := ⟨_, rfl⟩
  refine ⟨url, hurl, ?_⟩
  let fields : Json.Fields := [("id", .int 7), ("state", .str "running"), ("log", .int 5)]
  have hnumbers : (w.hears runningUnlisted 0).Numbers (.get url) fields 7 :=
    ⟨_, rfl, Reply.document_of_same (by decide +kernel), rfl⟩
  have hloses : LosesNumber (.get url) (w.hears runningUnlisted 0) :=
    ⟨fields, 7, hnumbers, .inr ⟨.whole 5, rfl, by decide⟩⟩
  have hputs : (stateAt url).Puts seventh.polling (seventh.pollState : Run Unit Number String) :=
    pollState_puts hurl (by decide)
  have horderly : (stateAt url).Orderly := seenAt_orderly _ _ _
  have hbreaks : (stateAt url).Breaks (w.hears runningUnlisted 0) := (seenAt_breaks_iff _ _ _ _).2 hloses
  have hdecides : (stateAt url).Decides seventh.polling (w.hears runningUnlisted) 0 :=
    ⟨by decide, by omega, hbreaks.not_notYet horderly.reached⟩
  refine ⟨?_, fun hkept => (hputs.kept_iff horderly env _ w).1 hkept 0 hdecides hbreaks⟩
  obtain ⟨-, found, hgood, hread⟩ := hputs.at_decision horderly.reached env hdecides
  obtain ⟨found', m, hgood', hmisfit⟩ := hbreaks
  obtain rfl := Option.some.inj (hgood'.symm.trans hgood)
  exact ⟨m, map_eq_error (hread.symm.trans hmisfit)⟩

end Batch

end SparkGateway
