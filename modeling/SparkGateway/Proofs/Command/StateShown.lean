import SparkGateway.Proofs.Batch.Inquiries
import SparkGateway.Proofs.Command.Reporting
import SparkGateway.Proofs.Terminal.Watching

/-!
# The command that shows a state

The command that shows the state of a batch asks for it twice: for the word for the state, and again for
whether the batch is alive.  Nothing is kept between the two, so the word that is shown is that of one
answer, and whether the batch is alive is told by a later one.  The two fit together exactly if both
answers agree on whether the batch has come to its end (`showState_shown`), and a batch that comes to its
end in between is shown to run and not to be alive (`showState_not_fitting`).
-/

namespace SparkGateway.Command

open Run Terminal Batch Polling

/-! ## Words for states -/

/-- The words for the states in which a batch has come to its end. -/
def endWords : List String := ["success", "dead", "killed", "error"]

/-- A word names a state in which a batch has come to its end, in any case and with blanks around it. -/
def NamesEnd (word : String) : Prop := Text.lower (Text.trim word) ∈ endWords

instance (word : String) : Decidable (NamesEnd word) := inferInstanceAs (Decidable (_ ∈ _))

theorem isDone_iff {word : String} {state : State} (h : State.parse word = .ok state) :
    state.isDone = true ↔ NamesEnd word := by
  have hword : state.word = Text.lower (Text.trim word) := by
    unfold State.parse at h
    split at h
    · next found hfound =>
        obtain rfl := Except.ok.inj h
        simpa using List.find?_some hfound
    · cases h
  rw [NamesEnd, ← hword]
  cases state <;> decide

/-! ## What is shown -/

/-- The lines for the state of a batch. -/
def stateLines (id : Int) (word alive : String) : List Display :=
  [fieldLine "batch" id.repr, fieldLine "state" word, fieldLine "alive" alive]

/-- Whether a batch is shown to be alive, by the word for its state. -/
def aliveWord (word : String) : String := if NamesEnd word then "no" else "yes"

/-- A word for a state fits to what is shown of whether the batch is alive. -/
def Fits (word alive : String) : Prop := alive = "no" ↔ NamesEnd word

theorem fits_aliveWord_iff (word word' : String) :
    Fits word (aliveWord word') ↔ (NamesEnd word' ↔ NamesEnd word) := by
  have hno : aliveWord word' = "no" ↔ NamesEnd word' := by
    unfold aliveWord
    split_ifs with h
    · exact iff_of_true rfl h
    · exact iff_of_false (by decide) h
  rw [Fits, hno]

theorem showFields_eq (id : Int) (word alive : String) (env : Surroundings Number)
    (w : World Pages Number) :
    showFields [("batch", .int id), ("state", .str word), ("alive", .str alive)] env w =
      (.ok (), w.showingAll (stateLines id word alive)) :=
  showNamed_eq _ env w

/-! ## The two polls -/

/-- The question for the state of a batch. -/
def stateOf (s : Settings) (id : Int) : Inquiry String := stateAt (batchAddress s id)

/-- Two polls for the state of a batch, the second of which begins where the first has left off: the
first stops at the answer `j`, the second at the `k`-th answer after it, and each tells a word. -/
structure PolledTwice (s : Settings) (id : Int) (said : Nat → Answer) (j k : Nat) (word word' : String) :
    Prop where
  first : (stateOf s id).Decides (pollingOf s) said j
  told : (stateOf s id).Tells (said j) (.ok word)
  second : (stateOf s id).Decides (pollingOf s) (fun i => said (j + 1 + i)) k
  toldAgain : (stateOf s id).Tells (said (j + 1 + k)) (.ok word')

/-- The requests and pauses of two polls. -/
def twoPolls (s : Settings) (id : Int) (said : Nat → Answer) (j k : Nat) : List (Event Number) :=
  (pollingOf s).asking (stateOf s id).request said (j + 1) ++
    (pollingOf s).asking (stateOf s id).request (fun i => said (j + 1 + i)) (k + 1)

/-- The work with the gateway: the word for the state, and whether the batch is alive. -/
def statePolls (s : Settings) (id : Int) : Run Pages Number (String × Bool) := do
  let state ← (batchOf s id).pollState
  let alive ← (batchOf s id).isAlive
  return (state, alive)

variable {s : Settings} {id : Int} {env : Surroundings Number} {script : Nat → Said}
  {w u v : World Pages Number} {j k : Nat} {word word' : String}

theorem statePolls_unseen (s : Settings) (id : Int) (env : Surroundings Number) (w : World Pages Number) :
    (statePolls s id env w).2.trace.displays = w.trace.displays := by
  have hplain : Plain Piece (statePolls s id) :=
    .bind (.bind (pollStatus_plain _ _) fun _ => .value _) fun _ =>
      .bind (.bind (pollStatus_plain _ _) fun _ => .bind (.ofFault _) fun _ => .value _) fun _ => .value _
  exact (hplain.closed shows_closed piece_unseen).unseen env w

theorem stateOf_reached (s : Settings) (id : Int) : (stateOf s id).Reached :=
  (seenAt_orderly _ _ _).reached

theorem stateOf_puts (hp : 1 ≤ s.attempts) :
    (stateOf s id).Puts (pollingOf s) ((batchOf s id).pollState : Run Pages Number String) :=
  pollState_puts (batchUrl_batchOf s id) hp

/-- Without an attempt nothing is asked, so there is no word. -/
theorem one_le_attempts_of_ok (h : (batchOf s id).pollState env w = (.ok word, v)) : 1 ≤ s.attempts := by
  by_contra hp
  have hstop : (batchOf s id).pollState env w = (.error (.misuse .noAttempts), w) := by
    unfold pollState pollStatus
    rw [seek_eq_stop _ _ _ (Int.not_le.1 hp)]
    rfl
  exact nomatch hstop.symm.trans h

/-- What a script says after the first poll. -/
theorem hears_after (h : Course (batchOf s id).pollState (env.saying script) w
      ((pollingOf s).asking (stateOf s id).request (w.hears script) (j + 1)) (.ok word) u) :
    u.hears script = fun i => w.hears script (j + 1 + i) := by
  funext i
  rw [h.hears, length_answers_asking]

/-- A batch of whose state a word is known is alive or not as the word says, after the same requests. -/
theorem isAlive_of_pollState (hp : 1 ≤ s.attempts) {es : List (Event Number)}
    (h : Course (batchOf s id).pollState (env.saying script) u es (.ok word') v) {state : State}
    (hstate : State.parse word' = .ok state) :
    ∃ v', Course (batchOf s id).isAlive (env.saying script) u es (.ok !state.isDone) v' := by
  obtain ⟨m, r, v', hcourse, -⟩ := isAlive_puts (batchUrl_batchOf s id) hp env script u
  obtain ⟨hevents, hbeside⟩ := alive_beside (batchUrl_batchOf s id) hp env script u
  have hes := (hcourse.events_eq.symm.trans hevents).trans h.events_eq
  have hr := hcourse.outcome_eq.symm.trans (hbeside.known word' state h.outcome_eq hstate)
  rw [hes, hr] at hcourse
  exact ⟨v', hcourse⟩

/-- Whether a batch is alive is told by a word that names a state. -/
theorem pollState_of_isAlive (hp : 1 ≤ s.attempts) {alive : Bool}
    (h : (batchOf s id).isAlive (env.saying script) u = (.ok alive, v)) :
    ∃ word' state v', (batchOf s id).pollState (env.saying script) u = (.ok word', v') ∧
      State.parse word' = .ok state ∧ alive = !state.isDone := by
  obtain ⟨-, hbeside⟩ := alive_beside (batchUrl_batchOf s id) hp env script u
  rw [h] at hbeside
  obtain ⟨⟨r, v'⟩, hrun⟩ :
    ∃ result, (batchOf s id).pollState (env.saying script) u = result := ⟨_, rfl⟩
  rw [hrun] at hbeside
  cases r with
  | error e =>
      rcases hbeside.failed e rfl with hsame | ⟨n, last, -, hsame⟩
      · exact nomatch hsame
      · exact nomatch hsame
  | ok word' =>
      cases hparse : State.parse word' with
      | error f => exact nomatch (hbeside.unknown word' f rfl hparse).1
      | ok state =>
          exact ⟨word', state, v', hrun, hparse, Except.ok.inj (hbeside.known word' state rfl hparse)⟩

/-- Two polls that tell a word each, the second one the word for a state, give the first word and whether
the second names no end. -/
theorem statePolls_of_polledTwice (env : Surroundings Number)
    (h : PolledTwice s id (w.hears script) j k word word') {state : State}
    (hstate : State.parse word' = .ok state) :
    ∃ v, Course (statePolls s id) (env.saying script) w (twoPolls s id (w.hears script) j k)
      (.ok (word, !state.isDone)) v := by
  have hreached : (j : Int) < s.attempts := h.first.reached
  have hp : 1 ≤ s.attempts := by omega
  obtain ⟨u, hfirst⟩ := (stateOf_puts hp).ok_of_decides (stateOf_reached s id) env h.first h.told
  have hears := hears_after hfirst
  have hdecides : (stateOf s id).Decides (pollingOf s) (u.hears script) k := hears ▸ h.second
  have htells : (stateOf s id).Tells (u.hears script k) (.ok word') := hears ▸ h.toldAgain
  obtain ⟨v, hsecond⟩ := (stateOf_puts hp).ok_of_decides (stateOf_reached s id) env hdecides htells
  obtain ⟨v', halive⟩ := isAlive_of_pollState hp hsecond hstate
  rw [hears] at halive
  have hlast : Course (pure (word, !state.isDone) : Run Pages Number (String × Bool)) (env.saying script) v'
      [] (.ok (word, !state.isDone)) v' := .silent rfl rfl
  have hwhole := hfirst.bind (f := fun state => do
    let alive ← (batchOf s id).isAlive
    return (state, alive)) (halive.bind hlast)
  rw [List.append_nil] at hwhole
  exact ⟨v', hwhole⟩

/-- Whatever the two polls give was told so. -/
theorem polledTwice_of_ok {alive : Bool}
    (h : statePolls s id (env.saying script) w = (.ok (word, alive), v)) :
    ∃ j k word' state, PolledTwice s id (w.hears script) j k word word' ∧
      State.parse word' = .ok state ∧ alive = !state.isDone := by
  obtain ⟨first, u, hfirst, hrest⟩ := bind_eq_ok h
  obtain ⟨second, u', hsecond, hvalue⟩ := bind_eq_ok hrest
  obtain ⟨rfl, rfl⟩ := Prod.mk.inj (Except.ok.inj (Prod.mk.inj hvalue).1)
  have hp := one_le_attempts_of_ok hfirst
  obtain ⟨j, hj, htold, hcourse⟩ := (stateOf_puts hp).decides_of_ok (stateOf_reached s id) env hfirst
  obtain ⟨word', state, v', hagain, hstate, halive⟩ := pollState_of_isAlive hp hsecond
  obtain ⟨k, hk, htold', -⟩ := (stateOf_puts hp).decides_of_ok (stateOf_reached s id) env hagain
  rw [hears_after hcourse] at hk htold'
  exact ⟨j, k, word', state, ⟨hj, htold, hk, htold'⟩, hstate, halive⟩

/-! ## The command -/

/-- The message while the polls go on. -/
def polling : Display := .status "Polling batch..."

theorem aliveWord_of_ok {state : State} (h : State.parse word' = .ok state) :
    (if !state.isDone then "yes" else "no") = aliveWord word' := by
  unfold aliveWord
  cases hdone : state.isDone with
  | true => exact (if_pos ((isDone_iff h).1 hdone)).symm
  | false => exact (if_neg fun hend => Bool.false_ne_true (hdone.symm.trans ((isDone_iff h).2 hend))).symm

theorem showState_course {es : List (Event Number)} {alive : Bool}
    (h : Course (statePolls s id) env (w.showingAll [polling]) es (.ok (word, alive)) v) :
    ∃ v', Course (showState s id) env w (.shown polling :: es ++
      (stateLines id word (if alive then "yes" else "no")).map .shown) (.ok ()) v' := by
  have hfields := Course.shows (showFields_eq id word (if alive then "yes" else "no") env v)
  exact ⟨_, (Course.display polling).bind ((course_orExit h).bind hfields)⟩

theorem showState_of_stop {e : Stop} (h : statePolls s id env (w.showingAll [polling]) = (.error e, v)) :
    ∃ e' ds, showState s id env w = (.error e', v.showingAll ds) ∧
      (v.showingAll ds).trace.displays = w.trace.displays ++ polling :: ds ∧ ∀ d ∈ ds, IsErrorLine d := by
  obtain ⟨ds, e', hrun, hds, -⟩ := orExit_of_stop h
  have hstatus : showStatus "Polling batch..." env w = (.ok (), w.showingAll [polling]) := rfl
  have hshow : showState s id env w = (.error e', v.showingAll ds) :=
    (bind_ok hstatus).trans (bind_error hrun)
  have hunseen := statePolls_unseen s id env (w.showingAll [polling])
  rw [h] at hunseen
  refine ⟨e', ds, hshow, ?_, hds⟩
  rw [World.showingAll_displays, hunseen, World.showingAll_displays, List.append_assoc]
  rfl

/-- What the command shows of a batch, whatever the gateway answers. -/
structure ShowsState (s : Settings) (id : Int) (env : Surroundings Number) (script : Nat → Said)
    (w : World Pages Number) : Prop where
  /-- If the command comes to its end, two polls have told a word each, and it shows the first word and
  whether the batch is alive by the second; so they fit exactly if both words name an end or neither
  does. -/
  shown : (showState s id (env.saying script) w).1 = .ok () → ∃ j k word word',
    PolledTwice s id (w.hears script) j k word word' ∧
      (showState s id).events (env.saying script) w = .shown polling ::
        twoPolls s id (w.hears script) j k ++ (stateLines id word (aliveWord word')).map .shown ∧
      (Fits word (aliveWord word') ↔ (NamesEnd word' ↔ NamesEnd word))
  /-- It comes to its end whenever two polls tell a word each and the second is the word for a state. -/
  reached : ∀ j k word word' state, PolledTwice s id (w.hears script) j k word word' →
    State.parse word' = .ok state → (showState s id (env.saying script) w).1 = .ok ()
  /-- If it does not come to its end, it shows nothing of the batch. -/
  unshown : ∀ e, (showState s id (env.saying script) w).1 = .error e →
    ∃ ds, (showState s id (env.saying script) w).2.trace.displays =
      w.trace.displays ++ polling :: ds ∧ ∀ d ∈ ds, IsErrorLine d

/-- **What the command shows is told by two answers**, whatever the gateway answers to its requests. -/
theorem showState_shown (s : Settings) (id : Int) (env : Surroundings Number) (script : Nat → Said)
    (w : World Pages Number) : ShowsState s id env script w := by
  have hears : (w.showingAll [polling]).hears script = w.hears script := w.hears_showingAll _ script
  obtain ⟨⟨r, v⟩, hpolls⟩ :
    ∃ result, statePolls s id (env.saying script) (w.showingAll [polling]) = result := ⟨_, rfl⟩
  constructor
  · intro hok
    cases r with
    | ok found =>
        obtain ⟨word, alive⟩ := found
        obtain ⟨j, k, word', state, htwice, hstate, halive⟩ := polledTwice_of_ok hpolls
        obtain ⟨u, hcourse⟩ := statePolls_of_polledTwice env htwice hstate
        obtain ⟨u', hwhole⟩ := showState_course hcourse
        rw [aliveWord_of_ok hstate, hears] at hwhole
        rw [hears] at htwice
        exact ⟨j, k, word, word', htwice, hwhole.events_eq, fits_aliveWord_iff word word'⟩
    | error e =>
        obtain ⟨e', ds, hshow, -⟩ := showState_of_stop hpolls
        exact nomatch (congrArg Prod.fst hshow).symm.trans hok
  · intro j k word word' state htwice hstate
    rw [← hears] at htwice
    obtain ⟨u, hcourse⟩ := statePolls_of_polledTwice env htwice hstate
    obtain ⟨u', hwhole⟩ := showState_course hcourse
    exact hwhole.outcome_eq
  · intro e he
    cases r with
    | ok found =>
        obtain ⟨word, alive⟩ := found
        obtain ⟨j, k, word', state, htwice, hstate, -⟩ := polledTwice_of_ok hpolls
        obtain ⟨u, hcourse⟩ := statePolls_of_polledTwice env htwice hstate
        obtain ⟨u', hwhole⟩ := showState_course hcourse
        exact nomatch hwhole.outcome_eq.symm.trans he
    | error e' =>
        obtain ⟨e'', ds, hshow, hdisplays, hds⟩ := showState_of_stop hpolls
        rw [hshow]
        exact ⟨ds, hdisplays, hds⟩

/-- A gateway with a batch that runs at first and then comes to a good end. -/
def endsBetween (k : Nat) : Said :=
  .reply 200 (some (if k = 0 then "\x7b\"id\": 7, \"state\": \"running\"\x7d"
    else "\x7b\"id\": 7, \"state\": \"success\"\x7d")) none

/-- A batch that comes to its end between the two polls is shown to run and not to be alive. -/
theorem showState_not_fitting :
    let s : Settings := { address := "http://livy:8998" }
    let env : Surroundings Number := Replies.surroundings {} 9
    let run := showState s 7 (env.saying endsBetween) ⟨noPages s, .whole 0, []⟩
    run.1.toOption = some () ∧ run.2.trace.displays = polling :: stateLines 7 "running" "no" ∧
      ¬ Fits "running" "no" := by
  intro s env run
  refine ⟨by decide +kernel, by decide +kernel, fun h => ?_⟩
  exact absurd (h.1 rfl) (by decide +kernel)

end SparkGateway.Command
