import SparkGateway.Proofs.Session.Closing

/-!
# Statements wait for their session

A statement is sent to a session only when a look at the session has shown that it takes statements.
Until then the session is looked at again and again, with one pause between two looks, as long as every
look shows that it is still coming.  A look that cannot be read ends the wait, and so does one that shows
a session that is over; nothing is sent then.  The wait is told by `Waits`, look by look, and the
statement follows it, once and as the last thing that is sent (`runStatement_gated`).

A session that does not exist is not looked at.  Nothing that can be done with a session makes such a
session appear to be coming (`Moves.blank`), so waiting for it ends at once.
-/

namespace SparkGateway

namespace Session

open Run

variable {τ : Type} {env : Surroundings τ} {s : Session τ} {m : Memory}

/-- A session in this state may still come to take statements. -/
def State.Coming (state : State) : Prop := state = .starting ∨ state = .recovering

/-- A session in this state takes statements. -/
def State.Ready (state : State) : Prop := state = .idle ∨ state = .busy

instance (state : State) : Decidable state.Coming := inferInstanceAs (Decidable (_ ∨ _))

instance (state : State) : Decidable state.Ready := inferInstanceAs (Decidable (_ ∨ _))

/-- A look at the session under a number, and the answer to it. -/
def look (s : Session τ) (n : Int) (a : Answer) : Event τ := .answered (.get (s.urlOf n)) a

/-- What the answer to a look at the session under a number shows. -/
def shown (s : Session τ) (n : Int) (a : Answer) : Except Stop Snapshot :=
  readIn s.lookRefused (.get (s.urlOf n)) a

/-- The fault of a session that is over, as a snapshot shows it; `log` is its log as one text. -/
def down (s : Session τ) (seen : Snapshot) (log : String) : Fault :=
  let word := seen.state.word
  .sessionDown s!"Session {s.name} is {word}. {log}" seen.logs

/-- A stop for the reason that a session is over, if its log consists of texts. -/
def DownBy (s : Session τ) (seen : Snapshot) (e : Stop) : Prop :=
  ∀ texts : List String, seen.logs = texts.map .str →
    e = .fault (s.down seen ("\n".intercalate texts))

/-- The wait for a session that is known by a number, with at most as many looks as the first argument
says.  It comes to the number by which the session is known when it takes statements. -/
inductive Waits (s : Session τ) (env : Surroundings τ) :
    Nat → Int → List (Event τ) → Except Stop Int → Prop where
  | spent {n : Int} : Waits s env 0 n [] (.error .spent)
  | unread {left : Nat} {n : Int} {a : Answer} {e : Stop} :
      s.shown n a = .error e → Waits s env (left + 1) n [s.look n a] (.error e)
  | ended {left : Nat} {n : Int} {a : Answer} {seen : Snapshot} {e : Stop} :
      s.shown n a = .ok seen → ¬ seen.state.Coming → ¬ seen.state.Ready → s.DownBy seen e →
        Waits s env (left + 1) n [s.look n a] (.error e)
  | ready {left : Nat} {n k : Int} {a : Answer} {seen : Snapshot} :
      s.shown n a = .ok seen → seen.state.Ready → seen.identity = some k →
        Waits s env (left + 1) n [s.look n a] (.ok k)
  | cut {left : Nat} {n : Int} {a : Answer} {seen : Snapshot} {e : Stop} :
      s.shown n a = .ok seen → seen.state.Coming → Halts env e →
        Waits s env (left + 1) n [s.look n a, .paused s.pause] (.error e)
  | again {left : Nat} {n k : Int} {a : Answer} {seen : Snapshot} {es : List (Event τ)}
      {out : Except Stop Int} :
      s.shown n a = .ok seen → seen.state.Coming → seen.identity = some k →
        Waits s env left k es out →
          Waits s env (left + 1) n (s.look n a :: .paused s.pause :: es) out

/-- What running a statement may come to in a session that is known by a number: after the wait the
statement is sent, unless the wait has stopped. -/
def Gated (s : Session τ) (env : Surroundings τ) (statement : Statement) (n : Int)
    (es : List (Event τ)) (r : Except Stop Json.Named) : Prop :=
  ∃ waited sent out, es = waited ++ sent ∧ s.Waits env env.patience n waited out ∧
    (∀ e, out = .error e → sent = [] ∧ r = .error e) ∧
    ∀ k, out = .ok k → Sends statement (s.urlOf k) sent

/-- The answers to documents that were sent. -/
def posts (es : List (Event τ)) : List (Event τ) :=
  es.filter fun
    | .answered q _ => q.method = .post
    | _ => false

/-! ## One look -/

namespace State

theorem isRunnable_iff (state : State) : state.isRunnable = true ↔ state.Ready := by
  cases state <;> simp [isRunnable, Ready]

theorem isOver_iff (state : State) :
    (state.isStopped || state.isFinal) = true ↔ ¬ state.Coming ∧ ¬ state.Ready := by
  cases state <;> simp [isStopped, isFinal, Coming, Ready]

end State

theorem mapM_texts {f : Json → Except Misfit String} (hf : ∀ text, f (.str text) = .ok text)
    (texts : List String) : (texts.map Json.str).mapM f = .ok texts := by
  induction texts with
  | nil => rfl
  | cons text texts ih =>
      rw [List.map_cons, List.mapM_cons, hf, ih]
      rfl

theorem joinTexts_texts (sep : String) (texts : List String) :
    Json.joinTexts sep (texts.map .str) = .ok (sep.intercalate texts) := by
  unfold Json.joinTexts
  rw [mapM_texts fun text => rfl]
  rfl

variable [Timeline τ]

/-- What is made of a snapshot, whether it was just read or is only remembered. -/
def judge (s : Session τ) : Run Memory τ (Run.Round Unit Unit) := do
  let now ← snapshot
  if now.state.isStopped || now.state.isFinal then
    let logs ← Run.ofMisfit (Json.joinTexts "\n" now.logs)
    let word := now.state.word
    Run.fail (.sessionDown s!"Session {s.name} is {word}. {logs}" now.logs)
  if now.state.isRunnable then return .done ()
  Run.sleep s.pause
  return .again ()

theorem readyRound_eq (s : Session τ) : s.readyRound = (do s.refresh; s.judge) := rfl

/-- What may be made of a snapshot. -/
inductive Judged (s : Session τ) (env : Surroundings τ) (seen : Snapshot) :
    List (Event τ) → Except Stop (Run.Round Unit Unit) → Prop where
  | ended {e : Stop} : ¬ seen.state.Coming → ¬ seen.state.Ready → s.DownBy seen e →
      Judged s env seen [] (.error e)
  | ready : seen.state.Ready → Judged s env seen [] (.ok (.done ()))
  | cut {e : Stop} : seen.state.Coming → Halts env e →
      Judged s env seen [.paused s.pause] (.error e)
  | again : seen.state.Coming → Judged s env seen [.paused s.pause] (.ok (.again ()))

theorem judge_leads (s : Session τ) (m : Memory) :
    Leads env s.judge m fun es r m' => m' = m ∧ s.Judged env m.snapshot es r := by
  refine leads_bind_of_eq (a := m.snapshot) (fun w hw => by rw [snapshot_eq, hw]) ?_
  by_cases hover : (m.snapshot.state.isStopped || m.snapshot.state.isFinal) = true
  · obtain ⟨hcoming, hready⟩ := (State.isOver_iff _).1 hover
    rw [if_pos hover]
    cases hlogs : Json.joinTexts "\n" m.snapshot.logs with
    | ok log =>
        refine leads_stop _ ⟨rfl, .ended hcoming hready fun texts htexts => ?_⟩
        rw [htexts, joinTexts_texts] at hlogs
        obtain rfl := Except.ok.inj hlogs
        rfl
    | error misfit =>
        refine leads_stop _ ⟨rfl, .ended hcoming hready fun texts htexts => ?_⟩
        rw [htexts, joinTexts_texts] at hlogs
        cases hlogs
  · rw [if_neg hover]
    by_cases hrunnable : m.snapshot.state.isRunnable = true
    · have hready := (State.isRunnable_iff _).1 hrunnable
      simp only [hrunnable, if_true]
      exact leads_value _ ⟨rfl, .ready hready⟩
    · have hcoming : m.snapshot.state.Coming := by
        have hready := mt (State.isRunnable_iff _).2 hrunnable
        exact Classical.byContradiction fun hcoming =>
          hover ((State.isOver_iff _).2 ⟨hcoming, hready⟩)
      simp only [hrunnable]
      refine ((sleep_does s.pause).leads m).bind ?_ ?_
      · rintro es u m' ⟨rfl, rfl, -⟩
        exact leads_value _ ⟨rfl, .again hcoming⟩
      · rintro es e m' ⟨rfl, rfl, hhalt⟩
        obtain ⟨e', hhalt, he⟩ := hhalt.resolve_left (fun h => by cases h)
        obtain rfl := Except.error.inj he
        exact ⟨rfl, .cut hcoming hhalt⟩

/-- One round of the wait for a session that is known by a number. -/
theorem readyRound_leads {n : Int} (h : m.snapshot.identity = some n) :
    Leads env s.readyRound m fun es r m' => ∃ a,
      (∃ e, s.shown n a = .error e ∧ es = [s.look n a] ∧ r = .error e) ∨
        ∃ fs, s.shown n a = .ok m'.snapshot ∧ es = s.look n a :: fs ∧
          s.Judged env m'.snapshot fs r := by
  rw [readyRound_eq]
  refine (refresh_leads h).bind ?_ ?_
  · rintro es u m' ⟨t, rfl, hread⟩
    rcases hread with ⟨new, hnew, -, rfl⟩ | ⟨e, -, he, -⟩
    · refine (judge_leads s _).mono ?_
      rintro fs r m' ⟨rfl, hjudged⟩
      exact ⟨_, .inr ⟨fs, hnew, rfl, hjudged⟩⟩
    · cases he
  · rintro es e m' ⟨t, rfl, hread⟩
    rcases hread with ⟨new, -, he, -⟩ | ⟨e', hread, he, -⟩
    · cases he
    · obtain rfl := Except.error.inj he
      exact ⟨_, .inl ⟨e, hread, rfl, rfl⟩⟩

/-! ## The wait -/

/-- Work and what is remembered after it agree with a wait that has come to `out`. -/
def Comes (out : Except Stop Int) (r : Except Stop Unit) (m' : Memory) : Prop :=
  r = out.map (fun _ => ()) ∧ ∀ k, out = .ok k → m'.snapshot.identity = some k

theorem readyRounds_leads (left : Nat) {n : Int} (h : m.snapshot.identity = some n) :
    Leads env (roundsWithin (fun () => s.readyRound) left ()) m fun es r m' =>
      ∃ out, s.Waits env left n es out ∧ Comes out r m' := by
  -- The number may change with every look, so it varies along the induction.
  induction left generalizing m n with
  | zero => exact leads_stop .spent ⟨.error .spent, .spent, rfl, fun k hk => nomatch hk⟩
  | succ left ih =>
      refine (readyRound_leads h).bind ?_ ?_
      · rintro es next m' ⟨a, ⟨e, -, -, he⟩ | ⟨fs, hshown, rfl, hjudged⟩⟩
        · cases he
        · obtain ⟨k, hk⟩ := readIn_identity hshown
          cases hjudged with
          | ready hready =>
              refine leads_value () ⟨.ok k, ?_, rfl, fun k' hk' => Except.ok.inj hk' ▸ hk⟩
              exact .ready hshown hready hk
          | again hcoming =>
              refine (ih hk).mono ?_
              rintro gs r m'' ⟨out, hwaits, hcomes⟩
              exact ⟨out, .again hshown hcoming hk hwaits, hcomes⟩
      · rintro es e m' ⟨a, ⟨e', hshown, rfl, he⟩ | ⟨fs, hshown, rfl, hjudged⟩⟩
        · obtain rfl := Except.error.inj he
          exact ⟨.error e, .unread hshown, rfl, fun k hk => nomatch hk⟩
        · refine ⟨.error e, ?_, rfl, fun k hk => nomatch hk⟩
          cases hjudged with
          | ended hcoming hready hdown => exact .ended hshown hcoming hready hdown
          | cut hcoming hhalt => exact .cut hshown hcoming hhalt

theorem awaitReady_leads {n : Int} (h : m.snapshot.identity = some n) :
    Leads env s.awaitReady m fun es r m' =>
      ∃ out, s.Waits env env.patience n es out ∧ Comes out r m' :=
  leads_rounds (readyRounds_leads env.patience h)

omit [Timeline τ] in
/-- Nothing but looks is asked during a wait. -/
theorem Waits.looks {left : Nat} {n : Int} {es : List (Event τ)} {out : Except Stop Int}
    (h : s.Waits env left n es out) : ∀ q a, .answered q a ∈ es → q.method = .get := by
  have hlook : ∀ {q a n a'}, (.answered q a : Event τ) = s.look n a' → q.method = .get := by
    intro q a n a' he
    obtain ⟨rfl, -⟩ := Event.answered.inj he
    rfl
  intro q a hmem
  induction h with
  | spent => cases hmem
  | unread => exact hlook (List.mem_singleton.1 hmem)
  | ended => exact hlook (List.mem_singleton.1 hmem)
  | ready => exact hlook (List.mem_singleton.1 hmem)
  | cut =>
      rcases List.mem_cons.1 hmem with he | hmem
      · exact hlook he
      · exact nomatch List.mem_singleton.1 hmem
  | again _ _ _ _ ih =>
      rcases List.mem_cons.1 hmem with he | hmem
      · exact hlook he
      · rcases List.mem_cons.1 hmem with he | hmem
        · cases he
        · exact ih hmem

/-! ## Running a statement -/

theorem runStatement_leads (statement : Statement) {n : Int} (h : m.snapshot.identity = some n) :
    Leads env (s.runStatement statement) m fun es r _ => s.Gated env statement n es r := by
  refine (awaitReady_leads h).bind ?_ ?_
  · rintro waited u m' ⟨out, hwaits, hout, hidentity⟩
    cases out with
    | error e => cases hout
    | ok k =>
        have hgated : ∀ {sent r}, Sends statement (s.urlOf k) sent →
            s.Gated env statement n (waited ++ sent) r := by
          intro sent r hsends
          refine ⟨waited, sent, .ok k, rfl, hwaits, fun e he => (nomatch he), ?_⟩
          intro k' hk'
          obtain rfl := Except.ok.inj hk'
          exact hsends
        refine leads_bind_of_eq (url_eq (hidentity k rfl)) ?_
        refine (run_sends statement _ s.pause m').bind ?_ ?_
        · rintro sent result m'' ⟨rfl, hsends⟩
          have hsent : ∀ r, s.Gated env statement n (waited ++ (sent ++ [])) r := by
            intro r
            rw [List.append_nil]
            exact hgated hsends
          cases result.ok with
          | false => exact leads_stop _ (hsent _)
          | true =>
              refine ((ofMisfit_silent _).leads m'').mono ?_
              rintro fs r m' ⟨-, rfl, -⟩
              exact hsent r
        · rintro sent e m'' ⟨-, hsends⟩
          exact hgated hsends
  · rintro waited e m' ⟨out, hwaits, hout, -⟩
    cases out with
    | ok k => cases hout
    | error e' =>
        obtain rfl := Except.error.inj hout
        refine ⟨waited, [], .error e, (List.append_nil _).symm, hwaits, ?_, fun k hk => nomatch hk⟩
        intro e' he
        obtain rfl := Except.error.inj he
        exact ⟨rfl, rfl⟩

omit [Timeline τ] in
theorem posts_eq_nil {es : List (Event τ)} (h : ∀ q a, .answered q a ∈ es → q.method = .get) :
    posts es = [] := by
  refine List.filter_eq_nil_iff.2 fun e he hpost => ?_
  cases e with
  | answered q a =>
      have hget := h q a he
      simp [hget] at hpost
  | _ => cases hpost

omit [Timeline τ] in
theorem Gated.posts_le_one {statement : Statement} {n : Int} {es : List (Event τ)}
    {r : Except Stop Json.Named} (h : s.Gated env statement n es r) : (posts es).length ≤ 1 := by
  obtain ⟨waited, sent, out, rfl, hwaits, hstopped, hcome⟩ := h
  have hwaited : posts waited = [] := posts_eq_nil hwaits.looks
  have happend : posts (waited ++ sent) = posts sent := by
    unfold posts at hwaited ⊢
    rw [List.filter_append, hwaited, List.nil_append]
  rw [happend]
  cases out with
  | error e =>
      obtain ⟨rfl, -⟩ := hstopped e rfl
      exact Nat.zero_le 1
  | ok k =>
      obtain ⟨a, later, rfl, hlater⟩ := hcome k rfl
      have hrecords : posts later = [] := by
        refine posts_eq_nil fun q a' hmem => ?_
        obtain ⟨name, rfl⟩ := hlater q a' hmem
        rfl
      have hone : posts (.answered (.post (Statement.listUrl (s.urlOf k)) statement.document) a ::
          later) = .answered (.post (Statement.listUrl (s.urlOf k)) statement.document) a ::
            posts later := List.filter_cons_of_pos rfl
      rw [hone, hrecords]
      exact Nat.le_refl 1

/-! ## Sessions that do not exist -/

/-- A session that does not exist is remembered as one that was never made. -/
def Blank (m : Memory) : Prop := m.snapshot.identity = none → m.snapshot = {}

omit [Timeline τ] in
theorem Moves.blank {m' : Memory} (h : Moves m m') (hblank : Blank m) : Blank m' := by
  induction h with
  | refl => exact hblank
  | tail _ hmove ih =>
      cases hmove with
      | read hidentity => exact fun hnone => nomatch hnone.symm.trans hidentity
      | died hidentity => exact fun hnone => nomatch hnone.symm.trans hidentity
      | closed => exact ih

/-- A world after some work with a session that was made anew, or that exists under a number. -/
def Reached (s : Session τ) (env : Surroundings τ) (w : World Memory τ) : Prop :=
  ∃ (start : World Memory τ) (β : Type) (y : Run Memory τ β),
    (start.memory = {} ∨ ∃ n, start.memory = .attached n) ∧ Composed s.Operation y ∧
      w = (y env start).2

theorem Reached.blank {w : World Memory τ} (h : s.Reached env w) : Blank w.memory := by
  obtain ⟨start, β, y, hstart, hy, rfl⟩ := h
  have hblank : Blank start.memory := by
    rcases hstart with hnew | ⟨n, hattached⟩
    · exact fun _ => congrArg Memory.snapshot hnew
    · intro hnone
      rw [hattached] at hnone
      cases hnone
  have hmoves : Moves start.memory (y env start).2.memory :=
    (operations_moves hy start.memory).holds start rfl
  exact hmoves.blank hblank

theorem readyRound_uncreated (h : m.snapshot = {}) :
    Leads env s.readyRound m fun es r _ => es = [] ∧ r = .error (.fault (s.down {} "")) := by
  rw [readyRound_eq]
  refine (refresh_still (by rw [h])).bind ?_ ?_
  · rintro es u m' ⟨rfl, -, rfl⟩
    refine (judge_leads s _).mono ?_
    rintro fs r m'' ⟨-, hjudged⟩
    rw [h] at hjudged
    cases hjudged with
    | ended _ _ hdown => exact ⟨rfl, congrArg _ (hdown [] rfl)⟩
    | ready hready => exact absurd hready (by decide)
    | cut hcoming => exact absurd hcoming (by decide)
    | again hcoming => exact absurd hcoming (by decide)
  · rintro es e m' ⟨-, he, -⟩
    cases he

theorem awaitReady_uncreated (h : m.snapshot = {}) :
    Leads env s.awaitReady m fun es r _ =>
      es = [] ∧ ∃ e, r = .error e ∧ (0 < env.patience → e = .fault (s.down {} "")) := by
  refine leads_rounds ?_
  cases env.patience with
  | zero => exact leads_stop .spent ⟨rfl, _, rfl, fun hpos => absurd hpos (Nat.lt_irrefl 0)⟩
  | succ left =>
      refine (readyRound_uncreated h).bind ?_ ?_
      · rintro es next m' ⟨-, hnext⟩
        cases hnext
      · rintro es e m' ⟨rfl, he⟩
        exact ⟨rfl, e, rfl, fun _ => Except.error.inj he⟩

theorem runStatement_uncreated (statement : Statement) (h : m.snapshot = {}) :
    Leads env (s.runStatement statement) m fun es r _ =>
      es = [] ∧ (0 < env.patience → r = .error (.fault (s.down {} ""))) := by
  refine (awaitReady_uncreated h).bind ?_ ?_
  · rintro es u m' ⟨-, e, he, -⟩
    cases he
  · rintro es e m' ⟨rfl, e', he, hdown⟩
    obtain rfl := Except.error.inj he
    exact ⟨rfl, fun hpos => congrArg _ (hdown hpos)⟩

/-- A statement is sent at most once, and only after the last look of the wait has shown a session that
takes statements, all others having shown one that is still coming.  A session that does not exist is
asked nothing, and it is down at once. -/
theorem runStatement_gated (s : Session τ) (statement : Statement) (env : Surroundings τ)
    (w : World Memory τ) :
    (posts ((s.runStatement statement).events env w)).length ≤ 1 ∧
      (∀ n, w.memory.snapshot.identity = some n →
        s.Gated env statement n ((s.runStatement statement).events env w)
          ((s.runStatement statement) env w).1) ∧
      (w.memory.snapshot.identity = none →
        (∀ q a, .answered q a ∉ (s.runStatement statement).events env w) ∧
          (s.Reached env w → 0 < env.patience →
            ((s.runStatement statement) env w).1 = .error (.fault (s.down {} "")))) := by
  have hknown : ∀ n, w.memory.snapshot.identity = some n →
      s.Gated env statement n ((s.runStatement statement).events env w)
        ((s.runStatement statement) env w).1 :=
    fun n hn => (runStatement_leads statement hn).holds w rfl
  have hunasked : w.memory.snapshot.identity = none →
      ∀ q a, .answered q a ∉ (s.runStatement statement).events env w :=
    fun hnone => (((work_kept (s.runStatement_work statement) w.memory).holds w rfl).unknown hnone).2
  refine ⟨?_, hknown, fun hnone => ⟨hunasked hnone, fun hreached hpatience => ?_⟩⟩
  · cases hidentity : w.memory.snapshot.identity with
    | none =>
        rw [posts_eq_nil fun q a hmem => absurd hmem (hunasked hidentity q a)]
        exact Nat.zero_le 1
    | some n => exact (hknown n hidentity).posts_le_one
  · exact ((runStatement_uncreated statement (hreached.blank hnone)).holds w rfl).2 hpatience

/-- A server at which the session 7 is starting until there has been a pause, and idle afterwards. -/
def wakingServer : Surroundings Number :=
  let idle := idleServer "\x7b\"id\": 7, \"state\": \"starting\"\x7d"
  { idle with
    answer := fun t q =>
      if t.pauses.isEmpty then .reply 200 (some "\x7b\"id\": 7, \"state\": \"starting\"\x7d") none
      else idle.answer t q }

/-- A statement in a session that has just been created, and in one that has not. -/
theorem runStatement_gated_of_wakingServer :
    let s : Session Number := .behind "http://livy:8998" "probe" .spark (.whole 180) (.whole 1)
    let statement : Statement := { code := "1 + 1" }
    let w₀ : World Memory Number := ⟨{}, .whole 0, []⟩
    let w : World Memory Number := (s.create wakingServer w₀).2
    (((s.runStatement statement) wakingServer w).2.trace.requests.map fun q =>
        (q.method.name, q.url)) =
        [("POST", "http://livy:8998/sessions"), ("GET", "http://livy:8998/sessions/7"),
          ("GET", "http://livy:8998/sessions/7"),
          ("POST", "http://livy:8998/sessions/7/statements")] ∧
      s.Gated wakingServer statement 7 ((s.runStatement statement).events wakingServer w)
        ((s.runStatement statement) wakingServer w).1 ∧
      ((s.runStatement statement) wakingServer w₀).1 = .error (.fault (s.down {} "")) := by
  intro s statement w₀ w
  have hidentity : w.memory.snapshot.identity = some 7 := by decide +kernel
  have hreached : s.Reached wakingServer w₀ := ⟨w₀, Unit, pure (), .inl rfl, .value (), rfl⟩
  refine ⟨by decide +kernel, ?_, ?_⟩
  · exact (runStatement_gated s statement wakingServer w).2.1 7 hidentity
  · exact ((runStatement_gated s statement wakingServer w₀).2.2 rfl).2 hreached (by decide)

end Session

end SparkGateway
