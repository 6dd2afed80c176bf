import Mathlib.Logic.Relation
import SparkGateway.Session.Work
import SparkGateway.Proofs.Exchange.Answers
import SparkGateway.Proofs.Exchange.Composed

/-!
# What the operations of a session do

Each operation is told by the request that it makes, if it makes one, and by what becomes of the memory.
Creating a session and looking at it read a whole snapshot or nothing; killing it changes the state in
the snapshot, and closing it kills it at most once.  All other work in a session is composed of these
operations, of pauses and of requests for statements.

What an operation may do that neither creates nor ends a session is told once (`Did`).  So what is
remembered of a session changes only in a few ways (`Move`), whatever is done with it.
-/

namespace SparkGateway

namespace Session

open Run

variable {τ α : Type} {env : Surroundings τ} {s : Session τ} {m : Memory}

/-- Work that makes no step and leaves the memory as it was. -/
def Still (m : Memory) (es : List (Event τ)) (r : Except Stop Unit) (m' : Memory) : Prop :=
  es = [] ∧ r = .ok () ∧ m' = m

/-- What an answer comes to in which a snapshot is expected; `refusal` is the fault of a reply whose
code is not good. -/
def readIn (refusal : Reply → Fault) (q : Request) (a : Answer) : Except Stop Snapshot :=
  a.outcome q >>= fun found =>
    if found.ok then Snapshot.ofReply found else .error (.fault (refusal found))

/-- What work may come to that makes one request and replaces the snapshot by what it reads, or leaves
the memory as it was. -/
def Replaced (env : Surroundings τ) (refusal : Reply → Fault) (q : Request) (m : Memory)
    (es : List (Event τ)) (r : Except Stop Unit) (m' : Memory) : Prop :=
  ∃ t, es = [.answered q (env.answer t q)] ∧
    ((∃ snapshot, readIn refusal q (env.answer t q) = .ok snapshot ∧ r = .ok () ∧
        m' = { m with snapshot := snapshot }) ∨
      ∃ e, readIn refusal q (env.answer t q) = .error e ∧ r = .error e ∧ m' = m)

/-- The request that creates the session. -/
def creation (s : Session τ) : Request := .post s.listUrl s.document

/-- The fault of a reply that does not create the session. -/
def creationRefused (s : Session τ) (found : Reply) : Fault :=
  found.refused .submission s!"Failed to create session {s.name}"

/-- The fault of a reply to a look at the session. -/
def lookRefused (s : Session τ) (found : Reply) : Fault :=
  found.refused .request s!"Failed to get session {s.name}"

/-- What an answer comes to for work that kills the session. -/
def killedIn (s : Session τ) (q : Request) (a : Answer) : Except Stop Unit :=
  a.outcome q >>= fun found =>
    if found.code > 300 then .error (.fault (found.refused .kill s!"Failed to kill session {s.name}"))
    else .ok ()

/-- What is remembered after the kill of a session has come to an outcome. -/
def Memory.afterKill (m : Memory) : Except Stop Unit → Memory
  | .ok _ => { m with snapshot := { m.snapshot with state := .dead } }
  | .error _ => m

theorem Memory.afterKill_closed (m : Memory) (r : Except Stop Unit) :
    (m.afterKill r).closed = m.closed := by
  cases r <;> rfl

theorem Memory.afterKill_identity (m : Memory) (r : Except Stop Unit) :
    (m.afterKill r).snapshot.identity = m.snapshot.identity := by
  cases r <;> rfl

/-- What the kill of a session with a number may come to. -/
def Killed (env : Surroundings τ) (s : Session τ) (n : Int) (m : Memory) (es : List (Event τ))
    (r : Except Stop Unit) (m' : Memory) : Prop :=
  ∃ t, es = [.answered (.delete (s.urlOf n)) (env.answer t (.delete (s.urlOf n)))] ∧
    r = s.killedIn (.delete (s.urlOf n)) (env.answer t (.delete (s.urlOf n))) ∧
      m' = m.afterKill r

/-- A snapshot is read from a good reply as a whole. -/
theorem readIn_eq_ok_iff {refusal : Reply → Fault} {q : Request} {a : Answer} {new : Snapshot} :
    readIn refusal q a = .ok new ↔
      ∃ found, a.goodReply? q = some found ∧ Snapshot.ofReply found = .ok new := by
  unfold readIn Answer.goodReply?
  cases a.outcome q with
  | error e => exact ⟨nofun, fun ⟨_, hgood, _⟩ => nomatch hgood⟩
  | ok found =>
      cases hok : found.ok with
      | false => simp [bind, Except.bind, hok]
      | true => simp [bind, Except.bind, hok]

theorem readIn_identity {refusal : Reply → Fault} {q : Request} {a : Answer} {new : Snapshot}
    (h : readIn refusal q a = .ok new) :
    ∃ n, new.identity = some n := by
  obtain ⟨found, -, hread⟩ := readIn_eq_ok_iff.1 h
  unfold Snapshot.ofReply at hread
  cases hdocument : found.document with
  | error f =>
      rw [hdocument] at hread
      cases hread
  | ok v =>
      rw [hdocument] at hread
      exact Snapshot.ofJson_identity found v new hread

/-! ## Single operations -/

theorem snapshot_eq (env : Surroundings τ) (w : World Memory τ) :
    (snapshot : Run Memory τ Snapshot) env w = (.ok w.memory.snapshot, w) := rfl

theorem replace_leads (new : Snapshot) :
    Leads env (replace new : Run Memory τ Unit) m fun es r m' =>
      es = [] ∧ r = .ok () ∧ m' = { m with snapshot := new } := by
  refine leads_bind_of_eq (a := m) (fun w hw => hw ▸ rfl) ?_
  exact leads_remember ⟨rfl, rfl, rfl⟩

theorem number_eq {n : Int} (h : m.snapshot.identity = some n) (w : World Memory τ)
    (hw : w.memory = m) :
    s.number env w = (.ok n, w) := by
  unfold number
  rw [bind_ok (snapshot_eq env w), hw, h]
  rfl

theorem url_eq {n : Int} (h : m.snapshot.identity = some n) (w : World Memory τ)
    (hw : w.memory = m) :
    s.url env w = (.ok (s.urlOf n), w) :=
  bind_ok (number_eq h w hw)

/-- The fault of work that needs the number of a session that does not exist. -/
def uncreated (s : Session τ) : Fault :=
  .sessionDown s!"{s.name} isn't created. Call create() before getting its ID." []

theorem url_uncreated (h : m.snapshot.identity = none) (w : World Memory τ) (hw : w.memory = m) :
    s.url env w = (.error (.fault s.uncreated), w) := by
  have hnumber : s.number env w = (.error (.fault s.uncreated), w) := by
    unfold number
    rw [bind_ok (snapshot_eq env w), hw, h]
    rfl
  exact bind_error hnumber

/-- Asking for a snapshot and keeping it, which is what creating a session and looking at it have in
common. -/
theorem replaced_leads {refusal : Reply → Fault} {q : Request} {f : Reply → Snapshot → Run Memory τ Unit}
    (hf : ∀ found new n, new.identity = some n →
      Leads env (f found new) m fun es r m' =>
        es = [] ∧ r = .ok () ∧ m' = { m with snapshot := new }) :
    Leads env (do
      let found ← Run.ask q
      if !found.ok then Run.fail (refusal found)
      let new ← Run.ofStop (Snapshot.ofReply found)
      f found new) m (Replaced env refusal q m) := by
  refine ((ask_reads q).leads m).bind ?_ ?_
  · rintro es found m' ⟨rfl, t, rfl, hfound⟩
    have hread : readIn refusal q (env.answer t q) =
        if found.ok then Snapshot.ofReply found else .error (.fault (refusal found)) := by
      unfold readIn
      rw [← hfound]
      rfl
    cases hok : found.ok with
    | false =>
        simp only [hok] at hread
        exact leads_stop _ ⟨t, rfl, .inr ⟨_, hread, rfl, rfl⟩⟩
    | true =>
        simp only [hok] at hread
        refine ((ofStop_silent (Snapshot.ofReply found)).leads m').bind ?_ ?_
        · rintro es new m'' ⟨rfl, rfl, hnew⟩
          rw [← hnew] at hread
          obtain ⟨n, hn⟩ := readIn_identity hread
          refine (hf found new n hn).mono ?_
          rintro es r m' ⟨rfl, rfl, rfl⟩
          exact ⟨t, rfl, .inl ⟨new, hread, rfl, rfl⟩⟩
        · rintro es e m'' ⟨rfl, rfl, hnew⟩
          rw [← hnew] at hread
          exact ⟨t, rfl, .inr ⟨e, hread, rfl, rfl⟩⟩
  · rintro es e m' ⟨rfl, t, rfl, he⟩
    refine ⟨t, rfl, .inr ⟨e, ?_, rfl, rfl⟩⟩
    unfold readIn
    rw [← he]
    rfl

theorem create_leads :
    Leads env s.create m (Replaced env s.creationRefused s.creation m) := by
  refine replaced_leads fun found new n hn => ?_
  refine (replace_leads new).bind ?_ ?_
  · rintro es u m' ⟨rfl, -, rfl⟩
    refine leads_bind_of_eq (number_eq hn) ?_
    refine ((note_silent _ _).leads _).mono ?_
    rintro es r m' ⟨rfl, rfl, rfl⟩
    exact ⟨rfl, rfl, rfl⟩
  · rintro es e m' ⟨-, he, -⟩
    cases he

theorem refresh_leads {n : Int} (h : m.snapshot.identity = some n) :
    Leads env s.refresh m (Replaced env s.lookRefused (.get (s.urlOf n)) m) := by
  refine leads_bind_of_eq (a := m.snapshot) (fun w hw => by rw [snapshot_eq, hw]) ?_
  rw [h]
  exact replaced_leads fun _ new _ _ => replace_leads new

theorem refresh_still (h : m.snapshot.identity = none) : Leads env s.refresh m (Still m) :=
  leads_of_eq (fun w hw => s.refresh_uncreated env w (hw ▸ h)) ⟨rfl, rfl, rfl⟩

theorem kill_still (h : m.snapshot.identity = none) : Leads env s.kill m (Still m) :=
  leads_of_eq (fun w hw => s.kill_uncreated env w (hw ▸ h)) ⟨rfl, rfl, rfl⟩

theorem kill_leads {n : Int} (h : m.snapshot.identity = some n) :
    Leads env s.kill m (Killed env s n m) := by
  refine leads_bind_of_eq (a := m.snapshot) (fun w hw => by rw [snapshot_eq, hw]) ?_
  rw [h]
  refine ((ask_reads _).leads m).bind ?_ ?_
  · rintro es found m' ⟨rfl, t, rfl, hfound⟩
    have hkilled : s.killedIn (.delete (s.urlOf n)) (env.answer t (.delete (s.urlOf n))) =
        if found.code > 300 then
          .error (.fault (found.refused .kill s!"Failed to kill session {s.name}"))
        else .ok () := by
      unfold killedIn
      rw [← hfound]
      rfl
    by_cases hcode : found.code > 300
    · rw [if_pos hcode] at hkilled
      rw [if_pos hcode]
      exact leads_stop _ ⟨t, rfl, hkilled.symm, rfl⟩
    · rw [if_neg hcode] at hkilled
      rw [if_neg hcode]
      refine leads_bind_of_eq (a := m'.snapshot) (fun w hw => by rw [snapshot_eq, hw]) ?_
      refine (replace_leads _).bind ?_ ?_
      · rintro es u m'' ⟨rfl, -, rfl⟩
        refine ((note_silent _ _).leads _).mono ?_
        rintro es r m'' ⟨rfl, rfl, rfl⟩
        exact ⟨t, rfl, hkilled.symm, rfl⟩
      · rintro es e m'' ⟨-, he, -⟩
        cases he
  · rintro es e m' ⟨rfl, t, rfl, he⟩
    refine ⟨t, rfl, ?_, rfl⟩
    unfold killedIn
    rw [← he]
    rfl

/-- What the closing of a session may come to. -/
def Closed (env : Surroundings τ) (s : Session τ) (m : Memory) (es : List (Event τ))
    (r : Except Stop Unit) (m' : Memory) : Prop :=
  if m.closed then Still m es r m'
  else match m.snapshot.identity with
    | none => es = [] ∧ r = .ok () ∧ m' = { m with closed := true }
    | some n => Killed env s n { m with closed := true } es r m'

theorem close_leads (s : Session τ) (m : Memory) : Leads env s.close m (Closed env s m) := by
  refine leads_bind_of_eq (a := m) (fun w hw => hw ▸ rfl) ?_
  unfold Closed
  by_cases hclosed : m.closed = true
  · simp only [hclosed]
    exact leads_value () ⟨rfl, rfl, rfl⟩
  · simp only [hclosed]
    refine Leads.bind (A := fun es r m' => es = [] ∧ r = .ok () ∧ m' = { m with closed := true })
      (leads_remember ⟨rfl, rfl, rfl⟩) ?_ ?_
    · rintro es u m' ⟨rfl, -, rfl⟩
      cases hidentity : m.snapshot.identity with
      | none => exact kill_still hidentity
      | some n => exact kill_leads hidentity
    · rintro es e m' ⟨-, he, -⟩
      cases he

/-! ## Composed operations -/

variable [Timeline τ]

/-- Runs a statement at the address of the session, whatever state the session is in. -/
def execute (s : Session τ) (statement : Statement) : Run Memory τ Statement.Result := do
  statement.run (← s.url) s.pause

/-- The operations that look at a session or use it, and neither create nor end it. -/
inductive Errand (s : Session τ) : ∀ {α : Type}, Run Memory τ α → Prop where
  | snapshot : Errand s snapshot
  | now : Errand s Run.now
  | sleep (amount : τ) : Errand s (Run.sleep amount)
  | refresh : Errand s s.refresh
  | execute (statement : Statement) : Errand s (s.execute statement)

/-- The operations of a session that already exists, of which all other work in the session is
composed. -/
inductive Piece (s : Session τ) : ∀ {α : Type}, Run Memory τ α → Prop where
  | snapshot : Piece s snapshot
  | now : Piece s Run.now
  | sleep (amount : τ) : Piece s (Run.sleep amount)
  | refresh : Piece s s.refresh
  | kill : Piece s s.kill
  | close : Piece s s.close
  | execute (statement : Statement) : Piece s (s.execute statement)

/-- Work that is composed of the operations of a session. -/
abbrev Work (s : Session τ) (x : Run Memory τ α) : Prop := Composed s.Piece x

theorem Errand.piece {x : Run Memory τ α} (h : s.Errand x) : s.Piece x := by
  cases h with
  | snapshot => exact .snapshot
  | now => exact .now
  | sleep amount => exact .sleep amount
  | refresh => exact .refresh
  | execute statement => exact .execute statement

theorem awaitReady_errands (s : Session τ) : Composed s.Errand s.awaitReady := by
  refine .rounds () fun _ => ?_
  refine .bind (.piece .refresh) fun _ => .bind (.piece .snapshot) fun seen => ?_
  have hrest : Composed s.Errand (do
      if seen.state.isRunnable then return Run.Round.done ()
      Run.sleep s.pause
      return Run.Round.again () : Run Memory τ (Run.Round Unit Unit)) := by
    split
    · exact .value _
    · exact .bind (.piece (.sleep _)) fun _ => .value _
  dsimp only
  split
  · exact .bind (.ofMisfit _) fun _ => .bind (.stop _) fun _ => hrest
  · exact hrest

theorem runStatement_errands (s : Session τ) (statement : Statement) :
    Composed s.Errand (s.runStatement statement) := by
  refine .bind s.awaitReady_errands fun _ => ?_
  rw [← Run.bind_bind]
  refine .bind (.piece (.execute statement)) fun result => ?_
  cases result.ok with
  | true => exact .ofMisfit _
  | false => exact .bind (.stop _) fun _ => .ofMisfit _

theorem runCode_errands (s : Session τ) (code : String) : Composed s.Errand (s.runCode code) :=
  s.runStatement_errands _

theorem runStatement_work (s : Session τ) (statement : Statement) :
    s.Work (s.runStatement statement) :=
  (s.runStatement_errands statement).mono Errand.piece

theorem runCode_work (s : Session τ) (code : String) : s.Work (s.runCode code) :=
  (s.runCode_errands code).mono Errand.piece

/-! ## Statements -/

/-- A request for the record of a statement of the session at an address. -/
def RecordRequest (url : String) (q : Request) : Prop :=
  ∃ name : String, q = .get s!"{Statement.listUrl url}/{name}"

/-- A request for the statements of the session at an address. -/
def StatementRequest (url : String) (q : Request) : Prop :=
  (∃ document, q = .post (Statement.listUrl url) document) ∨ RecordRequest url q

/-- What is done with a statement once it has been sent: requests for its record, pauses and remarks. -/
inductive RecordPiece (url : String) : ∀ {α : Type}, Run Memory τ α → Prop where
  | ask (q : Request) : RecordRequest url q → RecordPiece url (Run.ask q)
  | sleep (amount : τ) : RecordPiece url (Run.sleep amount)
  | note (level : Level) (text : String) : RecordPiece url (Run.note level text)

theorem outputRound_composed (url : String) (id : Json) (pause : τ)
    (seen : Reply × Json.Fields) :
    Composed (RecordPiece url)
      (Statement.outputRound (Statement.listUrl url) id pause seen :
        Run Memory τ (Run.Round (Reply × Json.Fields) Statement.Result)) := by
  obtain ⟨found, fields⟩ := seen
  have hask : RecordRequest url (.get s!"{Statement.listUrl url}/{id.display}") :=
    ⟨id.display, rfl⟩
  unfold Statement.outputRound
  dsimp only
  split
  · exact .bind (.ofStop _) fun _ => .value _
  · split
    · exact .bind (.stop _) fun _ => .bind (.piece (.sleep _)) fun _ =>
        .bind (.piece (.ask _ hask)) fun _ => .bind (.ofFault _) fun _ => .value _
    · exact .bind (.piece (.sleep _)) fun _ =>
        .bind (.piece (.ask _ hask)) fun _ => .bind (.ofFault _) fun _ => .value _

/-- The memory stays as it is while there are only requests for records. -/
def OnlyRecords (url : String) (m : Memory) (es : List (Event τ)) (m' : Memory) : Prop :=
  m' = m ∧ ∀ q a, .answered q a ∈ es → RecordRequest url q

omit [Timeline τ] in
theorem onlyRecords_chains (url : String) : Chains (OnlyRecords (τ := τ) url) := by
  constructor
  · exact fun m => ⟨rfl, fun q a h => nomatch h⟩
  · rintro m m' m'' es fs ⟨rfl, hes⟩ ⟨rfl, hfs⟩
    exact ⟨rfl, fun q a h => (List.mem_append.1 h).elim (hes q a) (hfs q a)⟩

theorem recordPiece_leads {url : String} {x : Run Memory τ α} (h : RecordPiece url x) (m : Memory) :
    Leads env x m fun es _ m' => OnlyRecords url m es m' := by
  cases h with
  | ask q hq =>
      refine ((ask_reads q).leads m).mono ?_
      rintro es r m' ⟨rfl, t, rfl, -⟩
      refine ⟨rfl, fun q' a h => ?_⟩
      obtain ⟨rfl, -⟩ := Event.answered.inj (List.mem_singleton.1 h)
      exact hq
  | sleep amount =>
      refine ((sleep_does amount).leads m).mono ?_
      rintro es r m' ⟨rfl, rfl, -⟩
      exact ⟨rfl, fun q a h => nomatch List.mem_singleton.1 h⟩
  | note level text =>
      refine ((note_silent level text).leads m).mono ?_
      rintro es r m' ⟨rfl, rfl, -⟩
      exact ⟨rfl, fun q a h => nomatch h⟩

/-- A statement is sent first of all, and only once. -/
def Sends (statement : Statement) (url : String) (es : List (Event τ)) : Prop :=
  ∃ a later, es = .answered (.post (Statement.listUrl url) statement.document) a :: later ∧
    ∀ q a', .answered q a' ∈ later → RecordRequest url q

theorem run_sends (statement : Statement) (url : String) (pause : τ) (m : Memory) :
    Leads env (statement.run url pause : Run Memory τ Statement.Result) m fun es _ m' =>
      m' = m ∧ Sends statement url es := by
  refine ((ask_reads _).leads m).bind ?_ ?_
  · rintro es found m' ⟨rfl, t, rfl, -⟩
    refine (Composed.leads (onlyRecords_chains url) (fun _ hx m => recordPiece_leads hx m) ?_ m').mono
      fun fs _ m'' h => ⟨h.1, _, fs, rfl, h.2⟩
    refine .bind (.ofFault _) fun fields => ?_
    split
    · exact .ofStop _
    · split
      · exact .stop _
      · exact .bind (.piece (.note _ _)) fun _ =>
          .rounds _ fun seen => outputRound_composed url _ pause seen
  · rintro es e m' ⟨rfl, t, rfl, -⟩
    exact ⟨rfl, _, [], rfl, fun q a h => nomatch h⟩

/-- The memory stays as it is while there are only requests for statements. -/
def OnlyStatements (url : String) (m : Memory) (es : List (Event τ)) (m' : Memory) : Prop :=
  m' = m ∧ ∀ q a, .answered q a ∈ es → StatementRequest url q

theorem run_leads (statement : Statement) (url : String) (pause : τ) (m : Memory) :
    Leads env (statement.run url pause : Run Memory τ Statement.Result) m fun es _ m' =>
      OnlyStatements url m es m' := by
  refine (run_sends statement url pause m).mono ?_
  rintro es r m' ⟨rfl, a, later, rfl, hlater⟩
  refine ⟨rfl, fun q a' hmem => ?_⟩
  rcases List.mem_cons.1 hmem with hfirst | hmem
  · obtain ⟨rfl, -⟩ := Event.answered.inj hfirst
    exact .inl ⟨_, rfl⟩
  · exact .inr (hlater q a' hmem)

/-- What an operation may do that neither creates nor ends the session. -/
inductive Did (s : Session τ) (env : Surroundings τ) (m : Memory) :
    List (Event τ) → Memory → Prop where
  | unasked {es : List (Event τ)} : (∀ q a, .answered q a ∉ es) → Did s env m es m
  | looked {n : Int} {es : List (Event τ)} {r : Except Stop Unit} {m' : Memory} :
      m.snapshot.identity = some n → Replaced env s.lookRefused (.get (s.urlOf n)) m es r m' →
        Did s env m es m'
  | executed {n : Int} {es : List (Event τ)} :
      m.snapshot.identity = some n →
        (∀ q a, .answered q a ∈ es → StatementRequest (s.urlOf n) q) → Did s env m es m

theorem errand_did {x : Run Memory τ α} (h : s.Errand x) (m : Memory) :
    Leads env x m fun es _ m' => s.Did env m es m' := by
  have hsilent : s.Did env m [] m := .unasked fun q a hmem => nomatch hmem
  cases h with
  | snapshot =>
      exact leads_of_eq (r := .ok m.snapshot) (fun w hw => by rw [snapshot_eq, hw]) hsilent
  | now => exact fun w hw => ⟨[], .ok w.now, w, .silent rfl rfl, hw ▸ hsilent⟩
  | sleep amount =>
      refine ((sleep_does amount).leads m).mono ?_
      rintro es r m' ⟨rfl, rfl, -⟩
      exact .unasked fun q a hmem => nomatch List.mem_singleton.1 hmem
  | refresh =>
      cases hidentity : m.snapshot.identity with
      | none =>
          refine (refresh_still hidentity).mono ?_
          rintro es r m' ⟨rfl, -, rfl⟩
          exact hsilent
      | some n => exact (refresh_leads hidentity).mono fun _ _ _ h => .looked hidentity h
  | execute statement =>
      cases hidentity : m.snapshot.identity with
      | none =>
          intro w hw
          exact ⟨[], _, w, .silent (bind_error (url_uncreated hidentity w hw)) rfl, hw ▸ hsilent⟩
      | some n =>
          refine leads_bind_of_eq (url_eq hidentity) ((run_leads statement _ s.pause m).mono ?_)
          rintro es r m' ⟨rfl, hes⟩
          exact .executed hidentity hes

/-! ## What is remembered -/

/-- Whatever can be done with a session. -/
inductive Operation (s : Session τ) : ∀ {α : Type}, Run Memory τ α → Prop where
  | create : Operation s s.create
  | piece {α : Type} {x : Run Memory τ α} : s.Piece x → Operation s x

/-- One change of what is remembered. -/
inductive Move : Memory → Memory → Prop where
  | read {m : Memory} {new : Snapshot} {n : Int} :
      new.identity = some n → Move m { m with snapshot := new }
  | died {m : Memory} {n : Int} :
      m.snapshot.identity = some n → Move m { m with snapshot := { m.snapshot with state := .dead } }
  | closed {m : Memory} : Move m { m with closed := true }

/-- Any number of changes. -/
abbrev Moves : Memory → Memory → Prop := Relation.ReflTransGen Move

/-- A session that is closed stays closed. -/
theorem Moves.closed {m m' : Memory} (h : Moves m m') (hclosed : m.closed = true) :
    m'.closed = true := by
  induction h with
  | refl => exact hclosed
  | tail _ hmove ih =>
      cases hmove with
      | read => exact ih
      | died => exact ih
      | closed => rfl

omit [Timeline τ] in
theorem moves_chains : Chains fun m (_ : List (Event τ)) m' => Moves m m' :=
  ⟨fun _ => .refl, fun hes hfs => hes.trans hfs⟩

omit [Timeline τ] in
theorem moves_of_replaced {refusal : Reply → Fault} {q : Request} {es : List (Event τ)}
    {r : Except Stop Unit} {m' : Memory} (h : Replaced env refusal q m es r m') : Moves m m' := by
  obtain ⟨t, -, hread⟩ := h
  rcases hread with ⟨new, hnew, -, rfl⟩ | ⟨e, -, -, rfl⟩
  · obtain ⟨n, hn⟩ := readIn_identity hnew
    exact .single (.read hn)
  · exact .refl

omit [Timeline τ] in
theorem moves_of_killed {n : Int} {es : List (Event τ)} {r : Except Stop Unit} {m' : Memory}
    (hidentity : m.snapshot.identity = some n) (h : Killed env s n m es r m') : Moves m m' := by
  obtain ⟨t, -, -, rfl⟩ := h
  cases r with
  | ok _ => exact .single (.died hidentity)
  | error _ => exact .refl

omit [Timeline τ] in
theorem moves_of_closed {es : List (Event τ)} {r : Except Stop Unit} {m' : Memory}
    (h : Closed env s m es r m') : Moves m m' := by
  unfold Closed at h
  split at h
  · obtain ⟨-, -, rfl⟩ := h
    exact .refl
  · split at h
    · obtain ⟨-, -, rfl⟩ := h
      exact .single .closed
    · next n hidentity =>
        have hkilled : Moves { m with closed := true } m' := moves_of_killed hidentity h
        exact hkilled.head .closed

theorem errand_moves (s : Session τ) {x : Run Memory τ α} (h : s.Errand x) (m : Memory) :
    Leads env x m fun _ _ m' => Moves m m' := by
  refine (errand_did h m).mono fun es r m' hdid => ?_
  cases hdid with
  | unasked => exact .refl
  | looked _ hreplaced => exact moves_of_replaced hreplaced
  | executed => exact .refl

theorem operation_moves {x : Run Memory τ α} (h : s.Operation x) (m : Memory) :
    Leads env x m fun _ _ m' => Moves m m' := by
  cases h with
  | create => exact create_leads.mono fun _ _ _ => moves_of_replaced
  | piece h =>
      cases h with
      | snapshot => exact s.errand_moves .snapshot m
      | now => exact s.errand_moves .now m
      | sleep amount => exact s.errand_moves (.sleep amount) m
      | refresh => exact s.errand_moves .refresh m
      | execute statement => exact s.errand_moves (.execute statement) m
      | kill =>
          cases hidentity : m.snapshot.identity with
          | none => exact (kill_still hidentity).mono fun _ _ _ h => h.2.2 ▸ .refl
          | some n => exact (kill_leads hidentity).mono fun _ _ _ => moves_of_killed hidentity
      | close => exact (close_leads s m).mono fun _ _ _ => moves_of_closed

/-- Whatever is done with a session changes what is remembered step by step. -/
theorem operations_moves {x : Run Memory τ α} (h : Composed s.Operation x) (m : Memory) :
    Leads env x m fun _ _ m' => Moves m m' :=
  h.leads moves_chains (fun _ hx m => operation_moves hx m) m

end Session

end SparkGateway
