import SparkGateway.Statement.Basic
import SparkGateway.Proofs.Statement.Outputs

/-!
# The records of a statement

A statement is sent once.  The reply is a result already, or it is the first record of the statement, and
the number in that record says where all later records are read, one after each pause.  The records are
told here by the answers that carry them (`Carries`).  An answer decides the outcome if it carries no
record, or one with an output, from which the result is read (`Decodes`), or one that says that there will
be no output; after every other answer the next record is read (`Pends`).  So the first answer that decides
is the last (`Polled`), and which answer that is does not depend on the numbers in later records.
-/

namespace SparkGateway.Statement

open Run

variable {σ τ : Type} {env : Surroundings τ} {q : Request} {a : Answer}

/-- An answer carries a record, with these fields. -/
structure Carries (q : Request) (a : Answer) (found : Reply) (fields : Json.Fields) : Prop where
  came : a.outcome q = .ok found
  good : found.ok = true
  document : found.document = .ok (.obj fields)

/-- An answer carries no record, which stops the work. -/
inductive Fails (q : Request) (a : Answer) : Stop → Prop where
  | lost {e : Stop} : a.outcome q = .error e → Fails q a e
  | refused {found : Reply} : a.outcome q = .ok found → found.ok = false →
      Fails q a (.fault (found.refused .request "Statement request failed"))
  | unreadable {found : Reply} : a.outcome q = .ok found → found.ok = true →
      (∀ v, found.document ≠ .ok v) →
      Fails q a (.fault (found.malformed "Response is not valid JSON"))
  | shapeless {found : Reply} {v : Json} : a.outcome q = .ok found → found.ok = true →
      found.document = .ok v → (∀ fields, v ≠ .obj fields) →
      Fails q a (.fault (found.malformed "Bad statement response"))

/-- A record has an output. -/
def HasOutput (fields : Json.Fields) : Prop := ∃ output, fields.get "output" = .obj output

/-- A record says that there will be no output, whatever the case of its word for the state. -/
def SaysFailed (fields : Json.Fields) : Prop :=
  Text.lower (fields.get "state").display = "error" ∨
    Text.lower (fields.get "state").display = "cancelled"

/-- The fault of a statement that will have no output; `name` is its number. -/
def failure (name : String) (fields : Json.Fields) : Fault :=
  let state := Text.lower (fields.get "state").display
  .statementFailed (.str "StatementFailed") (.str s!"Statement {name} ended in state {state}") []

/-- An answer decides what becomes of the statement with a number. -/
inductive Decides (name : String) (q : Request) (a : Answer) : Except Stop Result → Prop where
  | fails {e : Stop} : Fails q a e → Decides name q a (.error e)
  | output {found : Reply} {fields output : Json.Fields} {r : Except Stop Result} :
      Carries q a found fields → fields.get "output" = .obj output → Decodes found output r →
      Decides name q a r
  | failed {found : Reply} {fields : Json.Fields} : Carries q a found fields →
      ¬ HasOutput fields → SaysFailed fields →
      Decides name q a (.error (.fault (failure name fields)))

/-- An answer carries a record that leaves the outcome open. -/
def Pends (q : Request) (a : Answer) : Prop :=
  ∃ found fields, Carries q a found fields ∧ ¬ HasOutput fields ∧ ¬ SaysFailed fields

/-- The requests with their answers that carry the records of a statement: the first, and the looks. -/
def records (first : Request × Answer) (q : Request) (looks : List Answer) : List (Request × Answer) :=
  first :: looks.map fun a => (q, a)

/-- Looks at a record, with a pause before each. -/
def visits (pause : τ) (q : Request) (looks : List Answer) : List (Event τ) :=
  looks.flatMap fun a => [.paused pause, .answered q a]

/-- What may come of a statement whose first record is known, if its record is read by `q` from then on
and at most `left` records are judged. -/
inductive Polled (env : Surroundings τ) (pause : τ) (name : String) (q : Request) (left : Nat)
    (first : Request × Answer) : List (Event τ) → Except Stop Result → Prop where
  | decided {looks : List Answer} {pending : List (Request × Answer)} {last : Request × Answer}
      {r : Except Stop Result} :
      records first q looks = pending ++ [last] → (∀ x ∈ pending, Pends x.1 x.2) →
      Decides name last.1 last.2 r → Polled env pause name q left first (visits pause q looks) r
  | cut {looks : List Answer} {e : Stop} :
      (∀ x ∈ records first q looks, Pends x.1 x.2) → Halts env e →
      Polled env pause name q left first (visits pause q looks ++ [.paused pause]) (.error e)
  | spent {looks : List Answer} {pending : List (Request × Answer)} {last : Request × Answer} :
      records first q looks = pending ++ [last] → (∀ x ∈ pending, Pends x.1 x.2) →
      looks.length = left → Polled env pause name q left first (visits pause q looks) (.error .spent)

/-- What may come of a statement whose request was answered: what else happens, and the outcome. -/
inductive Executed (env : Surroundings τ) (pause : τ) (urls : String) (first : Request × Answer) :
    List (Event τ) → Except Stop Result → Prop where
  | failed {e : Stop} : Fails first.1 first.2 e → Executed env pause urls first [] (.error e)
  | complete {found : Reply} {fields : Json.Fields} {status : Json} {r : Except Stop Result} :
      Carries first.1 first.2 found fields → fields.get? "status" = some status →
      Decodes found fields r → Executed env pause urls first [] r
  | nameless {found : Reply} {fields : Json.Fields} :
      Carries first.1 first.2 found fields → fields.get? "status" = none → fields.get "id" = .null →
      Executed env pause urls first []
        (.error (.fault (found.malformed "Statement response has no id")))
  | polled {found : Reply} {fields : Json.Fields} {id : Json} {later : List (Event τ)}
      {r : Except Stop Result} :
      Carries first.1 first.2 found fields → fields.get? "status" = none →
      fields.get "id" = id → id ≠ .null →
      Polled env pause id.display (.get s!"{urls}/{id.display}") env.patience first later r →
      Executed env pause urls first later r

/-! ## Reading one record -/

theorem Carries.eq {found found' : Reply} {fields fields' : Json.Fields}
    (h : Carries q a found fields) (h' : Carries q a found' fields') :
    found = found' ∧ fields = fields' := by
  have hfound : found = found' := Except.ok.inj (h.came.symm.trans h'.came)
  subst hfound
  have hfields := Except.ok.inj (h.document.symm.trans h'.document)
  exact ⟨rfl, Json.obj.inj hfields⟩

/-- An answer that carries a record does not fail. -/
theorem Carries.not_fails {found : Reply} {fields : Json.Fields} (h : Carries q a found fields)
    {e : Stop} : ¬ Fails q a e := by
  obtain ⟨hcame, hgood, hdocument⟩ := h
  intro hfails
  cases hfails with
  | lost hlost =>
      rw [hcame] at hlost
      contradiction
  | refused hcame' hbad =>
      obtain rfl := Except.ok.inj (hcame.symm.trans hcame')
      rw [hgood] at hbad
      contradiction
  | unreadable hcame' _ hnone =>
      obtain rfl := Except.ok.inj (hcame.symm.trans hcame')
      exact hnone _ hdocument
  | shapeless hcame' _ hdocument' hshape =>
      obtain rfl := Except.ok.inj (hcame.symm.trans hcame')
      have hv := Except.ok.inj (hdocument.symm.trans hdocument')
      exact hshape fields hv.symm

/-- No answer that decides the outcome leaves it open, so an answer that decides is the first to do so if
all before it leave the outcome open. -/
theorem Pends.not_decides {name : String} {r : Except Stop Result} (h : Pends q a) :
    ¬ Decides name q a r := by
  obtain ⟨found, fields, hcarries, hopen, hgoing⟩ := h
  intro hdecides
  cases hdecides with
  | fails hfails => exact hcarries.not_fails hfails
  | output hcarries' houtput _ =>
      obtain ⟨-, rfl⟩ := hcarries.eq hcarries'
      exact hopen ⟨_, houtput⟩
  | failed hcarries' _ hfailed =>
      obtain ⟨-, rfl⟩ := hcarries.eq hcarries'
      exact hgoing hfailed

theorem recordOf_cases {found : Reply} (hcame : a.outcome q = .ok found) :
    (∃ fields, Carries q a found fields ∧ recordOf found = .ok fields) ∨
      ∃ f, Fails q a (.fault f) ∧ recordOf found = .error f := by
  cases hgood : found.ok with
  | false =>
      have hread : recordOf found = .error (found.refused .request "Statement request failed") := by
        simp [recordOf, hgood, bind, Except.bind, throw, throwThe, MonadExceptOf.throw]
      exact Or.inr ⟨_, Fails.refused hcame hgood, hread⟩
  | true =>
      have hread : recordOf found = found.document >>= found.fields "statement" := by
        simp [recordOf, hgood, bind, Except.bind]
      rcases found.document_cases with ⟨v, hdocument⟩ | hdocument
      · rw [hdocument] at hread
        by_cases hshape : ∃ fields, v = .obj fields
        · obtain ⟨fields, rfl⟩ := hshape
          exact Or.inl ⟨fields, ⟨hcame, hgood, hdocument⟩, hread⟩
        · have hnone : ∀ fields, v ≠ .obj fields := fun fields hv => hshape ⟨fields, hv⟩
          have hfields : found.fields "statement" v =
              .error (found.malformed "Bad statement response") := by
            cases v with
            | obj fields => exact absurd rfl (hnone fields)
            | _ => rfl
          exact Or.inr ⟨_, Fails.shapeless hcame hgood hdocument hnone, hread.trans hfields⟩
      · rw [hdocument] at hread
        have hnone : ∀ v, found.document ≠ .ok v := by
          intro v hv
          rw [hdocument] at hv
          contradiction
        exact Or.inr ⟨_, Fails.unreadable hcame hgood hnone, hread⟩

/-- Work that asks for a record goes on with it, or stops because the answer carries none. -/
theorem record_bind {β : Type} {f : Reply → Json.Fields → Run σ τ β}
    {B : List (Event τ) → Except Stop β → Prop}
    (hcarries : ∀ a found fields, Carries q a found fields →
      Does env (f found fields) fun es r => B (.answered q a :: es) r)
    (hfails : ∀ a e, Fails q a e → B [.answered q a] (.error e)) :
    Does env (do
      let found ← Run.ask q
      let fields ← Run.ofFault (recordOf found)
      f found fields) B := by
  refine (ask_reads q).bind ?_ ?_
  · rintro es found ⟨t, rfl, hfound⟩
    rcases recordOf_cases hfound.symm with ⟨fields, hrecord, hread⟩ | ⟨fault, hfault, hread⟩
    · rw [hread]
      exact (value_silent fields).silent_bind
        (fun fields' h => Except.ok.inj h ▸ hcarries _ found fields hrecord) (fun e he => nomatch he)
    · rw [hread]
      refine (stop_silent (.fault fault)).silent_bind (fun fields' h => nomatch h) ?_
      intro e he
      obtain rfl := Except.error.inj he
      exact hfails _ _ hfault
  · rintro es e ⟨t, rfl, he⟩
    exact hfails _ e (Fails.lost he.symm)

/-! ## The word for the state -/

theorem written_of_isZero {n : Number} (h : n.isZero = true) :
    n.written ∈ ["0", "0.0", "-0.0"] := by
  cases n with
  | whole k =>
      have hk : k.natAbs = 0 := by simpa [Number.isZero, Number.value] using h
      obtain rfl := Int.natAbs_eq_zero.1 hk
      exact List.mem_cons_self
  | real x =>
      simp only [Number.isZero, Number.value] at h
      simp only [Number.written, Decimal.Layout.write]
      cases hx : Decimal.Value.ofFloat x with
      | nan => simp [hx] at h
      | infinite negative => simp [hx] at h
      | finite negative m e =>
          have hm : m = 0 := by simpa [hx] using h
          subst hm
          have hzero : ∀ negative, String.ofList ((if negative = true then ['-'] else []) ++
              Decimal.Layout.value.place ⟨['0'], 1⟩) ∈ ["0", "0.0", "-0.0"] := by
            decide +kernel
          exact hzero negative

/-- How a value reads that says nothing. -/
theorem display_of_saysNothing {v : Json} (h : SaysNothing v) :
    v.display ∈ ["", "None", "False", "0", "0.0", "-0.0", "[]", "\x7b\x7d"] := by
  cases h with
  | @zero n hzero =>
      have hwritten : (Json.num n).display ∈ ["0", "0.0", "-0.0"] := written_of_isZero hzero
      exact List.mem_of_mem_drop (i := 3) (List.mem_of_mem_take (i := 3) hwritten)
  | _ => decide

/-- The words are the same for a value that says nothing: none of the texts that such a value reads as is
the word for a failure. -/
theorem stateOf_of_saysFailed {fields : Json.Fields} (h : SaysFailed fields) :
    stateOf fields = Text.lower (fields.get "state").display := by
  unfold stateOf Json.orElse
  cases hgiven : (fields.get "state").given with
  | true => rfl
  | false =>
      have hnone : ∀ text ∈ ["", "None", "False", "0", "0.0", "-0.0", "[]", "\x7b\x7d"],
          ¬ (Text.lower text = "error" ∨ Text.lower text = "cancelled") := by
        decide +kernel
      exact absurd h (hnone _ (display_of_saysNothing (saysNothing_iff.2 hgiven)))

theorem failed_iff (fields : Json.Fields) :
    failedStates.contains (stateOf fields) = true ↔ SaysFailed fields := by
  have hcontains : failedStates.contains (stateOf fields) = true ↔
      stateOf fields = "error" ∨ stateOf fields = "cancelled" := by
    simp [failedStates]
  rw [hcontains]
  constructor
  · intro h
    cases hgiven : (fields.get "state").given with
    | true => simpa [stateOf, Json.orElse, hgiven, SaysFailed] using h
    | false =>
        have hblank : stateOf fields = Text.lower "" := by
          simp [stateOf, Json.orElse, hgiven, Json.display]
        rw [hblank] at h
        exact absurd h (by decide +kernel)
  · intro h
    rw [stateOf_of_saysFailed h]
    exact h

/-! ## What may come of all records -/

theorem Polled.at_once {pause : τ} {name : String} {left : Nat} {first : Request × Answer}
    {r : Except Stop Result} (h : Decides name first.1 first.2 r) :
    Polled env pause name q left first [] r := by
  have hfirst : records first q [] = [] ++ [first] := rfl
  show Polled env pause name q left first (visits pause q []) r
  exact .decided hfirst (by simp) h

/-- What comes of the records after one that leaves the outcome open comes of all of them. -/
theorem Polled.after {pause : τ} {name : String} {left : Nat} {first : Request × Answer}
    {es : List (Event τ)} {r : Except Stop Result} (hfirst : Pends first.1 first.2)
    (h : Polled env pause name q left (q, a) es r) :
    Polled env pause name q (left + 1) first ([.paused pause, .answered q a] ++ es) r := by
  have hvisits : ∀ looks, [.paused pause, .answered q a] ++ visits pause q looks =
      visits pause q (a :: looks) := fun looks => rfl
  have hrecords : ∀ looks, records first q (a :: looks) = first :: records (q, a) q looks :=
    fun looks => rfl
  cases h with
  | @decided looks pending last r hlooks hpending hlast =>
      have hall : records first q (a :: looks) = first :: pending ++ [last] := by
        rw [hrecords, hlooks, List.cons_append]
      rw [hvisits]
      exact .decided hall (List.forall_mem_cons.2 ⟨hfirst, hpending⟩) hlast
  | @cut looks e hlooks hhalts =>
      rw [← List.append_assoc, hvisits]
      refine .cut ?_ hhalts
      rw [hrecords]
      exact List.forall_mem_cons.2 ⟨hfirst, hlooks⟩
  | @spent looks pending last hlooks hpending hleft =>
      have hall : records first q (a :: looks) = first :: pending ++ [last] := by
        rw [hrecords, hlooks, List.cons_append]
      rw [hvisits]
      exact .spent hall (List.forall_mem_cons.2 ⟨hfirst, hpending⟩) (congrArg (· + 1) hleft)

/-- After its first request a statement only reads. -/
theorem Polled.reads {pause : τ} {name : String} {left : Nat} {first : Request × Answer}
    {es : List (Event τ)} {r : Except Stop Result} (h : Polled env pause name q left first es r)
    {q' : Request} {a' : Answer} (hmem : .answered q' a' ∈ es) :
    q' = q := by
  have hvisits : ∀ looks, .answered q' a' ∈ visits pause q looks → q' = q := by
    intro looks hlooks
    simp only [visits, List.mem_flatMap, List.mem_cons, List.not_mem_nil, or_false] at hlooks
    obtain ⟨a, -, h | h⟩ := hlooks
    · contradiction
    · exact (Event.answered.inj h).1
  cases h with
  | decided _ _ _ => exact hvisits _ hmem
  | cut _ _ =>
      rcases List.mem_append.1 hmem with hmem | hmem
      · exact hvisits _ hmem
      · simp at hmem
  | spent _ _ _ => exact hvisits _ hmem

theorem Executed.reads {pause : τ} {urls : String} {first : Request × Answer} {later : List (Event τ)}
    {r : Except Stop Result} (h : Executed env pause urls first later r) {q : Request} {a : Answer}
    (hmem : .answered q a ∈ later) :
    q.method = .get := by
  cases h with
  | polled _ _ _ _ hpolled =>
      rw [hpolled.reads hmem]
      rfl
  | _ => contradiction

/-! ## One look -/

/-- What may come of one record, in which the next one is read by `q'`. -/
inductive Look (env : Surroundings τ) (pause : τ) (name : String) (q' q : Request) (a : Answer) :
    List (Event τ) → Except Stop (Round (Reply × Json.Fields) Result) → Prop where
  | stopped {e : Stop} : Decides name q a (.error e) → Look env pause name q' q a [] (.error e)
  | done {result : Result} : Decides name q a (.ok result) →
      Look env pause name q' q a [] (.ok (.done result))
  | cut {e : Stop} : Pends q a → Halts env e →
      Look env pause name q' q a [.paused pause] (.error e)
  | failed {a' : Answer} {e : Stop} : Pends q a → Fails q' a' e →
      Look env pause name q' q a [.paused pause, .answered q' a'] (.error e)
  | again {a' : Answer} {found : Reply} {fields : Json.Fields} : Pends q a → Carries q' a' found fields →
      Look env pause name q' q a [.paused pause, .answered q' a'] (.ok (.again (found, fields)))

variable [Timeline τ]

theorem outputRound_does {found : Reply} {fields : Json.Fields} (h : Carries q a found fields)
    (urls : String) (id : Json) (pause : τ) :
    Does (σ := σ) env (outputRound urls id pause (found, fields))
      (Look env pause id.display (.get s!"{urls}/{id.display}") q a) := by
  by_cases houtput : HasOutput fields
  · obtain ⟨output, hget⟩ := houtput
    have hround : outputRound (σ := σ) urls id pause (found, fields) =
        (Run.ofStop (Result.ofFields found output) >>= fun result => pure (.done result)) := by
      simp only [outputRound, hget]
    have hdecides : Decides id.display q a _ := .output h hget (ofFields_eq_iff.1 rfl)
    rw [hround]
    refine (ofStop_silent _).silent_bind ?_ ?_
    · intro result hresult
      rw [hresult] at hdecides
      exact does_value _ (.done hdecides)
    · intro e he
      rw [he] at hdecides
      exact .stopped hdecides
  · have hround : outputRound (σ := σ) urls id pause (found, fields) = (do
        if failedStates.contains (stateOf fields) then
          Run.fail (.statementFailed (.str "StatementFailed")
            (.str s!"Statement {id.display} ended in state {stateOf fields}") [])
        Run.sleep pause
        let r ← Run.ask (.get s!"{urls}/{id.display}")
        let fields ← Run.ofFault (recordOf r)
        return .again (r, fields)) := by
      simp only [outputRound]
      cases hget : fields.get "output" with
      | obj output => exact absurd ⟨output, hget⟩ houtput
      | _ => rfl
    rw [hround]
    by_cases hfailed : SaysFailed fields
    · rw [if_pos ((failed_iff fields).2 hfailed), stateOf_of_saysFailed hfailed]
      exact does_stop _ (.stopped (.failed h houtput hfailed))
    · have hpends : Pends q a := ⟨found, fields, h, houtput, hfailed⟩
      rw [if_neg fun hcontains => hfailed ((failed_iff fields).1 hcontains)]
      refine (sleep_does pause).bind ?_ ?_
      · rintro es u ⟨rfl, -⟩
        refine record_bind ?_ ?_
        · intro a' found' fields' hcarries
          exact does_value _ (.again hpends hcarries)
        · intro a' e hfails
          exact .failed hpends hfails
      · rintro es e ⟨rfl, hok | ⟨e', hhalts, he⟩⟩
        · contradiction
        · obtain rfl := Except.error.inj he
          exact .cut hpends hhalts

/-! ## All looks -/

/-- Once a record has been carried, the looks go on up to the first that decides. -/
theorem roundsWithin_polled (urls : String) (id : Json) (pause : τ) (left : Nat)
    {found : Reply} {fields : Json.Fields} (h : Carries q a found fields) :
    Does (σ := σ) env (roundsWithin (outputRound urls id pause) left (found, fields))
      (Polled env pause id.display (.get s!"{urls}/{id.display}") left (q, a)) := by
  induction left generalizing q a found fields with
  | zero =>
      have hfirst : records (q, a) (.get s!"{urls}/{id.display}") [] = [] ++ [(q, a)] := rfl
      exact does_stop _ (.spent hfirst (by simp) rfl)
  | succ left ih =>
      refine (outputRound_does h urls id pause).bind ?_ ?_
      · intro es next hlook
        cases hlook with
        | done hdecides => exact does_value _ (.at_once hdecides)
        | again hpends hcarries => exact (ih hcarries).mono fun fs r hfs => hfs.after hpends
      · intro es e hlook
        cases hlook with
        | stopped hdecides => exact .at_once hdecides
        | cut hpends hhalts =>
            have hfirst : ∀ x ∈ records (q, a) (.get s!"{urls}/{id.display}") [], Pends x.1 x.2 := by
              intro x hx
              obtain rfl := List.mem_singleton.1 hx
              exact hpends
            exact .cut hfirst hhalts
        | failed hpends hfails => exact (Polled.at_once (.fails hfails)).after hpends

theorem run_does (s : Statement) (session : String) (pause : τ) :
    Does (σ := σ) env (s.run session pause) fun es r =>
      ∃ a later, es = .answered (.post (listUrl session) s.document) a :: later ∧
        Executed env pause (listUrl session) (.post (listUrl session) s.document, a) later r := by
  refine record_bind ?_ ?_
  · intro a found fields hcarries
    refine Does.mono ?_ fun later r (hexecuted : Executed env pause (listUrl session)
      (.post (listUrl session) s.document, a) later r) => ⟨a, later, rfl, hexecuted⟩
    cases hstatus : fields.get? "status" with
    | some status =>
        refine (ofStop_silent _).mono ?_
        rintro later r ⟨rfl, rfl⟩
        exact .complete hcarries hstatus (ofFields_eq_iff.1 rfl)
    | none =>
        have hpolled : ∀ id, fields.get "id" = id → id ≠ .null → Does (σ := σ) env (do
              Run.note .debug s!"Statement {id.display} submitted to {listUrl session}"
              Run.rounds (outputRound (listUrl session) id pause) (found, fields))
            (Executed env pause (listUrl session) (.post (listUrl session) s.document, a)) := by
          intro id hid hgiven
          refine (note_silent _ _).silent_bind ?_ (fun e he => nomatch he)
          intro u _
          have hlooks : Does (σ := σ) env _ _ :=
            roundsWithin_polled (listUrl session) id pause env.patience hcarries
          exact hlooks.rounds.mono fun later r hlater => .polled hcarries hstatus hid hgiven hlater
        cases hid : fields.get "id" with
        | null => exact does_stop _ (.nameless hcarries hstatus hid)
        | _ => exact hpolled _ hid (by simp)
  · intro a e hfails
    exact ⟨a, [], rfl, .failed hfails⟩

/-- A statement is sent once and never again, and the first answer that decides its outcome ends the
reading of its records. -/
theorem run_executed (s : Statement) (session : String) (pause : τ) (env : Surroundings τ)
    (w : World σ τ) :
    ∃ a later, (s.run session pause).events env w =
        .answered (.post (listUrl session) s.document) a :: later ∧
      Executed env pause (listUrl session) (.post (listUrl session) s.document, a) later
        (s.run session pause env w).1 ∧
      ∀ q a', .answered q a' ∈ later → q.method = .get := by
  have hrun : Does (σ := σ) env _ _ := run_does s session pause
  obtain ⟨a, later, hevents, hexecuted⟩ := hrun.holds w
  exact ⟨a, later, hevents, hexecuted, fun q a' hmem => hexecuted.reads hmem⟩

end SparkGateway.Statement
