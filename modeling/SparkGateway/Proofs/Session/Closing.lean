import Std.Data.String.ToInt
import SparkGateway.Proofs.Session.Operations
import SparkGateway.Proofs.Text.Cuts

/-!
# The closing of a session

Work within a session ends with the session being closed, so it is deleted under the number by which it
is known.  Which number that is, is told by the answers: the number is replaced whenever a look at the
session shows another one.  Work in a session never deletes it under any other number (`Aims`), and
cannot close it without having deleted it (`Kept`).

A session is known only from the moment when the answer to its creation has been read as a whole.  A
session whose creation was answered with a number, but with a state or a log that cannot be read, is
never deleted.
-/

namespace SparkGateway

namespace Session

open Run

variable {τ α : Type} {env : Surroundings τ} {s : Session τ} {m m' : Memory}

/-- The number in the snapshot that a good answer carries. -/
def numberIn? (q : Request) (a : Answer) : Option Int :=
  (a.goodReply? q).bind fun found => (Snapshot.ofReply found).toOption.bind Snapshot.identity

/-- The number by which the session is known after an event, if it was known by `n` before. -/
def numberAfter (s : Session τ) (n : Int) : Event τ → Int
  | .answered q a => if q.method = .get ∧ q.url = s.urlOf n then (numberIn? q a).getD n else n
  | _ => n

/-- The number by which the session is known after some events. -/
def numberSince (s : Session τ) (n : Int) (es : List (Event τ)) : Int := es.foldl s.numberAfter n

/-- Whatever is deleted is the session, under the number by which it is known then. -/
def Aims (s : Session τ) : Int → List (Event τ) → Prop
  | _, [] => True
  | n, e :: es =>
    (∀ q a, e = .answered q a → q.method = .delete → q = .delete (s.urlOf n)) ∧
      s.Aims (s.numberAfter n e) es

/-- Something is deleted. -/
def Deletes (es : List (Event τ)) : Prop := ∃ q a, .answered q a ∈ es ∧ q.method = .delete

/-- What becomes of a session while there is work in it. -/
structure Kept (s : Session τ) (m : Memory) (es : List (Event τ)) (m' : Memory) : Prop where
  unknown : m.snapshot.identity = none → m'.snapshot.identity = none ∧ ∀ q a, .answered q a ∉ es
  known : ∀ n, m.snapshot.identity = some n →
    m'.snapshot.identity = some (s.numberSince n es) ∧ s.Aims n es
  deleted : ∀ n, m.snapshot.identity = some n → m.closed = false → m'.closed = true → Deletes es

/-! ## Numbers and aims along events -/

theorem numberSince_append (s : Session τ) (n : Int) (es fs : List (Event τ)) :
    s.numberSince n (es ++ fs) = s.numberSince (s.numberSince n es) fs :=
  List.foldl_append

theorem aims_append (s : Session τ) (n : Int) (es fs : List (Event τ)) :
    s.Aims n (es ++ fs) ↔ s.Aims n es ∧ s.Aims (s.numberSince n es) fs := by
  induction es generalizing n with
  | nil => simp [Aims, numberSince]
  | cons e es ih =>
      simp only [List.cons_append, Aims, ih, and_assoc]
      rfl

/-- What is deleted among events that aim is deleted under the number known before it. -/
theorem Aims.split {n : Int} {pre post : List (Event τ)} {q : Request} {a : Answer}
    (h : s.Aims n (pre ++ .answered q a :: post)) (hq : q.method = .delete) :
    q = .delete (s.urlOf (s.numberSince n pre)) :=
  ((s.aims_append n pre _).1 h).2.1 q a rfl hq

theorem kept_chains (s : Session τ) : Chains s.Kept := by
  constructor
  · intro m
    refine ⟨fun h => ⟨h, fun q a hmem => nomatch hmem⟩, fun n h => ⟨h, trivial⟩, ?_⟩
    intro n _ hopen hclosed
    exact nomatch hopen.symm.trans hclosed
  · intro m m' m'' es fs hes hfs
    constructor
    · intro h
      obtain ⟨h', hnone⟩ := hes.unknown h
      obtain ⟨h'', hnone'⟩ := hfs.unknown h'
      exact ⟨h'', fun q a hmem => (List.mem_append.1 hmem).elim (hnone q a) (hnone' q a)⟩
    · intro n h
      obtain ⟨h', haims⟩ := hes.known n h
      obtain ⟨h'', haims'⟩ := hfs.known _ h'
      exact ⟨by rw [numberSince_append]; exact h'', (s.aims_append n es fs).2 ⟨haims, haims'⟩⟩
    · intro n h hopen hclosed
      cases hmid : m'.closed with
      | true =>
          obtain ⟨q, a, hmem, hq⟩ := hes.deleted n h hopen hmid
          exact ⟨q, a, List.mem_append_left _ hmem, hq⟩
      | false =>
          obtain ⟨q, a, hmem, hq⟩ := hfs.deleted _ (hes.known n h).1 hmid hclosed
          exact ⟨q, a, List.mem_append_right _ hmem, hq⟩

/-- An event that neither deletes anything nor looks at the session with a number. -/
def Aside (s : Session τ) (n : Int) (e : Event τ) : Prop :=
  ∀ q a, e = .answered q a → q.method ≠ .delete ∧ (q.method = .get → q.url ≠ s.urlOf n)

theorem numberAfter_of_aside {n : Int} {e : Event τ} (h : s.Aside n e) : s.numberAfter n e = n := by
  cases e with
  | answered q a =>
      refine if_neg ?_
      rintro ⟨hget, hurl⟩
      exact (h q a rfl).2 hget hurl
  | _ => rfl

theorem aims_of_aside {n : Int} {es : List (Event τ)} (h : ∀ e ∈ es, s.Aside n e) :
    s.numberSince n es = n ∧ s.Aims n es := by
  induction es with
  | nil => exact ⟨rfl, trivial⟩
  | cons e es ih =>
      have he := h e List.mem_cons_self
      obtain ⟨hnumber, haims⟩ := ih fun e' he' => h e' (List.mem_cons_of_mem _ he')
      have hafter := numberAfter_of_aside he
      refine ⟨?_, ?_, ?_⟩
      · exact (congrArg (fun k => s.numberSince k es) hafter).trans hnumber
      · exact fun q a ha hq => absurd hq (he q a ha).1
      · rw [hafter]
        exact haims

/-- Events aside leave alone what is kept of a session. -/
theorem kept_of_aside {es : List (Event τ)}
    (hnone : m.snapshot.identity = none → ∀ q a, .answered q a ∉ es)
    (haside : ∀ n, m.snapshot.identity = some n → ∀ e ∈ es, s.Aside n e) :
    s.Kept m es m := by
  refine ⟨fun h => ⟨h, hnone h⟩, ?_, ?_⟩
  · intro n h
    obtain ⟨hnumber, haims⟩ := aims_of_aside (haside n h)
    exact ⟨by rw [hnumber]; exact h, haims⟩
  · intro n _ hopen hclosed
    exact nomatch hopen.symm.trans hclosed

/-! ## Statements stand aside -/

/-- The address of a statement is not that of its session. -/
theorem statementUrl_ne (url name : String) : s!"{Statement.listUrl url}/{name}" ≠ url := by
  intro h
  obtain ⟨rest, hrest, hslash, -⟩ :=
    Text.dropEndWhile_eq_iff.1 (rfl : Text.dropEndWhile (· == '/') url.toList = _)
  have hlist : Text.dropEndWhile (· == '/') url.toList ++ ("/statements/".toList ++ name.toList) =
      url.toList := by
    have := congrArg String.toList h
    simpa [Statement.listUrl, Text.trimEndWhere, toString] using this
  have htail : "/statements/".toList ++ name.toList = rest :=
    List.append_cancel_left (hlist.trans hrest)
  have hs : 's' ∈ rest := by
    rw [← htail]
    exact List.mem_append_left _ (by decide)
  exact absurd (hslash 's' hs) (by decide)

theorem aside_of_statementRequest {n : Int} {q : Request} {a : Answer}
    (h : StatementRequest (s.urlOf n) q) : s.Aside n (.answered q a) := by
  intro q' a' he
  obtain ⟨rfl, rfl⟩ := Event.answered.inj he
  rcases h with ⟨document, rfl⟩ | ⟨name, rfl⟩
  · exact ⟨fun hdelete => (nomatch hdelete), fun hget => (nomatch hget)⟩
  · exact ⟨fun hdelete => (nomatch hdelete), fun _ => statementUrl_ne _ name⟩

/-! ## What the operations keep -/

theorem numberIn_of_readIn (refusal : Reply → Fault) {q : Request} {a : Answer} :
    numberIn? q a = (readIn refusal q a).toOption.bind Snapshot.identity := by
  unfold numberIn? readIn Answer.goodReply?
  cases ha : a.outcome q with
  | error e => rfl
  | ok found =>
      cases hok : found.ok with
      | true => simp [hok, bind, Except.bind]
      | false => simp [hok, bind, Except.bind, Except.toOption]

theorem kept_of_known {n : Int} {es : List (Event τ)} (hidentity : m.snapshot.identity = some n)
    (hafter : m'.snapshot.identity = some (s.numberSince n es)) (haims : s.Aims n es)
    (hdeleted : m.closed = false → m'.closed = true → Deletes es) :
    s.Kept m es m' := by
  constructor
  · intro hnone
    exact nomatch hnone.symm.trans hidentity
  · intro n' hn'
    obtain rfl := Option.some.inj (hidentity.symm.trans hn')
    exact ⟨hafter, haims⟩
  · exact fun _ _ => hdeleted

/-- A look at the session may give it another number. -/
theorem kept_of_replaced {n : Int} {es : List (Event τ)} {r : Except Stop Unit}
    (hidentity : m.snapshot.identity = some n)
    (h : Replaced env s.lookRefused (.get (s.urlOf n)) m es r m') :
    s.Kept m es m' := by
  obtain ⟨t, rfl, hread⟩ := h
  have hafter : s.numberSince n [.answered (.get (s.urlOf n)) (env.answer t (.get (s.urlOf n)))] =
      (numberIn? (.get (s.urlOf n)) (env.answer t (.get (s.urlOf n)))).getD n :=
    if_pos ⟨rfl, rfl⟩
  rw [numberIn_of_readIn s.lookRefused] at hafter
  have haims : s.Aims n [.answered (.get (s.urlOf n)) (env.answer t (.get (s.urlOf n)))] := by
    refine ⟨fun q a he hq => ?_, trivial⟩
    obtain ⟨rfl, -⟩ := Event.answered.inj he
    cases hq
  rcases hread with ⟨new, hnew, -, rfl⟩ | ⟨e, he, -, rfl⟩
  · obtain ⟨k, hk⟩ := readIn_identity hnew
    refine kept_of_known hidentity ?_ haims fun hopen hclosed => nomatch hopen.symm.trans hclosed
    rw [hafter, hnew]
    simp [Except.toOption, hk]
  · refine kept_of_known hidentity ?_ haims fun hopen hclosed => nomatch hopen.symm.trans hclosed
    rw [hafter, he]
    simpa [Except.toOption] using hidentity

/-- Killing the session deletes it under the number by which it is known, which stays. -/
theorem kept_of_killed {n : Int} {m₀ : Memory} {es : List (Event τ)} {r : Except Stop Unit}
    (hidentity : m.snapshot.identity = some n) (hsame : m₀.snapshot = m.snapshot)
    (h : Killed env s n m₀ es r m') :
    s.Kept m es m' ∧ m'.closed = m₀.closed := by
  obtain ⟨t, rfl, -, rfl⟩ := h
  have hnumber : (m₀.afterKill r).snapshot.identity = some n := by
    rw [m₀.afterKill_identity, hsame, hidentity]
  refine ⟨kept_of_known hidentity hnumber ⟨?_, trivial⟩ fun _ _ => ?_, m₀.afterKill_closed r⟩
  · intro q a he _
    obtain ⟨rfl, -⟩ := Event.answered.inj he
    rfl
  · exact ⟨_, _, List.mem_singleton_self _, rfl⟩

theorem kept_of_closed {es : List (Event τ)} {r : Except Stop Unit} (h : Closed env s m es r m') :
    s.Kept m es m' ∧ m'.closed = true := by
  unfold Closed at h
  cases hclosed : m.closed with
  | true =>
      simp only [hclosed, if_true] at h
      obtain ⟨rfl, -, rfl⟩ := h
      exact ⟨s.kept_chains.refl _, hclosed⟩
  | false =>
      simp only [hclosed, Bool.false_eq_true, if_false] at h
      cases hidentity : m.snapshot.identity with
      | none =>
          rw [hidentity] at h
          obtain ⟨rfl, -, rfl⟩ := h
          refine ⟨⟨fun _ => ⟨hidentity, fun q a hmem => nomatch hmem⟩, ?_, ?_⟩, rfl⟩
          · exact fun n hn => nomatch hidentity.symm.trans hn
          · exact fun n hn => nomatch hidentity.symm.trans hn
      | some n =>
          rw [hidentity] at h
          have hsame : ({ m with closed := true } : Memory).snapshot = m.snapshot := rfl
          exact kept_of_killed hidentity hsame h

theorem close_kept (s : Session τ) (m : Memory) :
    Leads env s.close m fun es _ m' => s.Kept m es m' ∧ m'.closed = true :=
  (close_leads s m).mono fun _ _ _ => kept_of_closed

/-- What a block comes to whose work came to `r`, if the closing of the session came to `closed`.  Only
what is no fault of the library stops a block whose work has stopped already. -/
def leaving (closed : Except Stop Unit) (r : Except Stop α) : Except Stop α :=
  match r, closed with
  | .ok v, .ok () => .ok v
  | .ok _, .error e => .error e
  | .error e, .ok () => .error e
  | .error e, .error (.fault _) => .error e
  | .error _, .error e => .error e

theorem closeAfter_course (e : Stop) {u v : World Memory τ} {fs : List (Event τ)}
    {closed : Except Stop Unit} (hclose : Course s.close env u fs closed v) :
    ∃ v', Course (s.closeAfter e : Run Memory τ α) env u fs (leaving closed (.error e)) v' ∧
      v'.memory = v.memory := by
  rw [← List.append_nil fs]
  cases closed with
  | ok _ => exact ⟨v, hclose.attempt.bind (.silent rfl rfl), rfl⟩
  | error e' =>
      cases e' with
      | fault f =>
          have hnoted : Course (note .warning s!"Failed to close session {s.name}: {f.message}")
              env v [] (.ok ()) _ := ⟨rfl, [_], rfl, rfl⟩
          have hstopped := hnoted.bind (f := fun _ => (Run.stop e : Run Memory τ α))
            (.silent rfl rfl)
          exact ⟨_, hclose.attempt.bind hstopped, rfl⟩
      | _ => exact ⟨v, hclose.attempt.bind (.silent rfl rfl), rfl⟩

/-- A block is its work and then the closing of the session. -/
theorem within_course {x : Run Memory τ α} {w u v : World Memory τ} {es fs : List (Event τ)}
    {r : Except Stop α} {closed : Except Stop Unit} (hx : Course x env w es r u)
    (hclose : Course s.close env u fs closed v) :
    ∃ v', Course (s.within x) env w (es ++ fs) (leaving closed r) v' ∧ v'.memory = v.memory := by
  cases r with
  | ok a =>
      cases closed with
      | ok _ =>
          have hend := hclose.bind (f := fun _ => (pure a : Run Memory τ α)) (.silent rfl rfl)
          rw [List.append_nil] at hend
          exact ⟨v, hx.attempt.bind hend, rfl⟩
      | error e =>
          have hend := hclose.bind_error (f := fun _ => (pure a : Run Memory τ α))
          exact ⟨v, hx.attempt.bind hend, rfl⟩
  | error e =>
      obtain ⟨v', hafter, hmemory⟩ := closeAfter_course (α := α) e hclose
      exact ⟨v', hx.attempt.bind hafter, hmemory⟩

/-- However work within a session ends, the session is closed after it. -/
theorem within_closed {x : Run Memory τ α} {M : List (Event τ) → Memory → Prop}
    (hx : Leads env x m fun es _ m' => M es m') :
    Leads env (s.within x) m fun es _ m'' => ∃ es₁ m' es₂, es = es₁ ++ es₂ ∧ M es₁ m' ∧
      s.Kept m' es₂ m'' ∧ m''.closed = true := by
  intro w hw
  obtain ⟨es, r, u, hcourse, hM⟩ := hx w hw
  obtain ⟨fs, closed, v, hclose, hkept, hclosed⟩ := close_kept s u.memory u rfl
  obtain ⟨v', hblock, hmemory⟩ := within_course hcourse hclose
  refine ⟨es ++ fs, _, v', hblock, es, u.memory, fs, rfl, hM, ?_, ?_⟩
  · rw [hmemory]
    exact hkept
  · rw [hmemory]
    exact hclosed

/-! ## Sessions that are created once -/

/-- Fields from which the whole snapshot of a session can be read, once there is a number. -/
def ReadsWhole (fields : Json.Fields) : Prop :=
  (∃ state, State.parse (fields.get "state") = .ok state) ∧ ¬ (fields.get "log").Unlistable

/-- Wherever something is deleted, the session is known by another number than `n`, which was its number
at first. -/
def Renumbered (s : Session τ) (n : Int) (es : List (Event τ)) : Prop :=
  ∀ pre q a post, es = pre ++ .answered q a :: post → q.method = .delete → s.numberSince n pre ≠ n

theorem ofReply_of_numbers {found : Reply} {fields : Json.Fields} {n : Int}
    (h : found.Numbers fields n) :
    Snapshot.ofReply found = (do
      let state ← (State.parse (fields.get "state")).mapError .fault
      let logs ← (fields.get "log").itemsIfGiven.mapError .misfit
      return ⟨some n, Snapshot.present? (fields.get "appId"), state, logs⟩) := by
  obtain ⟨hdocument, hid⟩ := h
  unfold Snapshot.ofReply Snapshot.ofJson
  rw [hdocument]
  simp only [Reply.fields, mapError_ok, bind, Except.bind, hid]

/-- A good answer with a number is read exactly if all of it can be read. -/
theorem readIn_of_numbers (refusal : Reply → Fault) {q : Request} {a : Answer}
    {fields : Json.Fields} {n : Int} (h : a.Numbers q fields n) :
    (ReadsWhole fields → ∃ new, readIn refusal q a = .ok new ∧ new.identity = some n) ∧
      (¬ ReadsWhole fields → ∃ e, readIn refusal q a = .error e) := by
  obtain ⟨found, hgood, hnumbers⟩ := h
  obtain ⟨houtcome, hok⟩ := Answer.outcome_of_goodReply hgood
  have hread : readIn refusal q a = Snapshot.ofReply found := by
    unfold readIn
    rw [houtcome]
    exact if_pos hok
  rw [hread, ofReply_of_numbers hnumbers]
  constructor
  · rintro ⟨⟨state, hstate⟩, hlog⟩
    obtain ⟨items, hitems⟩ := Json.itemsIfGiven_of_not_unlistable hlog
    rw [hstate, hitems]
    exact ⟨_, rfl, rfl⟩
  · intro hnot
    cases hstate : State.parse (fields.get "state") with
    | error f => exact ⟨_, rfl⟩
    | ok state =>
        have hlog : (fields.get "log").Unlistable :=
          Classical.byContradiction fun hlog => hnot ⟨⟨state, hstate⟩, hlog⟩
        rw [Json.itemsIfGiven_of_unlistable hlog]
        exact ⟨_, rfl⟩

/-- What is read from a good answer that holds a number and a state and nothing else. -/
theorem readIn_of_text (refusal : Reply → Fault) (q : Request) {code n : Int} {text : String}
    {state : State} {contentType : Option String} (hcode : 200 ≤ code ∧ code < 300)
    (htext : (Json.parse? text).any
      (Json.same (.obj [("id", .int n), ("state", .str state.word)])) = true) :
    readIn refusal q (.reply code (some text) contentType) =
      .ok { identity := some n, state := state } := by
  let found : Reply := ⟨q.url, code, some text, contentType⟩
  let fields : Json.Fields := [("id", .int n), ("state", .str state.word)]
  have hnumbers : found.Numbers fields n := ⟨Reply.document_of_same htext, rfl⟩
  have hok : found.ok = true := by simp [found, Reply.ok, hcode]
  have hstate : State.parse (fields.get "state") = .ok state := state.parse_word
  have hread : readIn refusal q (.reply code (some text) contentType) = Snapshot.ofReply found :=
    if_pos hok
  rw [hread, ofReply_of_numbers hnumbers, hstate]
  rfl

theorem urlOf_inj {n k : Int} (h : s.urlOf n = s.urlOf k) : n = k :=
  Int.repr_injective ((String.append_right_inj _).1 h)

/-- Where all that is deleted is the session as it is known, it is deleted under its first number unless
it has been renumbered before. -/
theorem Aims.deleted_iff {n : Int} {es : List (Event τ)} (h : s.Aims n es) :
    (∃ a, .answered (.delete (s.urlOf n)) a ∈ es) ↔ ¬ s.Renumbered n es := by
  constructor
  · rintro ⟨a, hmem⟩ hrenumbered
    obtain ⟨pre, post, rfl⟩ := List.append_of_mem hmem
    have hurl := congrArg Request.url (h.split rfl)
    exact hrenumbered pre _ a post rfl rfl (urlOf_inj hurl).symm
  · intro hnot
    apply Classical.byContradiction
    intro hnone
    apply hnot
    rintro pre q a post rfl hq hnumber
    have hdelete := h.split hq
    rw [hnumber] at hdelete
    subst hdelete
    exact hnone ⟨a, List.mem_append_right _ List.mem_cons_self⟩

/-- A look that shows the number by which the session is known leaves it at that. -/
theorem numberAfter_of_look {n : Int} {e : Event τ}
    (hlook : ∀ q a k, e = .answered q a → q.method = .get → q.url = s.urlOf n →
      numberIn? q a = some k → k = n) :
    s.numberAfter n e = n := by
  cases e with
  | answered q a =>
      by_cases hlooks : q.method = .get ∧ q.url = s.urlOf n
      · refine (if_pos hlooks).trans ?_
        cases hnumber : numberIn? q a with
        | none => rfl
        | some k => exact hlook q a k rfl hlooks.1 hlooks.2 hnumber
      · exact if_neg hlooks
  | _ => rfl

/-- What remains to be seen of a session whose creation was answered by `a`. -/
structure EndsAs (s : Session τ) (a : Answer) (later : List (Event τ)) : Prop where
  unread : ∀ fields n, a.Numbers s.creation fields n → ¬ ReadsWhole fields →
    ∀ q a', .answered q a' ∉ later
  read : ∀ fields n, a.Numbers s.creation fields n → ReadsWhole fields →
    s.Aims n later ∧ Deletes later

/-- What is remembered after the creation of a session was answered by `a`. -/
def CreatedBy (s : Session τ) (a : Answer) (m : Memory) : Prop :=
  (∃ new, readIn s.creationRefused s.creation a = .ok new ∧
      m = { snapshot := new }) ∨
    ∃ e, readIn s.creationRefused s.creation a = .error e ∧ m = {}

theorem endsAs_of_kept {a : Answer} {later : List (Event τ)} (hcreated : s.CreatedBy a m)
    (hkept : s.Kept m later m') (hclosed : m'.closed = true) :
    s.EndsAs a later := by
  constructor
  · intro fields n hnumbers hnot
    obtain ⟨e, he⟩ := (readIn_of_numbers s.creationRefused hnumbers).2 hnot
    rcases hcreated with ⟨new, hnew, -⟩ | ⟨e', -, rfl⟩
    · exact nomatch he.symm.trans hnew
    · exact (hkept.unknown rfl).2
  · intro fields n hnumbers hwhole
    obtain ⟨new, hnew, hidentity⟩ :=
      (readIn_of_numbers s.creationRefused hnumbers).1 hwhole
    rcases hcreated with ⟨new', hnew', rfl⟩ | ⟨e, he, -⟩
    · obtain rfl := Except.ok.inj (hnew.symm.trans hnew')
      exact ⟨(hkept.known n hidentity).2, hkept.deleted n hidentity rfl hclosed⟩
    · exact nomatch hnew.symm.trans he

/-! ## Work in a session -/

variable [Timeline τ]

theorem errand_kept {x : Run Memory τ α} (h : s.Errand x) (m : Memory) :
    Leads env x m fun es _ m' => s.Kept m es m' := by
  refine (errand_did h m).mono fun es r m' hdid => ?_
  cases hdid with
  | unasked hnone =>
      exact kept_of_aside (fun _ => hnone) fun n _ e hmem q a he => absurd (he ▸ hmem) (hnone q a)
  | looked hidentity hreplaced => exact kept_of_replaced hidentity hreplaced
  | executed hidentity hrequests =>
      refine kept_of_aside (fun hnone => nomatch hnone.symm.trans hidentity) ?_
      intro n hn e hmem q a he
      obtain rfl := Option.some.inj (hidentity.symm.trans hn)
      subst he
      exact aside_of_statementRequest (hrequests q a hmem) q a rfl

theorem piece_kept {x : Run Memory τ α} (h : s.Piece x) (m : Memory) :
    Leads env x m fun es _ m' => s.Kept m es m' := by
  cases h with
  | snapshot => exact errand_kept .snapshot m
  | now => exact errand_kept .now m
  | sleep amount => exact errand_kept (.sleep amount) m
  | refresh => exact errand_kept .refresh m
  | execute statement => exact errand_kept (.execute statement) m
  | kill =>
      cases hidentity : m.snapshot.identity with
      | none =>
          refine (kill_still hidentity).mono ?_
          rintro es r m' ⟨rfl, -, rfl⟩
          exact s.kept_chains.refl m'
      | some n =>
          exact (kill_leads hidentity).mono fun _ _ _ h => (kept_of_killed hidentity rfl h).1
  | close => exact (close_kept s m).mono fun _ _ _ h => h.1

theorem work_kept {x : Run Memory τ α} (h : s.Work x) (m : Memory) :
    Leads env x m fun es _ m' => s.Kept m es m' :=
  h.leads s.kept_chains (fun _ hx m => piece_kept hx m) m

theorem created_ends {rest : Except Stop Unit → Run Memory τ α} (hrest : ∀ r, s.Work (rest r)) :
    Leads env (s.within (s.create.attempt >>= rest)) {} fun es _ _ => ∃ t later,
      es = .answered s.creation (env.answer t s.creation) :: later ∧
        s.EndsAs (env.answer t s.creation) later := by
  have hbody : Leads env (s.create.attempt >>= rest) {} fun es _ m' => ∃ t later m,
      es = .answered s.creation (env.answer t s.creation) :: later ∧
        s.CreatedBy (env.answer t s.creation) m ∧ s.Kept m later m' := by
    refine create_leads.attempt.bind ?_ ?_
    · rintro es r m ⟨r', -, t, rfl, hread⟩
      refine (work_kept (hrest r) m).mono fun fs _ m' hkept => ⟨t, fs, m, rfl, ?_, hkept⟩
      exact hread.imp (fun ⟨new, hnew, _, hm⟩ => ⟨new, hnew, hm⟩) fun ⟨e, he, _, hm⟩ => ⟨e, he, hm⟩
    · rintro es e m ⟨r', hr, -⟩
      cases hr
  refine (within_closed hbody).mono ?_
  rintro es r m'' ⟨es₁, m', es₂, rfl, ⟨t, later, m, rfl, hcreated, hkept⟩, hkept', hclosed⟩
  exact ⟨t, later ++ es₂, rfl, endsAs_of_kept hcreated (s.kept_chains.trans hkept hkept') hclosed⟩

/-- A session that is created first thing within a block is deleted before the block is left exactly if
the answer to its creation can be read as a whole and no look has given it another number before every
deletion.  If the answer can be read, something is deleted; if not, nothing is asked any more. -/
theorem within_deleted_iff (s : Session τ) {rest : Except Stop Unit → Run Memory τ α}
    (hrest : ∀ r, s.Work (rest r)) (env : Surroundings τ) (w : World Memory τ) (hw : w.memory = {}) :
    ∃ a later, (s.within (s.create.attempt >>= rest)).events env w =
        .answered s.creation a :: later ∧
      ∀ fields n, a.Numbers s.creation fields n →
        ((∃ a', .answered (.delete (s.urlOf n)) a' ∈ later) ↔
          ReadsWhole fields ∧ ¬ s.Renumbered n later) ∧
        (ReadsWhole fields → Deletes later) ∧
        (¬ ReadsWhole fields → ∀ q a', .answered q a' ∉ later) := by
  obtain ⟨t, later, hevents, hends⟩ := (created_ends hrest).holds w hw
  refine ⟨_, later, hevents, fun fields n hnumbers => ⟨?_, ?_, hends.unread fields n hnumbers⟩⟩
  · by_cases hwhole : ReadsWhole fields
    · rw [(hends.read fields n hnumbers hwhole).1.deleted_iff, and_iff_right hwhole]
    · constructor
      · rintro ⟨a', hmem⟩
        exact absurd hmem (hends.unread fields n hnumbers hwhole _ a')
      · exact fun h => absurd h.1 hwhole
  · exact fun hwhole => (hends.read fields n hnumbers hwhole).2

/-- A server at which the session 7 waits for statements and runs none; `created` is the body of the
answer to its creation. -/
def idleServer (created : String) : Surroundings Number where
  answer _ r :=
    if r.url = "http://livy:8998/sessions" then .reply 201 (some created) none
    else .reply 200 (some "\x7b\"id\": 7, \"state\": \"idle\", \"output\": \x7b\x7d\x7d") none
  page _ _ := .stop .cancelled
  halt _ := none
  confirms _ := false
  picks _ := []
  turn _ := 0
  waits := true
  connects := false
  patience := 9

/-- A block that creates a session and runs a statement, which fails. -/
theorem within_deleted_iff_of_idleServer :
    let s : Session Number := .behind "http://livy:8998" "probe" .spark (.whole 180) (.whole 1)
    let work : Run Memory Number Json.Named := do
      s.create
      s.runCode "1 + 1"
    let env := idleServer "\x7b\"id\": 7, \"state\": \"starting\"\x7d"
    let w : World Memory Number := ⟨{}, .whole 0, []⟩
    ((s.within work env w).2.trace.requests.map fun q => (q.method.name, q.url)) =
        [("POST", "http://livy:8998/sessions"), ("GET", "http://livy:8998/sessions/7"),
          ("POST", "http://livy:8998/sessions/7/statements"),
          ("DELETE", "http://livy:8998/sessions/7")] ∧
      ∃ a later, (s.within work).events env w = .answered s.creation a :: later ∧
        ∀ fields n, a.Numbers s.creation fields n →
          ((∃ a', .answered (.delete (s.urlOf n)) a' ∈ later) ↔
            ReadsWhole fields ∧ ¬ s.Renumbered n later) ∧
          (ReadsWhole fields → Deletes later) ∧
          (¬ ReadsWhole fields → ∀ q a', .answered q a' ∉ later) := by
  intro s work env w
  refine ⟨by decide +kernel, ?_⟩
  have hwork : work = s.create.attempt >>= fun r => Run.ofStop r >>= fun _ => s.runCode "1 + 1" :=
    Run.bind_eq_attempt_bind _ _
  rw [hwork]
  exact within_deleted_iff s (fun r => .bind (.ofStop r) fun _ => s.runCode_work _) env w rfl

/-- The session 7 has been created, but an answer that names an unknown state leaves it behind. -/
theorem within_not_deleted :
    let s : Session Number := .behind "http://livy:8998" "probe" .spark (.whole 180) (.whole 1)
    let work : Run Memory Number Unit := do
      s.create
      return ()
    let env := idleServer "\x7b\"id\": 7, \"state\": \"warming_up\"\x7d"
    let w : World Memory Number := ⟨{}, .whole 0, []⟩
    ∃ a later fields, (s.within work).events env w = .answered s.creation a :: later ∧
      a.Numbers s.creation fields 7 ∧ ∀ a', .answered (.delete (s.urlOf 7)) a' ∉ later := by
  intro s work env w
  let fields : Json.Fields := [("id", .int 7), ("state", .str "warming_up")]
  have hwork : work = s.create.attempt >>= fun r => Run.ofStop r >>= fun _ => pure () :=
    Run.bind_eq_attempt_bind _ _
  have hrest : ∀ r : Except Stop Unit, s.Work (Run.ofStop r >>= fun _ => pure ()) :=
    fun r => .bind (.ofStop r) fun _ => .value ()
  obtain ⟨t, later, hevents, hends⟩ := (created_ends hrest).holds w rfl
  have hurl : s.creation.url = "http://livy:8998/sessions" := by decide +kernel
  have hanswer : env.answer t s.creation =
      .reply 201 (some "\x7b\"id\": 7, \"state\": \"warming_up\"\x7d") none := by
    simp only [env, idleServer, hurl, if_true]
  have hnumbers : (env.answer t s.creation).Numbers s.creation fields 7 := by
    rw [hanswer]
    exact ⟨_, rfl, Reply.document_of_same (by decide +kernel), rfl⟩
  have hnot : ¬ ReadsWhole fields := by
    rintro ⟨⟨state, hstate⟩, -⟩
    have hunknown : (State.parse (Json.Fields.get fields "state")).toOption = none := by
      decide +kernel
    rw [hstate] at hunknown
    cases hunknown
  refine ⟨_, later, fields, ?_, hnumbers, hends.unread fields 7 hnumbers hnot _⟩
  rw [hwork]
  exact hevents

end Session

end SparkGateway
