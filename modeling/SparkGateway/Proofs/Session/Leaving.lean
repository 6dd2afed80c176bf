import SparkGateway.Proofs.Session.Closing

/-!
# Leaving a block with a session

A block in which a session was created, and which neither kills nor closes it, deletes the session
exactly once, when it is left, under the number that the creation gave it.  Whether the block stops then
depends on how the work in it has ended: work that has come to a value stops if the session cannot be
deleted, and work that has stopped stops as it did, unless what stops the deletion is no fault of the
library.

A session that has been closed before the block is left alone, even if it is created anew in the block
(`within_leaves_behind`).
-/

namespace SparkGateway

namespace Session

open Run

variable {τ α : Type} {env : Surroundings τ} {s : Session τ} {m m' : Memory}

/-- A session is created among these events. -/
def Creates (s : Session τ) (es : List (Event τ)) : Prop :=
  ∃ q a, .answered q a ∈ es ∧ q.method = .post ∧ q.url = s.listUrl

/-- The number by which the session is known after an event, if it is known at all; the creation of a
session gives it a number. -/
def identityAfter (s : Session τ) (k : Option Int) : Event τ → Option Int
  | .answered q a =>
    if q.method = .post ∧ q.url = s.listUrl then (numberIn? q a).or k
    else k.map fun n => s.numberAfter n (.answered q a)
  | _ => k

/-- The number by which the session is known after some events, if it is known at all. -/
def identitySince (s : Session τ) (k : Option Int) (es : List (Event τ)) : Option Int :=
  es.foldl s.identityAfter k

/-- What becomes of a session while nothing in the work ends it. -/
structure Stays (s : Session τ) (m : Memory) (es : List (Event τ)) (m' : Memory) : Prop where
  identity : m'.snapshot.identity = s.identitySince m.snapshot.identity es
  closed : m'.closed = m.closed
  undeleted : ¬ Deletes es

/-- The session was created among these events under the number `n`.  After that no session is created,
and no look at the session shows another number. -/
def CreatedAs (s : Session τ) (n : Int) (es : List (Event τ)) : Prop :=
  ∃ pre a post new, es = pre ++ .answered s.creation a :: post ∧
    readIn s.creationRefused s.creation a = .ok new ∧ new.identity = some n ∧ ¬ s.Creates post ∧
    ∀ q a' k, .answered q a' ∈ post → q.method = .get → q.url = s.urlOf n →
      numberIn? q a' = some k → k = n

/-! ## Numbers along events -/

theorem identitySince_append (s : Session τ) (k : Option Int) (es fs : List (Event τ)) :
    s.identitySince k (es ++ fs) = s.identitySince (s.identitySince k es) fs :=
  List.foldl_append

theorem identityAfter_creation (k : Option Int) (a : Answer) :
    s.identityAfter k (.answered s.creation a) = (numberIn? s.creation a).or k :=
  if_pos ⟨rfl, rfl⟩

theorem identityAfter_of_not_creation {k : Option Int} {e : Event τ}
    (he : ∀ q a, e = .answered q a → ¬ (q.method = .post ∧ q.url = s.listUrl)) :
    s.identityAfter k e = k.map fun n => s.numberAfter n e := by
  cases e with
  | answered q a => exact if_neg (he q a rfl)
  | _ => cases k <;> rfl

theorem identitySince_eq_self {k : Option Int} {es : List (Event τ)}
    (h : ∀ e ∈ es, s.identityAfter k e = k) : s.identitySince k es = k := by
  induction es with
  | nil => rfl
  | cons e es ih =>
      have hafter := h e List.mem_cons_self
      have hrest := ih fun e' he' => h e' (List.mem_cons_of_mem _ he')
      exact (congrArg (fun k => s.identitySince k es) hafter).trans hrest

/-- Looks that show the number by which the session is known leave it at that. -/
theorem identitySince_of_looks {n : Int} {es : List (Event τ)} (hcreates : ¬ s.Creates es)
    (hlooks : ∀ q a k, .answered q a ∈ es → q.method = .get → q.url = s.urlOf n →
      numberIn? q a = some k → k = n) :
    s.identitySince (some n) es = some n := by
  refine identitySince_eq_self fun e he => ?_
  have hnot : ∀ q a, e = .answered q a → ¬ (q.method = .post ∧ q.url = s.listUrl) := by
    rintro q a rfl hcreation
    exact hcreates ⟨q, a, he, hcreation⟩
  have hnumber : s.numberAfter n e = n :=
    numberAfter_of_look fun q a k hq => hlooks q a k (hq ▸ he)
  rw [identityAfter_of_not_creation hnot, Option.map_some, hnumber]

theorem CreatedAs.identity {n : Int} {es : List (Event τ)} (h : s.CreatedAs n es) (k : Option Int) :
    s.identitySince k es = some n := by
  obtain ⟨pre, a, post, new, rfl, hread, hnew, hcreates, hlooks⟩ := h
  have hnumber : numberIn? s.creation a = some n := by
    rw [numberIn_of_readIn s.creationRefused, hread]
    exact hnew
  rw [identitySince_append]
  show s.identitySince (s.identityAfter _ (.answered s.creation a)) post = some n
  rw [identityAfter_creation, hnumber, Option.some_or]
  exact identitySince_of_looks hcreates hlooks

/-- A session that is created, and then only looked at, which shows its number, is created under that
number. -/
theorem createdAs_cons {a : Answer} {new : Snapshot} {n : Int} {es : List (Event τ)}
    (hread : readIn s.creationRefused s.creation a = .ok new) (hidentity : new.identity = some n)
    (hlooks : ∀ q a', .answered q a' ∈ es →
      q.method = .get ∧ ∀ k, numberIn? q a' = some k → k = n) :
    s.CreatedAs n (.answered s.creation a :: es) := by
  refine ⟨[], a, es, new, rfl, hread, hidentity, ?_, fun q a' k hmem _ _ => (hlooks q a' hmem).2 k⟩
  rintro ⟨q, a', hmem, hpost, -⟩
  exact nomatch hpost.symm.trans (hlooks q a' hmem).1

/-! ## Work that ends no session -/

theorem stays_chains (s : Session τ) : Chains s.Stays := by
  constructor
  · exact fun m => ⟨rfl, rfl, fun ⟨q, a, hmem, _⟩ => nomatch hmem⟩
  · intro m m' m'' es fs hes hfs
    refine ⟨?_, hfs.closed.trans hes.closed, ?_⟩
    · rw [identitySince_append, ← hes.identity, hfs.identity]
    · rintro ⟨q, a, hmem, hq⟩
      rcases List.mem_append.1 hmem with hmem | hmem
      · exact hes.undeleted ⟨q, a, hmem, hq⟩
      · exact hfs.undeleted ⟨q, a, hmem, hq⟩

/-- One request that replaces the snapshot or leaves it alone. -/
theorem stays_of_replaced {refusal : Reply → Fault} {q : Request} {es : List (Event τ)}
    {r : Except Stop Unit} (hmethod : q.method ≠ .delete)
    (hafter : ∀ a, s.identityAfter m.snapshot.identity (.answered q a) =
      ((readIn refusal q a).toOption.bind Snapshot.identity).or m.snapshot.identity)
    (h : Replaced env refusal q m es r m') :
    s.Stays m es m' := by
  obtain ⟨t, rfl, hread⟩ := h
  have hundeleted : ¬ Deletes [(.answered q (env.answer t q) : Event τ)] := by
    rintro ⟨q', a, hmem, hq⟩
    obtain ⟨rfl, -⟩ := Event.answered.inj (List.mem_singleton.1 hmem)
    exact hmethod hq
  rcases hread with ⟨new, hnew, -, rfl⟩ | ⟨e, he, -, rfl⟩
  · obtain ⟨k, hk⟩ := readIn_identity hnew
    refine ⟨?_, rfl, hundeleted⟩
    show new.identity = s.identityAfter m.snapshot.identity (.answered q (env.answer t q))
    rw [hafter, hnew, hk]
    simp [Except.toOption, hk]
  · refine ⟨?_, rfl, hundeleted⟩
    show m'.snapshot.identity = s.identityAfter m'.snapshot.identity (.answered q (env.answer t q))
    rw [hafter, he]
    rfl

/-- The address of the statements of a session is not that of all sessions. -/
theorem statementListUrl_ne (s : Session τ) (url : String) : Statement.listUrl url ≠ s.listUrl := by
  intro h
  have hlast : (Statement.listUrl url).toList.reverse.take 2 = s.listUrl.toList.reverse.take 2 := by
    rw [h]
  unfold Statement.listUrl listUrl at hlast
  rw [String.toList_append, String.toList_append, List.reverse_append, List.reverse_append,
    List.take_append_of_le_length (by decide), List.take_append_of_le_length (by decide)] at hlast
  exact absurd hlast (by decide)

theorem identityAfter_of_statementRequest {n : Int} {q : Request} {a : Answer}
    (h : StatementRequest (s.urlOf n) q) :
    s.identityAfter (some n) (.answered q a) = some n := by
  have haside := numberAfter_of_aside (aside_of_statementRequest (a := a) h)
  have hnot : ∀ q' a', Event.answered (τ := τ) q a = .answered q' a' →
      ¬ (q'.method = .post ∧ q'.url = s.listUrl) := by
    intro q' a' he
    obtain ⟨rfl, rfl⟩ := Event.answered.inj he
    rcases h with ⟨document, rfl⟩ | ⟨name, rfl⟩
    · exact fun hpost => s.statementListUrl_ne _ hpost.2
    · exact fun hpost => nomatch hpost.1
  rw [identityAfter_of_not_creation hnot, Option.map_some, haside]

variable [Timeline τ]

/-- The operations of a session that do not end it: creating it, and errands. -/
inductive Calm (s : Session τ) : ∀ {α : Type}, Run Memory τ α → Prop where
  | create : Calm s s.create
  | errand {α : Type} {x : Run Memory τ α} : s.Errand x → Calm s x

theorem errand_stays {x : Run Memory τ α} (h : s.Errand x) (m : Memory) :
    Leads env x m fun es _ m' => s.Stays m es m' := by
  refine (errand_did h m).mono fun es r m' hdid => ?_
  cases hdid with
  | unasked hnone =>
      refine ⟨(identitySince_eq_self fun e hmem => ?_).symm, rfl, ?_⟩
      · cases e with
        | answered q a => exact absurd hmem (hnone q a)
        | _ => rfl
      · rintro ⟨q, a, hmem, -⟩
        exact hnone q a hmem
  | @looked n _ _ _ hidentity hreplaced =>
      refine stays_of_replaced (fun hget => by cases hget) (fun a => ?_) hreplaced
      have hlook : s.identityAfter (some n) (.answered (.get (s.urlOf n)) a) =
          some ((numberIn? (.get (s.urlOf n)) a).getD n) :=
        congrArg some (if_pos ⟨rfl, rfl⟩)
      rw [hidentity, hlook, numberIn_of_readIn s.lookRefused]
      cases (readIn s.lookRefused (.get (s.urlOf n)) a).toOption.bind Snapshot.identity <;> rfl
  | executed hidentity hrequests =>
      refine ⟨?_, rfl, ?_⟩
      · rw [hidentity]
        refine (identitySince_eq_self fun e hmem => ?_).symm
        cases e with
        | answered q a => exact identityAfter_of_statementRequest (hrequests q a hmem)
        | _ => rfl
      · rintro ⟨q, a, hmem, hq⟩
        rcases hrequests q a hmem with ⟨document, rfl⟩ | ⟨name, rfl⟩
        · cases hq
        · cases hq

theorem calm_stays {x : Run Memory τ α} (h : s.Calm x) (m : Memory) :
    Leads env x m fun es _ m' => s.Stays m es m' := by
  cases h with
  | create =>
      refine create_leads.mono fun es r m' h => stays_of_replaced (fun hpost => by cases hpost) ?_ h
      intro a
      rw [identityAfter_creation, numberIn_of_readIn s.creationRefused]
  | errand h => exact errand_stays h m

/-! ## After the end -/

/-- From now on, closing the session does nothing, whatever else is done with it. -/
def ClosedForGood (s : Session τ) (env : Surroundings τ) (w : World Memory τ) : Prop :=
  ∀ {β : Type} (y : Run Memory τ β), Composed s.Operation y →
    s.close.events env (y env w).2 = [] ∧ s.close env (y env w).2 = (.ok (), (y env w).2)

omit [Timeline τ] in
theorem close_of_closed (s : Session τ) (env : Surroundings τ) {w : World Memory τ}
    (h : w.memory.closed = true) :
    s.close env w = (.ok (), w) := by
  unfold close
  rw [bind_ok (show Run.memory env w = (.ok w.memory, w) from rfl), h]
  rfl

theorem closedForGood {w : World Memory τ} (h : w.memory.closed = true) : s.ClosedForGood env w := by
  intro β y hy
  have hmoves : Moves w.memory (y env w).2.memory := (operations_moves hy w.memory).holds w rfl
  have hclose := close_of_closed s env (hmoves.closed h)
  exact ⟨(Course.silent hclose rfl).events_eq, hclose⟩

/-! ## The block -/

/-- What a block comes to whose work came to `r`, if the request that deletes the session is answered
by `a`. -/
structure LeavesAs (s : Session τ) (q : Request) (a : Answer) (r r' : Except Stop α) : Prop where
  deleted : ∀ v found, r = .ok v → a.outcome q = .ok found → found.code ≤ 300 → r' = .ok v
  refused : ∀ v found, r = .ok v → a.outcome q = .ok found → 300 < found.code →
    r' = .error (.fault (found.refused .kill s!"Failed to kill session {s.name}"))
  unanswered : ∀ v e, r = .ok v → a.outcome q = .error e → r' = .error e
  answered : ∀ e found, r = .error e → a.outcome q = .ok found → r' = .error e
  faulted : ∀ e f, r = .error e → a.outcome q = .error (.fault f) → r' = .error e
  overruled : ∀ e e', r = .error e → a.outcome q = .error e' → (∀ f, e' ≠ .fault f) → r' = .error e'

omit [Timeline τ] in
theorem leavesAs_leaving (s : Session τ) (q : Request) (a : Answer) (r : Except Stop α) :
    s.LeavesAs q a r (leaving (s.killedIn q a) r) := by
  have hanswered : ∀ found, a.outcome q = .ok found → s.killedIn q a =
      if found.code > 300 then
        .error (.fault (found.refused .kill s!"Failed to kill session {s.name}"))
      else .ok () := by
    intro found hfound
    unfold killedIn
    rw [hfound]
    rfl
  have hunanswered : ∀ e, a.outcome q = .error e → s.killedIn q a = .error e := by
    intro e he
    unfold killedIn
    rw [he]
    rfl
  constructor
  · rintro v found rfl hfound hcode
    rw [hanswered found hfound, if_neg (by omega)]
    rfl
  · rintro v found rfl hfound hcode
    rw [hanswered found hfound, if_pos hcode]
    rfl
  · rintro v e rfl he
    rw [hunanswered e he]
    rfl
  · rintro e found rfl hfound
    rw [hanswered found hfound]
    split <;> rfl
  · rintro e f rfl hf
    rw [hunanswered _ hf]
    rfl
  · rintro e e' rfl he' hnot
    rw [hunanswered e' he']
    cases e' with
    | fault f => exact absurd rfl (hnot f)
    | _ => rfl

/-- What the work in a block comes to, and what is remembered after it. -/
theorem calm_course (env : Surroundings τ) {x : Run Memory τ α} (hx : Composed s.Calm x)
    (w : World Memory τ) :
    ∃ u, Course x env w (x.events env w) (x env w).1 u ∧ s.Stays w.memory (x.events env w) u.memory := by
  obtain ⟨es, r, u, hcourse, hstays⟩ :=
    hx.leads s.stays_chains (fun _ hx m => calm_stays hx m) w.memory w rfl
  rw [hcourse.events_eq, hcourse.outcome_eq]
  exact ⟨u, hcourse, hstays⟩

/-- A block in which the session that was closed before is left as the work in it leaves it. -/
theorem within_of_closed (env : Surroundings τ) {x : Run Memory τ α} (hx : Composed s.Calm x)
    {w : World Memory τ} (h : w.memory.closed = true) :
    (s.within x).events env w = x.events env w ∧ ((s.within x) env w).1 = (x env w).1 := by
  obtain ⟨u, hcourse, hstays⟩ := calm_course env hx w
  have hclose : Course s.close env u [] (.ok ()) u :=
    .silent (close_of_closed s env (hstays.closed.trans h)) rfl
  obtain ⟨v, hblock, -⟩ := within_course hcourse hclose
  have hleaving : leaving (.ok ()) (x env w).1 = (x env w).1 := by
    cases (x env w).1 <;> rfl
  rw [List.append_nil] at hblock
  exact ⟨hblock.events_eq, hblock.outcome_eq.trans hleaving⟩

/-- A block that deletes the session when it is left. -/
structure LeftWith (s : Session τ) (n : Int) (x : Run Memory τ α) (env : Surroundings τ)
    (w : World Memory τ) (a : Answer) : Prop where
  events : (s.within x).events env w = x.events env w ++ [.answered (.delete (s.urlOf n)) a]
  undeleted : ¬ Deletes (x.events env w)
  outcome : s.LeavesAs (.delete (s.urlOf n)) a (x env w).1 ((s.within x) env w).1
  closed : s.ClosedForGood env ((s.within x) env w).2

theorem within_of_open {x : Run Memory τ α} (hx : Composed s.Calm x) {w : World Memory τ} {n : Int}
    (hcreated : s.CreatedAs n (x.events env w)) (h : w.memory.closed = false) :
    ∃ a, s.LeftWith n x env w a := by
  obtain ⟨u, hcourse, hstays⟩ := calm_course env hx w
  have hidentity : u.memory.snapshot.identity = some n :=
    hstays.identity.trans (hcreated.identity _)
  have hleads : Leads env s.close u.memory (Closed env s u.memory) := close_leads s u.memory
  obtain ⟨fs, r, v, hclose, hclosed⟩ := hleads u rfl
  unfold Closed at hclosed
  simp only [hstays.closed.trans h, hidentity, Bool.false_eq_true, if_false] at hclosed
  obtain ⟨t, rfl, rfl, hmemory⟩ := hclosed
  obtain ⟨v', hblock, hmemory'⟩ := within_course hcourse hclose
  refine ⟨_, hblock.events_eq, hstays.undeleted, ?_, ?_⟩
  · rw [hblock.outcome_eq]
    exact s.leavesAs_leaving _ _ _
  · rw [hblock.run]
    refine closedForGood ?_
    rw [hmemory', hmemory, Memory.afterKill_closed]

/-- A block in which a session was created and that does not end it deletes the session exactly once,
when it is left, under the number that the creation gave it, and closing it later does nothing.  If the
session has been closed before, though, it is left alone. -/
theorem within_leaves (s : Session τ) {x : Run Memory τ α} (hx : Composed s.Calm x)
    (env : Surroundings τ) (w : World Memory τ) {n : Int}
    (hcreated : s.CreatedAs n (x.events env w)) :
    (w.memory.closed = false → ∃ a, s.LeftWith n x env w a) ∧
      (w.memory.closed = true →
        (s.within x).events env w = x.events env w ∧ ((s.within x) env w).1 = (x env w).1) :=
  ⟨fun h => within_of_open hx hcreated h, fun h => within_of_closed env hx h⟩

/-- A server at which the session 7 is idle and cannot be deleted. -/
def keepingServer : Surroundings Number :=
  let idle := idleServer ""
  { idle with
    answer := fun _ q =>
      if q.method = .delete then .reply 500 none none
      else .reply 200 (some "\x7b\"id\": 7, \"state\": \"idle\"\x7d") none }

theorem keepingServer_shows (refusal : Reply → Fault) {q : Request} (hq : q.method ≠ .delete)
    (t : Trace Number) :
    readIn refusal q (keepingServer.answer t q) = .ok { identity := some 7, state := .idle } := by
  have hanswer : keepingServer.answer t q =
      .reply 200 (some "\x7b\"id\": 7, \"state\": \"idle\"\x7d") none := if_neg hq
  rw [hanswer]
  exact readIn_of_text refusal q (by decide) (by decide +kernel)

/-- Creating a session at `keepingServer` creates the session 7. -/
theorem keepingServer_creates (s : Session Number) (m : Memory) :
    Leads keepingServer s.create m fun es r m' => ∃ a, es = [.answered s.creation a] ∧
      readIn s.creationRefused s.creation a = .ok { identity := some 7, state := .idle } ∧
      r = .ok () ∧ m'.snapshot.identity = some 7 := by
  refine create_leads.mono ?_
  rintro es r m' ⟨t, rfl, hread⟩
  have hshown := keepingServer_shows s.creationRefused (q := s.creation) (fun h => by cases h) t
  rcases hread with ⟨new, hnew, rfl, rfl⟩ | ⟨e, he, -, -⟩
  · obtain rfl := Except.ok.inj (hnew.symm.trans hshown)
    exact ⟨_, rfl, hshown, rfl, rfl⟩
  · exact nomatch he.symm.trans hshown

/-- A block that creates a session, looks at it and is then cancelled, at a server that refuses to
delete the session. -/
theorem within_leaves_of_keepingServer :
    let s : Session Number := .behind "http://livy:8998" "probe" .spark (.whole 180) (.whole 1)
    let work : Run Memory Number Unit := do
      s.create
      s.refresh
      Run.stop .cancelled
    let w : World Memory Number := ⟨{}, .whole 0, []⟩
    ((s.within work keepingServer w).2.trace.requests.map fun q => (q.method.name, q.url)) =
        [("POST", "http://livy:8998/sessions"), ("GET", "http://livy:8998/sessions/7"),
          ("DELETE", "http://livy:8998/sessions/7")] ∧
      ∃ a, s.LeftWith 7 work keepingServer w a := by
  intro s work w
  refine ⟨by decide +kernel, ?_⟩
  have hwork : Composed s.Calm work :=
    .bind (.piece .create) fun _ => .bind (.piece (.errand .refresh)) fun _ => .stop _
  have hcreated : Leads keepingServer work {} fun es _ _ => s.CreatedAs 7 es := by
    refine (keepingServer_creates s {}).bind ?_ ?_
    · rintro es u m ⟨a, rfl, hread, -, hidentity⟩
      have hlooked : ∀ t, s.CreatedAs 7 (.answered s.creation a ::
          [.answered (.get (s.urlOf 7)) (keepingServer.answer t (.get (s.urlOf 7)))]) := by
        intro t
        refine createdAs_cons hread rfl fun q a' hmem => ?_
        obtain ⟨rfl, rfl⟩ := Event.answered.inj (List.mem_singleton.1 hmem)
        refine ⟨rfl, fun k hk => ?_⟩
        rw [numberIn_of_readIn s.lookRefused,
          keepingServer_shows s.lookRefused (fun h => by cases h)] at hk
        exact (Option.some.inj hk).symm
      refine (refresh_leads hidentity).bind ?_ ?_
      · rintro fs u m' ⟨t, rfl, -⟩
        exact leads_stop _ (hlooked t)
      · rintro fs e m' ⟨t, rfl, -⟩
        exact hlooked t
    · rintro es e m ⟨a, -, -, he, -⟩
      cases he
  exact (within_leaves s hwork keepingServer w (hcreated.holds w rfl)).1 rfl

/-- A session that has been closed and is then created anew in a block is left behind. -/
theorem within_leaves_behind :
    let s : Session Number := .behind "http://livy:8998" "probe" .spark (.whole 180) (.whole 1)
    let w : World Memory Number := (s.close keepingServer ⟨{}, .whole 0, []⟩).2
    Composed s.Calm s.create ∧ s.CreatedAs 7 (s.create.events keepingServer w) ∧
      ∀ a, .answered (.delete (s.urlOf 7)) a ∉ (s.within s.create).events keepingServer w := by
  intro s w
  have hcreate : Composed s.Calm s.create := .piece .create
  have hcreated : s.CreatedAs 7 (s.create.events keepingServer w) := by
    obtain ⟨a, hevents, hread, -⟩ := (keepingServer_creates s w.memory).holds w rfl
    rw [hevents]
    exact createdAs_cons hread rfl fun q a' hmem => nomatch hmem
  have hevents := (within_of_closed keepingServer hcreate (w := w) rfl).1
  obtain ⟨u, -, hstays⟩ := calm_course keepingServer hcreate w
  refine ⟨hcreate, hcreated, fun a hmem => hstays.undeleted ⟨_, a, hevents ▸ hmem, rfl⟩⟩

end Session

end SparkGateway
