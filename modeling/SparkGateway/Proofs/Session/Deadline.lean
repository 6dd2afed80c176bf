import Mathlib.Data.Rat.Floor
import SparkGateway.Proofs.Polling.Scripted
import SparkGateway.Proofs.Session.Gate
import SparkGateway.Proofs.Timeline

/-!
# The deadline for an application

The application that runs a session may show up late.  The session is looked at until it does, with one
pause between two looks, and a look at or after the deadline is the last.  Time passes in pauses only,
so after `k` pauses the clock stands `k` pauses after the start (`Stands`), and the deadline is reached
after as many pauses as fit into the time that is allowed, counted up to a whole number.

Whatever the looks show, as long as they can be read, the wait ends: with the application if one of the
looks up to then shows it, and otherwise with the last of them
(`awaitApplication_meets_deadline`).
-/

namespace SparkGateway

namespace Run

variable {σ τ α β : Type}

/-- A round that is the last one ends a loop. -/
theorem Course.last {env : Surroundings τ} {round : α → Run σ τ (Round α β)} {a : α}
    {w v : World σ τ} {es : List (Event τ)} {r : Except Stop β}
    (h : Course (round a) env w es (r.map .done) v) (left : Nat) :
    Course (roundsWithin round (left + 1) a) env w es r v := by
  refine ⟨?_, h.steps⟩
  cases r with
  | ok b => exact bind_ok h.run
  | error e => exact Run.bind_error h.run

/-- A request is answered as the script says, and takes no time. -/
theorem ask_hears (env : Surroundings τ) (script : Nat → Said) (q : Request) (w : World σ τ) :
    ∃ v, Course (ask q) (env.saying script) w [.answered q (w.hears script 0)]
        ((w.hears script 0).outcome q) v ∧
      v.memory = w.memory ∧ v.now = w.now ∧
        v.trace.requests.length = w.trace.requests.length + 1 := by
  cases hconnects : (env.saying script).connects with
  | false =>
      have hrun := ask_of_not_connects q w hconnects
      refine ⟨_, .step hrun rfl, rfl, rfl, ?_⟩
      rw [Trace.requests_append, List.length_append]
      rfl
  | true =>
      have hrun := ask_of_connects q w hconnects
      have hquiet : (w.trace ++ opening q).requests = w.trace.requests := by
        rw [Trace.requests_append]
        exact List.append_nil _
      have hanswer : (env.saying script).answer (w.trace ++ opening q) q = w.hears script 0 := by
        show (script (w.trace ++ opening q).requests.length).answer = _
        rw [hquiet]
        rfl
      rw [hanswer] at hrun
      refine ⟨_, ⟨hrun, opening q ++ [.asked q, .released], List.append_assoc _ _ _, ?_⟩, rfl, rfl, ?_⟩
      · rw [Surroundings.events_append]
        simp [Surroundings.events, Step.event?, opening, ← hanswer]
      · rw [Trace.requests_append, List.length_append, hquiet]
        rfl

end Run

namespace Session

open Run

variable {τ : Type} {env : Surroundings τ} {s : Session τ} {script : Nat → Said}
  {w u v : World Memory τ} {n : Int}

/-- The number by which a session is known after `k` looks that show `seen`, if it was known by `n`
before them. -/
def numberAt (n : Int) (seen : Nat → Snapshot) : Nat → Int
  | 0 => n
  | k + 1 => (seen k).identity.getD n

/-- The first `k` looks at a session, each with the pause after it. -/
def looking (s : Session τ) (number : Nat → Int) (said : Nat → Answer) (k : Nat) : List (Event τ) :=
  (List.range k).flatMap fun i => [s.look (number i) (said i), .paused s.pause]

/-- The looks at a session up to the one after `k` pauses. -/
def looksTo (s : Session τ) (number : Nat → Int) (said : Nat → Answer) (k : Nat) : List (Event τ) :=
  s.looking number said k ++ [s.look (number k) (said k)]

/-- The fault of a session whose application has not shown up in time. -/
def notStarted [Timeline τ] (s : Session τ) : Fault :=
  let limit := Timeline.text s.applicationDeadline
  .notStarted s!"{s.name} application isn't started in {limit} seconds."

/-- The wait for the application of a session meets its deadline, which is reached after `last` pauses;
`seen` is what the looks at the session show. -/
structure MeetsDeadline [AddCommGroup τ] [LE τ] [Timeline τ] (s : Session τ) (env : Surroundings τ)
    (w : World Memory τ) (number : Nat → Int) (said : Nat → Answer) (seen : Nat → Snapshot)
    (last : Nat) : Prop where
  found : ∀ j application, j ≤ last → (∀ i < j, (seen i).application = none) →
    (seen j).application = some application →
      (s.awaitApplication env w).1 = .ok application ∧
        s.awaitApplication.events env w = s.looksTo number said j ∧
        (s.awaitApplication env w).2.now = w.now + j • s.pause
  late : (∀ i ≤ last, (seen i).application = none) →
    (s.awaitApplication env w).1 = .error (.fault s.notStarted) ∧
      s.awaitApplication.events env w = s.looksTo number said last ∧
      (s.awaitApplication env w).2.now = w.now + last • s.pause ∧
      w.now + s.applicationDeadline ≤ (s.awaitApplication env w).2.now
  ends : (s.awaitApplication env w).1 ≠ .error .spent

/-- After `k` looks that show `seen`, and `k` pauses, the wait that began in `w` has come to `u`. -/
structure Stands [AddCommGroup τ] (s : Session τ) (n : Int) (seen : Nat → Snapshot)
    (w : World Memory τ) (k : Nat) (u : World Memory τ) : Prop where
  number : u.memory.snapshot.identity = some (numberAt n seen k)
  now : u.now = w.now + k • s.pause
  heard : u.trace.requests.length = w.trace.requests.length + k

theorem looking_succ (s : Session τ) (number : Nat → Int) (said : Nat → Answer) (k : Nat) :
    s.looking number said (k + 1) =
      s.looking number said k ++ [s.look (number k) (said k), .paused s.pause] := by
  unfold looking
  rw [List.range_succ, List.flatMap_append, List.flatMap_singleton]

/-! ## One look -/

/-- The address of a reply shows only in faults. -/
theorem Snapshot.ofReply_of_url {url url' : String} {code : Int} {body contentType : Option String}
    {new : Snapshot} (h : Snapshot.ofReply ⟨url, code, body, contentType⟩ = .ok new) :
    Snapshot.ofReply ⟨url', code, body, contentType⟩ = .ok new := by
  unfold ofReply Reply.document at h ⊢
  cases hbody : body.bind Json.parse? with
  | none =>
      rw [hbody] at h
      cases h
  | some document =>
      rw [hbody] at h
      cases document with
      | obj fields =>
          unfold ofJson at h ⊢
          simp only [Reply.fields, mapError_ok, bind, Except.bind] at h ⊢
          split at h
          · exact h
          · cases h
      | _ => cases h

/-- What an answer shows of a session does not depend on the number it was looked at under. -/
theorem shown_of_shown {n' : Int} {a : Answer} {new : Snapshot} (h : s.shown n a = .ok new) :
    s.shown n' a = .ok new := by
  obtain ⟨found, hgood, hread⟩ := readIn_eq_ok_iff.1 h
  obtain ⟨houtcome, hok⟩ := Answer.outcome_of_goodReply hgood
  cases a with
  | reply code body contentType =>
      obtain rfl := Except.ok.inj houtcome
      exact readIn_eq_ok_iff.2 ⟨_, Answer.goodReply_of_outcome rfl hok, Snapshot.ofReply_of_url hread⟩
  | broken message => cases houtcome
  | stop e => cases houtcome

/-- The world after a look at the session that has shown `seen`. -/
structure Looked (u : World Memory τ) (seen : Snapshot) (v : World Memory τ) : Prop where
  snapshot : v.memory.snapshot = seen
  now : v.now = u.now
  heard : v.trace.requests.length = u.trace.requests.length + 1

theorem refresh_looked {seen : Snapshot} (hnumber : u.memory.snapshot.identity = some n)
    (hshown : s.shown n (u.hears script 0) = .ok seen) :
    ∃ v, Course s.refresh (env.saying script) u [s.look n (u.hears script 0)] (.ok ()) v ∧
      Looked u seen v := by
  obtain ⟨v, hcourse, hmemory, hnow, hheard⟩ := ask_hears env script (.get (s.urlOf n)) u
  obtain ⟨found, hgood, hread⟩ := readIn_eq_ok_iff.1 hshown
  obtain ⟨houtcome, hok⟩ := Answer.outcome_of_goodReply hgood
  rw [houtcome] at hcourse
  refine ⟨{ v with memory := { v.memory with snapshot := seen } }, ⟨?_, hcourse.steps⟩, rfl, hnow,
    hheard⟩
  unfold refresh
  rw [bind_ok (snapshot_eq _ u), hnumber]
  refine (bind_ok hcourse.run).trans ?_
  rw [hok, hread]
  rfl

variable [Timeline τ]

/-- What is made of a snapshot while the application is awaited. -/
def seek (s : Session τ) (deadline : τ) : Run Memory τ (Run.Round Unit Json) := do
  match (← snapshot).application with
  | some application => return .done application
  | none => do
    let t ← Run.now
    if Timeline.le deadline t then
      let limit := Timeline.text s.applicationDeadline
      Run.fail (.notStarted s!"{s.name} application isn't started in {limit} seconds.")
    Run.sleep s.pause
    return .again ()

theorem applicationRound_eq (s : Session τ) (deadline : τ) :
    s.applicationRound deadline = (do s.refresh; s.seek deadline) := rfl

theorem seek_found {application : Json} (deadline : τ)
    (happlication : v.memory.snapshot.application = some application) :
    s.seek deadline env v = (.ok (.done application), v) := by
  unfold seek
  rw [bind_ok (snapshot_eq env v), happlication]
  rfl

theorem seek_late {deadline : τ} (happlication : v.memory.snapshot.application = none)
    (hlate : Timeline.le deadline v.now = true) :
    s.seek deadline env v = (.error (.fault s.notStarted), v) := by
  have hnow : Run.now env v = (.ok v.now, v) := rfl
  unfold seek
  rw [bind_ok (snapshot_eq env v), happlication]
  dsimp only
  rw [bind_ok hnow, if_pos hlate]
  rfl

theorem seek_again {deadline : τ} (happlication : v.memory.snapshot.application = none)
    (hearly : Timeline.le deadline v.now = false) (huncut : ∀ t, env.halt t = none) :
    s.seek deadline env v = (.ok (.again ()),
      ⟨v.memory, Timeline.plus v.now s.pause, v.trace ++ [.slept s.pause]⟩) := by
  have hnow : Run.now env v = (.ok v.now, v) := rfl
  unfold seek
  rw [bind_ok (snapshot_eq env v), happlication]
  dsimp only
  rw [bind_ok hnow, hearly, if_neg Bool.false_ne_true]
  exact bind_ok (sleep_eq s.pause env v (huncut _))

/-! ## The looks up to one of them -/

variable [AddCommGroup τ] [LinearOrder τ] [Timeline.Exact τ] {seen : Nat → Snapshot} {k : Nat}
  {deadline : τ}

omit [Timeline τ] [LinearOrder τ] [Timeline.Exact τ] in
theorem Stands.hears (h : s.Stands n seen w k u) (script : Nat → Said) :
    u.hears script 0 = w.hears script k := by
  unfold World.hears
  rw [h.heard]
  rfl

omit [Timeline τ] [LinearOrder τ] [Timeline.Exact τ] in
/-- The look after `k` pauses shows what it should, whatever the session is called by then. -/
theorem Stands.look (h : s.Stands n seen w k u) (env : Surroundings τ)
    (hshown : ∀ k, s.shown n (w.hears script k) = .ok (seen k)) :
    ∃ v, Course s.refresh (env.saying script) u [s.look (numberAt n seen k) (w.hears script k)]
        (.ok ()) v ∧ Looked u (seen k) v := by
  rw [← h.hears script]
  refine refresh_looked h.number ?_
  rw [h.hears script]
  exact shown_of_shown (hshown k)

/-- A look that shows no application, before the deadline, is followed by a pause and another look. -/
theorem Stands.again (h : s.Stands n seen w k u) (env : Surroundings τ)
    (hshown : ∀ k, s.shown n (w.hears script k) = .ok (seen k))
    (happlication : (seen k).application = none) (hearly : w.now + k • s.pause < deadline) :
    ∃ u', Course (s.applicationRound deadline) (env.saying script) u
        [s.look (numberAt n seen k) (w.hears script k), .paused s.pause] (.ok (.again ())) u' ∧
      s.Stands n seen w (k + 1) u' := by
  obtain ⟨v, hcourse, hlooked⟩ := h.look env hshown
  obtain ⟨n', hn'⟩ := readIn_identity (hshown k)
  have hnow : v.now = w.now + k • s.pause := hlooked.now.trans h.now
  have hle : Timeline.le deadline v.now = false := by
    rw [← Bool.not_eq_true, Timeline.Exact.le_iff, hnow, not_le]
    exact hearly
  have huncut : ∀ t, (env.saying script).halt t = none := fun t => rfl
  have hpause : Course (s.seek deadline) (env.saying script) v [.paused s.pause] (.ok (.again ())) _ :=
    .step (seek_again (hlooked.snapshot ▸ happlication) hle huncut) rfl
  rw [applicationRound_eq]
  refine ⟨_, hcourse.bind hpause, ?_, ?_, ?_⟩
  · simp [numberAt, hlooked.snapshot, hn']
  · show Timeline.plus v.now s.pause = _
    rw [Timeline.Exact.plus_eq, hnow, succ_nsmul, add_assoc]
  · show (v.trace ++ [Step.slept s.pause]).requests.length = _
    rw [Trace.requests_append, List.length_append, hlooked.heard, h.heard]
    rfl

/-- As long as no look shows an application and the deadline has not been reached, the wait goes on. -/
theorem rounds_stand (env : Surroundings τ) (hnumber : w.memory.snapshot.identity = some n)
    (hshown : ∀ k, s.shown n (w.hears script k) = .ok (seen k))
    (hnone : ∀ i < k, (seen i).application = none) (hearly : ∀ i < k, w.now + i • s.pause < deadline) :
    ∃ u, s.Stands n seen w k u ∧ ∀ left es r v,
      Course (roundsWithin (fun () => s.applicationRound deadline) left ()) (env.saying script) u
        es r v →
      Course (roundsWithin (fun () => s.applicationRound deadline) (k + left) ()) (env.saying script) w
        (s.looking (numberAt n seen) (w.hears script) k ++ es) r v := by
  induction k with
  | zero =>
      refine ⟨w, ⟨hnumber, by simp, rfl⟩, fun left es r v hrest => ?_⟩
      rw [Nat.zero_add]
      exact hrest
  | succ k ih =>
      obtain ⟨u, hstands, hbefore⟩ := ih (fun i hi => hnone i (by omega)) fun i hi => hearly i (by omega)
      obtain ⟨u', hround, hstands'⟩ :=
        hstands.again env hshown (hnone k k.lt_succ_self) (hearly k k.lt_succ_self)
      refine ⟨u', hstands', fun left es r v hrest => ?_⟩
      have hfrom := hbefore (left + 1) _ r v (hround.bind hrest)
      rw [looking_succ, List.append_assoc, Nat.add_assoc, Nat.add_comm 1]
      exact hfrom

/-! ## The last look -/

/-- The wait for the application begins with the first look. -/
theorem awaitApplication_course {es : List (Event τ)} {r : Except Stop Json} {v : World Memory τ}
    (happlication : w.memory.snapshot.application = none)
    (h : Course (roundsWithin (fun () => s.applicationRound (w.now + s.applicationDeadline))
      env.patience ()) env w es r v) :
    Course s.awaitApplication env w es r v := by
  have hnow : Run.now env w = (.ok w.now, w) := rfl
  refine ⟨?_, h.steps⟩
  unfold awaitApplication
  rw [bind_ok (snapshot_eq env w), happlication]
  dsimp only
  rw [bind_ok hnow, Timeline.Exact.plus_eq]
  exact h.rounds.run

variable [IsOrderedAddMonoid τ]

/-- The wait ends as is made of what the look after `k` pauses shows, if nothing has ended it before. -/
theorem awaitApplication_ends (hnumber : w.memory.snapshot.identity = some n)
    (happlication : w.memory.snapshot.application = none)
    (hshown : ∀ k, s.shown n (w.hears script k) = .ok (seen k))
    (hnone : ∀ i < k, (seen i).application = none)
    (hearly : ∀ i < k, i • s.pause < s.applicationDeadline) (hpatience : k < env.patience)
    {r : Except Stop Json}
    (hseek : ∀ v, v.memory.snapshot = seen k → v.now = w.now + k • s.pause →
      s.seek (w.now + s.applicationDeadline) (env.saying script) v = (r.map Run.Round.done, v)) :
    ∃ v, Course s.awaitApplication (env.saying script) w
        (s.looksTo (numberAt n seen) (w.hears script) k) r v ∧ v.now = w.now + k • s.pause := by
  have hbefore : ∀ i < k, w.now + i • s.pause < w.now + s.applicationDeadline :=
    fun i hi => add_lt_add_right (hearly i hi) w.now
  obtain ⟨u, hstands, hwait⟩ := rounds_stand env hnumber hshown hnone hbefore
  obtain ⟨v, hlook, hlooked⟩ := hstands.look env hshown
  have hnow : v.now = w.now + k • s.pause := hlooked.now.trans hstands.now
  have hround : Course (s.applicationRound (w.now + s.applicationDeadline)) (env.saying script) u
      [s.look (numberAt n seen k) (w.hears script k)] (r.map Run.Round.done) v := by
    rw [applicationRound_eq]
    exact ⟨(bind_ok hlook.run).trans (hseek v hlooked.snapshot hnow), hlook.steps⟩
  obtain ⟨left, hleft⟩ := Nat.exists_eq_add_of_lt hpatience
  refine ⟨v, awaitApplication_course happlication ?_, hnow⟩
  have hall := hwait (left + 1) _ r v (hround.last left)
  rw [← Nat.add_assoc, ← hleft] at hall
  exact hall

/-- If it takes `last` pauses to reach the deadline, the deadline is met. -/
theorem awaitApplication_meets {last : Nat} (hnumber : w.memory.snapshot.identity = some n)
    (happlication : w.memory.snapshot.application = none)
    (hshown : ∀ k, s.shown n (w.hears script k) = .ok (seen k))
    (hreach : ∀ i, s.applicationDeadline ≤ i • s.pause ↔ last ≤ i) (hpatience : last < env.patience) :
    s.MeetsDeadline (env.saying script) w (numberAt n seen) (w.hears script) seen last := by
  have hearly : ∀ {k}, k ≤ last → ∀ i < k, i • s.pause < s.applicationDeadline := by
    intro k hk i hi
    rw [← not_le, hreach]
    omega
  have hfound : ∀ j application, j ≤ last → (∀ i < j, (seen i).application = none) →
      (seen j).application = some application →
        ∃ v, Course s.awaitApplication (env.saying script) w
          (s.looksTo (numberAt n seen) (w.hears script) j) (.ok application) v ∧
            v.now = w.now + j • s.pause := by
    intro j application hj hnone hsome
    refine awaitApplication_ends hnumber happlication hshown hnone (hearly hj)
      (by omega) fun v hsnapshot _ => seek_found _ ?_
    rw [hsnapshot]
    exact hsome
  have hlate : (∀ i ≤ last, (seen i).application = none) →
      ∃ v, Course s.awaitApplication (env.saying script) w
        (s.looksTo (numberAt n seen) (w.hears script) last) (.error (.fault s.notStarted)) v ∧
          v.now = w.now + last • s.pause := by
    intro hnone
    refine awaitApplication_ends hnumber happlication hshown (fun i hi => hnone i hi.le)
      (hearly le_rfl) hpatience fun v hsnapshot hnow => seek_late ?_ ?_
    · rw [hsnapshot]
      exact hnone last le_rfl
    · rw [Timeline.Exact.le_iff, hnow]
      exact add_le_add_right ((hreach last).2 le_rfl) w.now
  constructor
  · intro j application hj hnone hsome
    obtain ⟨v, hcourse, hnow⟩ := hfound j application hj hnone hsome
    exact ⟨hcourse.outcome_eq, hcourse.events_eq, hcourse.run ▸ hnow⟩
  · intro hnone
    obtain ⟨v, hcourse, hnow⟩ := hlate hnone
    have hend : (s.awaitApplication (env.saying script) w).2.now = w.now + last • s.pause :=
      hcourse.run ▸ hnow
    refine ⟨hcourse.outcome_eq, hcourse.events_eq, hend, ?_⟩
    rw [hend]
    exact add_le_add_right ((hreach last).2 le_rfl) w.now
  · -- The first look that shows an application decides, if it is among those up to the deadline.
    by_cases hnone : ∀ i ≤ last, (seen i).application = none
    · obtain ⟨v, hcourse, -⟩ := hlate hnone
      rw [hcourse.outcome_eq]
      exact nofun
    · have hsome : ∃ i, (seen i).application ≠ none := by
        by_contra hall
        exact hnone fun i _ => not_not.1 fun hi => hall ⟨i, hi⟩
      have hfirst : Nat.find hsome ≤ last := by
        by_contra hafter
        exact hnone fun i hi => not_not.1 (Nat.find_min hsome (by omega))
      obtain ⟨application, happlication⟩ := Option.ne_none_iff_exists'.1 (Nat.find_spec hsome)
      obtain ⟨v, hcourse, -⟩ := hfound _ application hfirst
        (fun i hi => not_not.1 (Nat.find_min hsome hi)) happlication
      rw [hcourse.outcome_eq]
      exact nofun

end Session

namespace Session

open Run

variable {τ : Type} [Field τ] [LinearOrder τ] [IsStrictOrderedRing τ] [FloorSemiring τ] [Timeline τ]
  [Timeline.Exact τ]

/-- An application that is known is given at once.  Otherwise the session is looked at until a look shows
one, and for the last time after as many pauses as it takes to reach the deadline. -/
theorem awaitApplication_meets_deadline (s : Session τ) (hpause : 0 < s.pause) (env : Surroundings τ)
    (script : Nat → Said) (w : World Memory τ) :
    (∀ application, w.memory.snapshot.application = some application →
      s.awaitApplication (env.saying script) w = (.ok application, w)) ∧
    ∀ n seen, w.memory.snapshot.identity = some n → w.memory.snapshot.application = none →
      (∀ k, s.shown n (w.hears script k) = .ok (seen k)) →
      ⌈s.applicationDeadline / s.pause⌉₊ < env.patience →
        s.MeetsDeadline (env.saying script) w (numberAt n seen) (w.hears script) seen
          ⌈s.applicationDeadline / s.pause⌉₊ := by
  refine ⟨fun application h => s.awaitApplication_known _ w h, ?_⟩
  intro n seen hnumber happlication hshown hpatience
  have hreach : ∀ i : ℕ, s.applicationDeadline ≤ i • s.pause ↔
      ⌈s.applicationDeadline / s.pause⌉₊ ≤ i := by
    intro i
    rw [Nat.ceil_le, div_le_iff₀ hpause, nsmul_eq_mul]
  exact awaitApplication_meets hnumber happlication hshown hreach hpatience

/-- The session 7 is starting, and from the third look on an application runs it. -/
def lateApplication (k : Nat) : Said :=
  if k < 2 then .reply 200 (some "\x7b\"id\": 7, \"state\": \"starting\"\x7d") none
  else .reply 200
    (some "\x7b\"id\": 7, \"state\": \"starting\", \"appId\": \"application_1\"\x7d") none

/-- What the looks at this session show. -/
def shownLate (k : Nat) : Snapshot :=
  { identity := some 7, application := if k < 2 then none else some (.str "application_1"),
    state := .starting }

omit [Field τ] [LinearOrder τ] [IsStrictOrderedRing τ] [FloorSemiring τ] [Timeline τ]
  [Timeline.Exact τ] in
theorem shown_lateApplication (s : Session τ) (k : Nat) :
    s.shown 7 (lateApplication k).answer = .ok (shownLate k) := by
  unfold lateApplication shownLate
  by_cases hk : k < 2
  · rw [if_pos hk, if_pos hk]
    exact readIn_of_text _ _ (by decide) (by decide +kernel)
  · rw [if_neg hk, if_neg hk]
    let text := "\x7b\"id\": 7, \"state\": \"starting\", \"appId\": \"application_1\"\x7d"
    let found : Reply := ⟨s.urlOf 7, 200, some text, none⟩
    let fields : Json.Fields :=
      [("id", .int 7), ("state", .str "starting"), ("appId", .str "application_1")]
    have hnumbers : found.Numbers fields 7 := ⟨Reply.document_of_same (by decide +kernel), rfl⟩
    have hstate : State.parse (fields.get "state") = .ok .starting := State.starting.parse_word
    refine readIn_eq_ok_iff.2 ⟨found, rfl, ?_⟩
    rw [ofReply_of_numbers hnumbers, hstate]
    rfl

/-- Two and a half seconds are enough for two pauses of a second, and one second is not. -/
theorem awaitApplication_meets_deadline_of_lateApplication :
    let s (limit : ℚ) : Session ℚ := .behind "http://livy:8998" "probe" .spark limit 1
    let env : Surroundings ℚ := Replies.surroundings {} 9
    let w : World Memory ℚ := ⟨.attached 7, 0, []⟩
    let said (k : Nat) : Answer := (lateApplication k).answer
    (((s (5 / 2)).awaitApplication (env.saying lateApplication) w).1 = .ok (.str "application_1") ∧
      (s (5 / 2)).awaitApplication.events (env.saying lateApplication) w =
        [(s (5 / 2)).look 7 (said 0), .paused 1, (s (5 / 2)).look 7 (said 1), .paused 1,
          (s (5 / 2)).look 7 (said 2)]) ∧
    ((s 1).awaitApplication (env.saying lateApplication) w).1 = .error (.fault (s 1).notStarted) ∧
      (s 1).awaitApplication.events (env.saying lateApplication) w =
        [(s 1).look 7 (said 0), .paused 1, (s 1).look 7 (said 1)] := by
  intro s env w said
  have hshown : ∀ limit k, (s limit).shown 7 (w.hears lateApplication k) = .ok (shownLate k) := by
    intro limit k
    have hears : w.hears lateApplication k = (lateApplication k).answer :=
      congrArg (fun i => (lateApplication i).answer) (Nat.zero_add k)
    rw [hears]
    exact shown_lateApplication _ k
  have hlong : ⌈(s (5 / 2)).applicationDeadline / (s (5 / 2)).pause⌉₊ = 3 := by
    show ⌈(5 / 2 : ℚ) / 1⌉₊ = 3
    norm_num [Nat.ceil_eq_iff]
  have hshort : ⌈(s 1).applicationDeadline / (s 1).pause⌉₊ = 1 := by
    show ⌈(1 : ℚ) / 1⌉₊ = 1
    norm_num
  have hfirst := (awaitApplication_meets_deadline (s (5 / 2)) one_pos env lateApplication w).2 7
    shownLate rfl rfl (hshown _) (by rw [hlong]; decide)
  have hsecond := (awaitApplication_meets_deadline (s 1) one_pos env lateApplication w).2 7
    shownLate rfl rfl (hshown _) (by rw [hshort]; decide)
  rw [hlong] at hfirst
  rw [hshort] at hsecond
  have hyet : ∀ i < 2, (shownLate i).application = none := fun i hi => if_pos hi
  obtain ⟨hfound, hlooks, -⟩ := hfirst.found 2 (.str "application_1") (by decide) hyet rfl
  obtain ⟨hlate, hlooks', -⟩ := hsecond.late fun i hi => hyet i (by omega)
  exact ⟨⟨hfound, hlooks⟩, hlate, hlooks'⟩

end Session

end SparkGateway
