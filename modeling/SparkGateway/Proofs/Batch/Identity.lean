import SparkGateway.Proofs.Batch.Pieces
import SparkGateway.Proofs.Batch.Submission
import SparkGateway.Proofs.Page.Fetching

/-!
# The number of a batch

A batch is given its number once, by the one submission that succeeds, and nothing takes the number away
or changes it.  All that can be done with a batch is listed here (`Act`), and a history is whatever is
done one after another, whether it succeeds or not (`deeds`).

Only a submission sends a document.  Every other operation is composed of pieces that send none
(`operation_plain`), so this needs no look at the order of the pieces.  Without a number an operation
stops before it has asked for anything, and for which reason is told by `unnumbered`.
-/

namespace SparkGateway

namespace Batch

open Run

variable {τ α β : Type} {env : Surroundings τ}

/-- The operations on a batch that has been submitted. -/
inductive Operation where
  | kill
  | pollState
  | isAlive
  | application
  | driverHost
  | driverLogUrl
  | containers
  | fullLog
  | tail
  | awaitCompletion
  deriving DecidableEq

/-- What can be done with a batch: submit it, use it, or change how it is polled. -/
inductive Act (τ : Type) where
  | submit
  | use (o : Operation)
  | setAttempts (attempts : Int)
  | setPause (pause : τ)

/-- Whether an operation needs the resource manager before anything else. -/
def Operation.needsManager (o : Operation) : Prop :=
  o = .driverHost ∨ o = .driverLogUrl ∨ o = .containers

/-- Whether an operation asks for the batch as often as the attempts allow. -/
def Operation.polls (o : Operation) : Prop :=
  o ≠ .kill ∧ o ≠ .fullLog ∧ o ≠ .tail

instance (o : Operation) : Decidable o.needsManager := inferInstanceAs (Decidable (_ ∨ _))

instance (o : Operation) : Decidable o.polls := inferInstanceAs (Decidable (_ ∧ _))

/-- Why polling stops that asks for a batch without a number. -/
def unasked (b : Batch τ) : Stop :=
  if b.polling.attempts < 1 then .misuse .noAttempts
  else .fault (.unsubmitted "Batch job has not been submitted yet")

/-- Why an operation stops on a batch without a number. -/
def unnumbered (b : Batch τ) (o : Operation) : Stop :=
  if o.needsManager ∧ b.cluster.isNone then .misuse .noResourceManager
  else if o.polls then b.unasked
  else .fault (.unsubmitted "Batch job has not been submitted yet")

variable [Timeline τ]

/-- An operation, without what it gives. -/
def operation (b : Batch τ) : Operation → Run (Page.Cache τ) τ Unit
  | .kill => b.kill
  | .pollState => do let _ ← b.pollState
  | .isAlive => do let _ ← b.isAlive
  | .application => do let _ ← b.application
  | .driverHost => do let _ ← b.driverHost
  | .driverLogUrl => do let _ ← b.driverLogUrl
  | .containers => do let _ ← b.containers
  | .fullLog => do let _ ← b.fullLog
  | .tail => b.tail Run.give
  | .awaitCompletion => do let _ ← b.awaitCompletion

/-- Does something with a batch, and hands on the batch. -/
def act (b : Batch τ) : Act τ → Run (Page.Cache τ) τ (Batch τ)
  | .submit => b.submit
  | .use o => do
    b.operation o
    return b
  | .setAttempts attempts => return b.withAttempts attempts
  | .setPause pause => return b.withPause pause

/-- Something that was done with a batch, and what came of it. -/
structure Deed (τ : Type) where
  act : Act τ
  before : Batch τ
  events : List (Event τ)
  outcome : Except Stop (Batch τ)

/-- The batch that is held afterwards. -/
def Deed.after (d : Deed τ) : Batch τ := d.before.kept d.outcome

/-- A batch was submitted. -/
def Deed.Submits (d : Deed τ) : Prop := d.act = .submit ∧ ∃ b, d.outcome = .ok b

/-- Doing something with a batch, in a world. -/
def deed (env : Surroundings τ) (b : Batch τ) (w : World (Page.Cache τ) τ) (x : Act τ) : Deed τ :=
  ⟨x, b, (b.act x).events env w, (b.act x env w).1⟩

/-- Doing one thing after another with a batch, from a world on. -/
def deeds (env : Surroundings τ) : Batch τ → World (Page.Cache τ) τ → List (Act τ) → List (Deed τ)
  | _, _, [] => []
  | b, w, x :: rest =>
    b.deed env w x :: deeds env (b.deed env w x).after (b.act x env w).2 rest

/-- A document was sent. -/
def Deed.Posts (d : Deed τ) : Prop := ∃ q a, .answered q a ∈ d.events ∧ q.method = .post

/-- What is true of all that is done with a batch: it is given its number once, and only then may it be
used. -/
structure NumberedOnce (env : Surroundings τ) (b : Batch τ) (ds : List (Deed τ)) : Prop where
  lasting : ∀ earlier d later n, ds = earlier ++ d :: later → d.before.id = some n →
    ∀ d' ∈ d :: later, d'.before.id = some n ∧ d'.after.id = some n
  posted : ∀ d ∈ ds, d.Posts → d.act = .submit ∧ d.before.id = none
  once : ∀ earlier d middle d' later, ds = earlier ++ d :: middle ++ d' :: later →
    d.Submits → ¬ d'.Submits
  attached : ∀ n, b.id = some n → ∀ d ∈ ds, ¬ d.Posts
  numbered : ∀ d ∈ ds, d.after.id ≠ d.before.id → d.Submits
  polling : ∀ d ∈ ds, d.after.polling ≠ d.before.polling →
    (∃ attempts, d.act = .setAttempts attempts) ∨ ∃ pause, d.act = .setPause pause
  unused : 0 < env.patience → ∀ d ∈ ds, ∀ o, d.act = .use o → d.before.id = none →
    d.outcome = .error (d.before.unnumbered o) ∧ d.events = []

/-! ## Operations send no document -/

/-- No document is sent. -/
def Unposted (es : List (Event τ)) : Prop := ∀ q a, .answered q a ∈ es → q.method ≠ .post

omit [Timeline τ] in
theorem unposted_nil : Unposted ([] : List (Event τ)) := fun _ _ h => nomatch h

omit [Timeline τ] in
theorem unposted_chains :
    Chains fun (_ : Page.Cache τ) (es : List (Event τ)) (_ : Page.Cache τ) => Unposted es := by
  constructor
  · exact fun m => unposted_nil
  · intro m m' m'' es fs hes hfs q a h
    exact (List.mem_append.1 h).elim (hes q a) (hfs q a)

theorem piece_unposted {x : Run (Page.Cache τ) τ α} (h : Piece x) (m : Page.Cache τ) :
    Leads env x m fun es _ _ => Unposted es := by
  intro w hw
  cases h with
  | memory => exact ⟨[], .ok w.memory, w, .silent rfl rfl, unposted_nil⟩
  | remember m' => exact ⟨[], .ok (), { w with memory := m' }, .silent rfl rfl, unposted_nil⟩
  | now => exact ⟨[], .ok w.now, w, .silent rfl rfl, unposted_nil⟩
  | ask q hq =>
      obtain ⟨es, r, v, hcourse, -, t, rfl, -⟩ := (ask_reads q : Does env _ _) w
      refine ⟨_, r, v, hcourse, fun q' a h => ?_⟩
      obtain ⟨rfl, -⟩ := Event.answered.inj (List.mem_singleton.1 h)
      exact hq
  | load url =>
      have hrun := Page.load_eq url env w
      refine ⟨_, _, _, ⟨hrun, _, rfl, rfl⟩, ?_⟩
      simp [Unposted, Surroundings.events, Step.event?, Page.loading, Page.connecting]
  | sleep amount =>
      obtain ⟨es, r, v, hcourse, -, rfl, -⟩ := (sleep_does amount : Does env _ _) w
      exact ⟨_, r, v, hcourse, by simp [Unposted]⟩
  | give item =>
      obtain ⟨es, r, v, hcourse, -, rfl, -⟩ := (give_does item : Does env _ _) w
      exact ⟨_, r, v, hcourse, by simp [Unposted]⟩
  | note level text => exact ⟨_, _, _, Course.step rfl rfl, unposted_nil⟩

/-- Operations are composed of pieces. -/
theorem operation_plain (b : Batch τ) (o : Operation) :
    Plain (Piece (τ := τ)) (b.operation o) := by
  cases o with
  | kill =>
      refine .bind (.ofFault _) fun url => .bind (.piece (.ask _ (by simp [Request.delete]))) fun found =>
        .bind (.ofFault _) fun number => ?_
      dsimp only
      split
      · exact .bind (.stop _) fun _ => noted_plain _ _
      · exact noted_plain _ _
  | pollState =>
      exact .bind (.bind (b.pollStatus_plain _) fun _ => .value _) fun _ => .value _
  | isAlive =>
      exact .bind (.bind (b.pollStatus_plain _) fun _ => .bind (.ofFault _) fun _ => .value _)
        fun _ => .value _
  | application => exact .bind b.application_plain fun _ => .value _
  | driverHost => exact .bind b.driverHost_plain fun _ => .value _
  | driverLogUrl =>
      refine .bind (.bind b.manager_plain fun c => .bind b.application_plain fun id => ?_)
        fun _ => .value _
      exact .bind (currentAttempt_plain _ _ _) fun _ => .ofMisfit _
  | containers =>
      refine .bind (.bind b.manager_plain fun c => .bind b.application_plain fun id => ?_)
        fun _ => .value _
      exact .bind (currentAttempt_plain _ _ _) fun _ => clusterContainers_plain _ _ _
  | fullLog =>
      refine .bind ?_ fun _ => .value _
      refine .bind (.ofFault _) fun url => .bind (.piece (.ask _ (by simp [Request.get]))) fun found => ?_
      dsimp only
      split
      · exact .bind (.stop _) fun _ => .bind (.ofStop _) fun _ => .value _
      · exact .bind (.ofStop _) fun _ => .value _
  | tail => exact b.tail_plain
  | awaitCompletion => exact .bind b.awaitCompletion_plain fun _ => .value _

theorem operation_unposted (b : Batch τ) (o : Operation) (env : Surroundings τ)
    (w : World (Page.Cache τ) τ) :
    Unposted ((b.operation o).events env w) :=
  ((b.operation_plain o).composed.leads unposted_chains (fun _ hx m => piece_unposted hx m) w.memory).holds
    w rfl

/-! ## Operations on a batch without a number -/

section Unnumbered

variable {σ : Type} {b : Batch τ}

omit [Timeline τ] in
/-- A stop for good goes through where a failure to reach the service would not. -/
theorem reachable_stop {e : Stop} (he : Polling.notYet (.error e : Except Stop (Option α)) = false) :
    (stop e : Run σ τ (Option α)).reachable = stop e := by
  cases e with
  | fault f =>
      cases f with
      | unreachable message => contradiction
      | _ => rfl
  | _ => rfl

/-- An operation that stops for good is not tried again. -/
theorem seek_stop (p : Polling τ) (what : String) {e : Stop}
    (he : Polling.notYet (.error e : Except Stop (Option α)) = false) :
    (p.seek what (stop e) : Run σ τ α) =
      stop (if p.attempts < 1 then .misuse .noAttempts else e) := by
  by_cases hattempts : p.attempts < 1
  · rw [if_pos hattempts, p.seek_eq_stop what _ hattempts]
  · obtain ⟨n, hn⟩ : ∃ n, p.attempts.toNat = n + 1 := ⟨p.attempts.toNat - 1, by omega⟩
    have htry : ∀ number last,
        p.tryOnce what number last (stop e : Run σ τ (Option α)) = stop e := by
      intro number last
      unfold Polling.tryOnce
      rw [reachable_stop he]
      rfl
    rw [if_neg hattempts, Polling.seek, if_neg hattempts, hn, Polling.tries, htry]
    rfl

omit [Timeline τ] in
theorem status_of_none (h : b.id = none) :
    (b.status : Run σ τ (Option Snapshot)) =
      stop (.fault (.unsubmitted "Batch job has not been submitted yet")) := by
  unfold status
  rw [b.batchUrl_of_none h]
  rfl

theorem pollStatus_of_none (h : b.id = none) (what : String) :
    (b.pollStatus what : Run σ τ (Snapshot × String)) = stop b.unasked := by
  unfold pollStatus
  rw [status_of_none h]
  exact seek_stop _ _ rfl

theorem application_of_none (h : b.id = none) :
    (b.application : Run σ τ Json) = stop b.unasked := by
  unfold application
  rw [status_of_none h]
  exact seek_stop _ _ rfl

omit [Timeline τ] in
/-- A loop whose first round stops does no other, if it does any. -/
theorem rounds_stop {round : α → Run σ τ (Round α β)} {a : α} {e : Stop} (h : round a = stop e)
    {env : Surroundings τ} (hpatience : 0 < env.patience) (w : World σ τ) :
    Run.rounds round a env w = (.error e, w) := by
  obtain ⟨n, hn⟩ : ∃ n, env.patience = n + 1 := ⟨env.patience - 1, by omega⟩
  have hknown : (patience : Run σ τ Nat) env w = (.ok (n + 1), w) := hn ▸ rfl
  rw [Run.rounds, bind_ok hknown, roundsWithin, h]
  rfl

/-- What needs the resource manager and then the application stops for want of one of them. -/
theorem manager_bind_of_none (h : b.id = none) (f : Cluster τ → Json → Run σ τ α) {o : Operation}
    (ho : o.needsManager) :
    (do
      let c ← b.manager
      let id ← b.application
      f c id) = stop (b.unnumbered o) := by
  have hpolls : o.polls := by
    rcases ho with rfl | rfl | rfl <;> decide
  rw [application_of_none h]
  unfold manager unnumbered
  cases b.cluster with
  | none =>
      rw [if_pos ⟨ho, rfl⟩]
      rfl
  | some c =>
      rw [if_neg (by simp), if_pos hpolls]
      rfl

end Unnumbered

/-- An operation on a batch without a number does nothing but say why. -/
theorem operation_of_none {b : Batch τ} (h : b.id = none) (o : Operation) {env : Surroundings τ}
    (hpatience : 0 < env.patience) (w : World (Page.Cache τ) τ) :
    b.operation o env w = (.error (b.unnumbered o), w) := by
  have hurl := b.batchUrl_of_none h
  cases o with
  | kill =>
      simp only [operation, kill, hurl]
      rfl
  | pollState =>
      simp only [operation, pollState, pollStatus_of_none h]
      rfl
  | isAlive =>
      simp only [operation, isAlive, pollStatus_of_none h]
      rfl
  | application =>
      simp only [operation, application_of_none h]
      rfl
  | driverHost =>
      simp only [operation, driverHost]
      rw [manager_bind_of_none h _ (by decide : Operation.driverHost.needsManager)]
      rfl
  | driverLogUrl =>
      simp only [operation, driverLogUrl]
      rw [manager_bind_of_none h _ (by decide : Operation.driverLogUrl.needsManager)]
      rfl
  | containers =>
      simp only [operation, containers]
      rw [manager_bind_of_none h _ (by decide : Operation.containers.needsManager)]
      rfl
  | fullLog =>
      simp only [operation, fullLog, logUrl, hurl]
      rfl
  | tail =>
      refine rounds_stop ?_ hpatience w
      unfold tailPage
      rw [b.askPage_of_none h]
      rfl
  | awaitCompletion =>
      refine bind_error (bind_error (rounds_stop ?_ hpatience w))
      unfold endRound
      rw [pollStatus_of_none h]
      rfl

/-! ## Single deeds -/

variable {b : Batch τ} {w : World (Page.Cache τ) τ}

theorem use_eq (o : Operation) :
    b.act (.use o) env w = ((b.operation o env w).1.map fun _ => b, (b.operation o env w).2) := by
  show andThen (b.operation o) (fun _ => value b) env w = _
  unfold andThen
  rcases b.operation o env w with ⟨_ | u, v⟩ <;> rfl

/-- Using a batch leaves it as it is. -/
theorem use_after (o : Operation) : (b.deed env w (.use o)).after = b := by
  simp only [Deed.after, deed, use_eq]
  cases (b.operation o env w).1 <;> rfl

theorem use_events (o : Operation) :
    (b.deed env w (.use o)).events = (b.operation o).events env w := by
  simp only [deed, Run.events, use_eq]

theorem use_of_none (h : b.id = none) (hpatience : 0 < env.patience) (o : Operation) :
    (b.deed env w (.use o)).outcome = .error (b.unnumbered o) ∧
      (b.deed env w (.use o)).events = [] := by
  have hstop := operation_of_none h o hpatience w
  constructor
  · simp only [deed, use_eq, hstop]
    rfl
  · rw [use_events]
    exact (Course.silent hstop rfl).events_eq

omit [Timeline τ] in
theorem submittedIn_ok {q : Request} {a : Answer} {b' : Batch τ} (h : b.submittedIn q a = .ok b') :
    ∃ n, b' = { b with id := some n } := by
  cases houtcome : a.outcome q with
  | error e =>
      rw [submittedIn, houtcome] at h
      contradiction
  | ok found =>
      rw [submittedIn_of_outcome houtcome] at h
      by_cases hok : found.ok = true
      · rw [if_pos hok] at h
        cases hsnapshot : accepted found with
        | error e =>
            rw [hsnapshot] at h
            contradiction
        | ok snapshot =>
            rw [hsnapshot] at h
            exact ⟨snapshot.id, (Except.ok.inj h).symm⟩
      · rw [if_neg hok] at h
        contradiction

omit [Timeline τ] in
/-- A submission that succeeds gives a number to a batch that had none. -/
theorem submit_ok {b' : Batch τ} (h : (b.submit env w).1 = .ok b') :
    b.id = none ∧ ∃ n, b' = { b with id := some n } := by
  cases hid : b.id with
  | some n =>
      rw [b.submit_of_number hid] at h
      contradiction
  | none =>
      have hgiven : b.workload ≠ none := by
        intro hnone
        simp only [submit, hid, hnone] at h
        contradiction
      obtain ⟨workload, hworkload⟩ := Option.ne_none_iff_exists'.1 hgiven
      obtain ⟨t, -, houtcome⟩ := submit_answered b hid hworkload env w
      exact ⟨rfl, submittedIn_ok (houtcome.symm.trans h)⟩

theorem deed_submits {x : Act τ} (h : (b.deed env w x).Submits) :
    b.id = none ∧ ∃ n, (b.deed env w x).after = { b with id := some n } := by
  obtain ⟨hx, b', hb'⟩ := h
  obtain rfl : x = .submit := hx
  obtain ⟨hid, n, hn⟩ := submit_ok hb'
  refine ⟨hid, n, ?_⟩
  rw [Deed.after, hb']
  exact hn

/-- A submission that fails leaves the batch as it is. -/
theorem submit_fails (h : ¬ (b.deed env w .submit).Submits) : (b.deed env w .submit).after = b := by
  cases houtcome : (b.deed env w .submit).outcome with
  | error e =>
      rw [Deed.after, houtcome]
      rfl
  | ok b' => exact absurd ⟨rfl, b', houtcome⟩ h

theorem deed_numbers {x : Act τ} (h : (b.deed env w x).after.id ≠ b.id) :
    (b.deed env w x).Submits := by
  cases x with
  | submit =>
      by_cases hsubmits : (b.deed env w .submit).Submits
      · exact hsubmits
      · exact absurd (congrArg Batch.id (submit_fails hsubmits)) h
  | use o => exact absurd (congrArg Batch.id (use_after o)) h
  | setAttempts attempts => exact absurd rfl h
  | setPause pause => exact absurd rfl h

theorem deed_polling {x : Act τ} (h : (b.deed env w x).after.polling ≠ b.polling) :
    (∃ attempts, x = .setAttempts attempts) ∨ ∃ pause, x = .setPause pause := by
  cases x with
  | submit =>
      by_cases hsubmits : (b.deed env w .submit).Submits
      · obtain ⟨-, n, hafter⟩ := deed_submits hsubmits
        exact absurd (congrArg Batch.polling hafter) h
      · exact absurd (congrArg Batch.polling (submit_fails hsubmits)) h
  | use o => exact absurd (congrArg Batch.polling (use_after o)) h
  | setAttempts attempts => exact Or.inl ⟨attempts, rfl⟩
  | setPause pause => exact Or.inr ⟨pause, rfl⟩

/-- A batch that has a number keeps it, whatever is done. -/
theorem deed_of_number {n : Int} (h : b.id = some n) (env : Surroundings τ)
    (w : World (Page.Cache τ) τ) (x : Act τ) :
    (b.deed env w x).after.id = some n := by
  by_cases hsame : (b.deed env w x).after.id = b.id
  · exact hsame.trans h
  · exact nomatch h.symm.trans (deed_submits (deed_numbers hsame)).1

theorem deed_posts {x : Act τ} (h : (b.deed env w x).Posts) : x = .submit ∧ b.id = none := by
  obtain ⟨q, a, hmem, hpost⟩ := h
  have hsilent : ∀ {r : Except Stop (Batch τ)}, b.act x env w = (r, w) → False := by
    intro r hr
    have hnone : (b.deed env w x).events = [] := (Course.silent hr rfl).events_eq
    rw [hnone] at hmem
    contradiction
  cases x with
  | submit =>
      cases hid : b.id with
      | none => exact ⟨rfl, rfl⟩
      | some n =>
          have hstop : b.act .submit env w = (.error (.misuse (.alreadySubmitted n)), w) := by
            rw [act, b.submit_of_number hid]
            rfl
          exact (hsilent hstop).elim
  | use o =>
      rw [use_events] at hmem
      exact absurd hpost (b.operation_unposted o env w q a hmem)
  | setAttempts attempts => exact (hsilent rfl).elim
  | setPause pause => exact (hsilent rfl).elim

/-! ## All deeds -/

theorem mem_deeds {d : Deed τ} {xs : List (Act τ)} (h : d ∈ deeds env b w xs) :
    ∃ (b' : Batch τ) (w' : World (Page.Cache τ) τ) (x : Act τ), d = b'.deed env w' x := by
  induction xs generalizing b w with
  | nil => contradiction
  | cons x xs ih =>
      rcases List.mem_cons.1 h with rfl | h
      · exact ⟨b, w, x, rfl⟩
      · exact ih h

/-- What follows a deed is done with the batch that it leaves. -/
theorem deeds_split {earlier later : List (Deed τ)} {d : Deed τ} {xs : List (Act τ)}
    (h : deeds env b w xs = earlier ++ d :: later) :
    ∃ (b' : Batch τ) (w' : World (Page.Cache τ) τ) (x : Act τ) (w'' : World (Page.Cache τ) τ)
      (xs' : List (Act τ)), d = b'.deed env w' x ∧ later = deeds env d.after w'' xs' := by
  induction xs generalizing b w earlier with
  | nil => simp [deeds] at h
  | cons x xs ih =>
      cases earlier with
      | nil =>
          obtain ⟨rfl, rfl⟩ := List.cons.inj h
          exact ⟨b, w, x, _, xs, rfl, rfl⟩
      | cons d' earlier => exact ih (List.cons.inj h).2

/-- A batch that has a number keeps it through all that is done. -/
theorem deeds_of_number {n : Int} (h : b.id = some n) (xs : List (Act τ)) :
    ∀ d ∈ deeds env b w xs, d.before.id = some n ∧ d.after.id = some n := by
  induction xs generalizing b w with
  | nil => simp [deeds]
  | cons x xs ih =>
      have hafter := deed_of_number h env w x
      exact List.forall_mem_cons.2 ⟨⟨h, hafter⟩, ih hafter⟩

/-- Whatever is done with a batch, it is given its number once, and no document is sent but for that. -/
theorem deeds_numberedOnce (b : Batch τ) (env : Surroundings τ) (w : World (Page.Cache τ) τ)
    (xs : List (Act τ)) :
    NumberedOnce env b (deeds env b w xs) := by
  constructor
  · intro earlier d later n hds hid
    obtain ⟨b', w', x, w'', xs', rfl, rfl⟩ := deeds_split hds
    have hafter := deed_of_number hid env w' x
    exact List.forall_mem_cons.2 ⟨⟨hid, hafter⟩, deeds_of_number hafter xs'⟩
  · intro d hd hposts
    obtain ⟨b', w', x, rfl⟩ := mem_deeds hd
    exact deed_posts hposts
  · intro earlier d middle d' later hds hsubmits hagain
    rw [List.append_assoc] at hds
    obtain ⟨b', w', x, w'', xs', rfl, hlater⟩ := deeds_split hds
    obtain ⟨-, n, hafter⟩ := deed_submits hsubmits
    have hmem : d' ∈ deeds env (b'.deed env w' x).after w'' xs' := by
      rw [← hlater]
      exact List.mem_append_right _ List.mem_cons_self
    have hnumber := (deeds_of_number (congrArg Batch.id hafter) xs' d' hmem).1
    obtain ⟨b₂, w₂, x₂, rfl⟩ := mem_deeds hmem
    exact nomatch hnumber.symm.trans (deed_submits hagain).1
  · intro n hid d hd hposts
    obtain ⟨b', w', x, rfl⟩ := mem_deeds hd
    have hnumber := (deeds_of_number hid xs _ hd).1
    exact nomatch hnumber.symm.trans (deed_posts hposts).2
  · intro d hd hchanged
    obtain ⟨b', w', x, rfl⟩ := mem_deeds hd
    exact deed_numbers hchanged
  · intro d hd hchanged
    obtain ⟨b', w', x, rfl⟩ := mem_deeds hd
    exact deed_polling hchanged
  · intro hpatience d hd o ho hid
    obtain ⟨b', w', x, rfl⟩ := mem_deeds hd
    obtain rfl : x = .use o := ho
    exact use_of_none hid hpatience o

end Batch

end SparkGateway
