import SparkGateway.Proofs.Batch.Status

/-!
# What a submission comes to

A submission is one request, and its answer decides the outcome.  A good answer that names the number of
the batch should give the batch that number, and every other reply should refuse the submission.  The
reading of the answer reads more than the number, though: where the log in the answer has no items, the
submission fails in a way that nobody expects, and the number is lost although the batch runs.
-/

namespace SparkGateway

namespace Batch

open Run

variable {σ τ : Type} {env : Surroundings τ}

/-- The request that submits a workload. -/
def submission (b : Batch τ) (workload : Workload) : Request := .post b.uri workload.document

/-- The batch that is held after work that hands on the batch, or stops. -/
def kept (b : Batch τ) : Except Stop (Batch τ) → Batch τ
  | .ok b' => b'
  | .error _ => b

/-- What a submission that was answered by `a` is to come to. -/
structure SubmitsAsPromised (b : Batch τ) (q : Request) (a : Answer) (r : Except Stop (Batch τ)) :
    Prop where
  accepted : ∀ fields n, a.Numbers q fields n → r = .ok { b with id := some n }
  rejected : ∀ found, a.outcome q = .ok found → (∀ fields n, ¬ a.Numbers q fields n) →
    (∃ message, r = .error (.fault (found.refused .submission message))) ∧ (b.kept r).id = b.id
  failed : ∀ e, a.outcome q = .error e → r = .error e ∧ (b.kept r).id = b.id

/-- An answer names the number of the batch, and with it a log that has no items. -/
def LosesNumber (q : Request) (a : Answer) : Prop :=
  ∃ fields n, a.Numbers q fields n ∧ (fields.get "log").Unlistable

/-- What an answer to a submission comes to. -/
def submittedIn (b : Batch τ) (q : Request) (a : Answer) : Except Stop (Batch τ) :=
  a.outcome q >>= fun found =>
    if found.ok then (accepted found).map fun snapshot => { b with id := some snapshot.id }
    else .error (.fault (found.refused .submission "Failed to submit batch job"))

/-- A submission makes one request and reads the answer. -/
theorem submit_reads {b : Batch τ} {workload : Workload} (hid : b.id = none)
    (hworkload : b.workload = some workload) :
    Does (σ := σ) env b.submit
      (Reads env (b.submission workload) (b.submittedIn (b.submission workload))) := by
  obtain ⟨uri, _, cluster, polling, _⟩ := b
  obtain rfl : _ = none := hid
  obtain rfl : _ = some workload := hworkload
  refine (ask_reads _).reads_bind fun found => ?_
  cases hok : found.ok with
  | true =>
      refine (ofStop_silent (accepted found)).silent_bind ?_ ?_
      · intro snapshot hsnapshot
        rw [hsnapshot]
        exact (note_silent _ _).silent_bind (fun _ _ => value_silent _) (fun e he => nomatch he)
      · intro e he
        rw [he]
        exact ⟨rfl, rfl⟩
  | false => exact does_stop _ ⟨rfl, rfl⟩

theorem submit_answered (b : Batch τ) {workload : Workload} (hid : b.id = none)
    (hworkload : b.workload = some workload) (env : Surroundings τ) (w : World σ τ) :
    ∃ t, b.submit.events env w =
        [.answered (b.submission workload) (env.answer t (b.submission workload))] ∧
      (b.submit env w).1 =
        b.submittedIn (b.submission workload) (env.answer t (b.submission workload)) :=
  (submit_reads hid hworkload).holds w

/-! ## Reading the answer -/

theorem submittedIn_of_outcome {b : Batch τ} {q : Request} {a : Answer} {found : Reply}
    (h : a.outcome q = .ok found) :
    b.submittedIn q a =
      if found.ok then (accepted found).map fun snapshot => { b with id := some snapshot.id }
      else .error (.fault (found.refused .submission "Failed to submit batch job")) := by
  unfold submittedIn
  rw [h]
  rfl

theorem accepted_of_listable {found : Reply} {fields : Json.Fields} {n : Int}
    (h : found.Numbers fields n) (hlog : ¬ (fields.get "log").Unlistable) :
    ∃ snapshot, accepted found = .ok snapshot ∧ snapshot.id = n := by
  obtain ⟨items, hitems⟩ := Json.itemsIfGiven_of_not_unlistable hlog
  unfold accepted
  rw [Snapshot.ofReply_of_numbers h, hitems]
  exact ⟨_, rfl, rfl⟩

theorem accepted_of_unlistable {found : Reply} {fields : Json.Fields} {n : Int}
    (h : found.Numbers fields n) (hlog : (fields.get "log").Unlistable) :
    accepted found = .error (.misfit .wrongKind) := by
  unfold accepted
  rw [Snapshot.ofReply_of_numbers h, Json.itemsIfGiven_of_unlistable hlog]
  rfl

theorem accepted_of_not_numbers {found : Reply} (h : ∀ fields n, ¬ found.Numbers fields n) :
    accepted found = .error (.fault (found.refused .submission "Bad batch job response")) := by
  obtain ⟨message, hmessage⟩ := Snapshot.ofReply_of_not_numbers h
  unfold accepted
  rw [hmessage]
  rfl

theorem submittedIn_of_losesNumber {b : Batch τ} {q : Request} {a : Answer}
    (h : LosesNumber q a) : b.submittedIn q a = .error (.misfit .wrongKind) := by
  obtain ⟨fields, n, ⟨found, hgood, hnumbers⟩, hlog⟩ := h
  obtain ⟨houtcome, hok⟩ := Answer.outcome_of_goodReply hgood
  rw [submittedIn_of_outcome houtcome, if_pos hok, accepted_of_unlistable hnumbers hlog]
  rfl

/-- A submission that does not lose its number comes to what it is to come to. -/
theorem submittedIn_asPromised {b : Batch τ} {q : Request} {a : Answer} (h : ¬ LosesNumber q a) :
    SubmitsAsPromised b q a (b.submittedIn q a) := by
  constructor
  · intro fields n hnumbers
    have hlog : ¬ (fields.get "log").Unlistable := fun hlog => h ⟨fields, n, hnumbers, hlog⟩
    obtain ⟨found, hgood, hfound⟩ := hnumbers
    obtain ⟨houtcome, hok⟩ := Answer.outcome_of_goodReply hgood
    obtain ⟨snapshot, hsnapshot, rfl⟩ := accepted_of_listable hfound hlog
    rw [submittedIn_of_outcome houtcome, if_pos hok, hsnapshot]
    rfl
  · intro found houtcome hnone
    have hrefused : ∃ message,
        b.submittedIn q a = .error (.fault (found.refused .submission message)) := by
      rw [submittedIn_of_outcome houtcome]
      by_cases hok : found.ok = true
      · have hnot : ∀ fields n, ¬ found.Numbers fields n := fun fields n hfound =>
          hnone fields n ⟨found, Answer.goodReply_of_outcome houtcome hok, hfound⟩
        rw [if_pos hok, accepted_of_not_numbers hnot]
        exact ⟨_, rfl⟩
      · rw [if_neg hok]
        exact ⟨_, rfl⟩
    obtain ⟨message, hmessage⟩ := hrefused
    rw [hmessage]
    exact ⟨⟨message, rfl⟩, rfl⟩
  · intro e houtcome
    unfold submittedIn
    rw [houtcome]
    exact ⟨rfl, rfl⟩

/-- A submission makes one request, and it comes to what it is to come to unless the answer loses the
number of the batch: then a misfit ends it, and the batch that was submitted is not known. -/
theorem submit_asPromised_iff (b : Batch τ) {workload : Workload} (hid : b.id = none)
    (hworkload : b.workload = some workload) (env : Surroundings τ) (w : World σ τ) :
    ∃ a, b.submit.events env w = [.answered (b.submission workload) a] ∧
      (SubmitsAsPromised b (b.submission workload) a (b.submit env w).1 ↔
        ¬ LosesNumber (b.submission workload) a) ∧
      (LosesNumber (b.submission workload) a →
        (b.submit env w).1 = .error (.misfit .wrongKind) ∧ (b.kept (b.submit env w).1).id = none) := by
  obtain ⟨t, hevents, hrun⟩ := submit_answered b hid hworkload env w
  refine ⟨_, hevents, ?_, ?_⟩
  · constructor
    · intro hpromised hloses
      have hmisfit := hrun.trans (submittedIn_of_losesNumber hloses)
      obtain ⟨fields, n, hnumbers, -⟩ := hloses
      exact nomatch hmisfit.symm.trans (hpromised.accepted fields n hnumbers)
    · intro hnot
      rw [hrun]
      exact submittedIn_asPromised hnot
  · intro hloses
    rw [hrun, submittedIn_of_losesNumber hloses]
    exact ⟨rfl, hid⟩

/-- A server that accepts every submission, with the same body. -/
def acceptingServer (body : String) : Surroundings Number where
  answer _ _ := .reply 201 (some body) none
  page _ _ := .stop .cancelled
  halt _ := none
  confirms _ := false
  picks _ := []
  turn _ := 0
  waits := true
  connects := false
  patience := 9

theorem submit_asPromised_iff_of_acceptingServer :
    let job : Workload := { file := "a.jar" }
    let b : Batch Number := .fresh "http://livy:8998/batches" (some job) none ⟨3, .whole 5⟩
    let q : Request := b.submission job
    let env := acceptingServer "\x7b\"id\": 7, \"state\": \"starting\", \"log\": \"ab\"\x7d"
    let w : World Unit Number := ⟨(), .whole 0, []⟩
    ((b.submit env w).1.toOption.bind (·.id) = some 7 ∧ b.id = none ∧ b.workload = some job) ∧
      ∃ a, b.submit.events env w = [.answered q a] ∧
        (SubmitsAsPromised b q a (b.submit env w).1 ↔ ¬ LosesNumber q a) ∧
        (LosesNumber q a →
          (b.submit env w).1 = .error (.misfit .wrongKind) ∧ (b.kept (b.submit env w).1).id = none) := by
  intro job b q env w
  exact ⟨⟨by decide +kernel, rfl, rfl⟩, submit_asPromised_iff b rfl rfl env w⟩

/-- The batch 7 has been made, but an answer whose log is a number leaves the batch without its
number. -/
theorem submit_not_asPromised :
    let job : Workload := { file := "a.jar" }
    let b : Batch Number := .fresh "http://livy:8998/batches" (some job) none ⟨3, .whole 5⟩
    let q : Request := b.submission job
    let env := acceptingServer "\x7b\"id\": 7, \"state\": \"starting\", \"log\": 5\x7d"
    let w : World Unit Number := ⟨(), .whole 0, []⟩
    ∃ a fields, b.submit.events env w = [.answered q a] ∧ a.Numbers q fields 7 ∧
      (b.submit env w).1 = .error (.misfit .wrongKind) ∧
      ¬ SubmitsAsPromised b q a (b.submit env w).1 := by
  intro job b q env w
  let fields : Json.Fields := [("id", .int 7), ("state", .str "starting"), ("log", .int 5)]
  obtain ⟨t, hevents, hrun⟩ := submit_answered b rfl (rfl : b.workload = some job) env w
  have hnumbers : (env.answer t q).Numbers q fields 7 :=
    ⟨_, rfl, Reply.document_of_same (by decide +kernel), rfl⟩
  have hloses : LosesNumber q (env.answer t q) :=
    ⟨fields, 7, hnumbers, .inr ⟨.whole 5, rfl, by decide⟩⟩
  have hmisfit := hrun.trans (submittedIn_of_losesNumber hloses)
  refine ⟨_, fields, hevents, hnumbers, hmisfit, ?_⟩
  intro hpromised
  exact nomatch hmisfit.symm.trans (hpromised.accepted fields 7 hnumbers)

end Batch

end SparkGateway
