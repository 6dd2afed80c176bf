import SparkGateway.Batch.Basic
import SparkGateway.Proofs.Exchange.Answers

/-!
# Looks at a batch

What the reply to a question about a batch is read as, and what a look at the batch comes to: a look is
one request, and a reply whose code is not good is nothing yet.
-/

namespace SparkGateway

open Run

variable {σ τ : Type} {env : Surroundings τ}

namespace Batch

/-- A document with lines and a whole number is a page. -/
theorem LogPage.ofReply_of_document {found : Reply} {fields : Json.Fields} {lines : List Json}
    {offset : Int} (hdocument : found.document = .ok (.obj fields))
    (hlines : linesOf? (fields.get "log") = some lines)
    (hoffset : ((fields.get "from").orElse (.int 0)).toWhole = .ok offset) :
    LogPage.ofReply found = .ok ⟨offset, lines.map Json.display, fields.get "total"⟩ := by
  unfold ofReply
  rw [hdocument]
  simp only [Reply.fields, mapError_ok, bind, Except.bind, hlines, hoffset]
  rfl

/-- A good reply with a number is a snapshot exactly if its log has items. -/
theorem Snapshot.ofReply_of_numbers {found : Reply} {fields : Json.Fields} {n : Int}
    (h : found.Numbers fields n) :
    Snapshot.ofReply found = ((fields.get "log").itemsIfGiven.mapError .misfit).map fun log =>
      ⟨n, stateOf? (fields.get "state"), present? (fields.get "appId"),
        (fields.get "appInfo").orElse (.obj []), log⟩ := by
  obtain ⟨hdocument, hid⟩ := h
  unfold ofReply ofJson
  rw [hdocument]
  simp only [Reply.fields, mapError_ok, bind, Except.bind, hid]
  cases (Json.Fields.get fields "log").itemsIfGiven <;> rfl

theorem Snapshot.ofReply_of_not_numbers {found : Reply}
    (h : ∀ fields n, ¬ found.Numbers fields n) :
    ∃ message, Snapshot.ofReply found = .error (.fault (found.malformed message)) := by
  unfold ofReply
  rcases found.document_cases with ⟨v, hdocument⟩ | hdocument
  · rw [hdocument]
    by_cases hobj : ∃ fields, v = .obj fields
    · obtain ⟨fields, rfl⟩ := hobj
      have hid : ∀ n, Json.Fields.get fields "id" ≠ .num (.whole n) :=
        fun n hn => h fields n ⟨hdocument, hn⟩
      simp only [ofJson, Reply.fields, mapError_ok, bind, Except.bind]
      exact ⟨_, rfl⟩
    · obtain ⟨message, hmessage⟩ :=
        found.fields_of_not_obj "batch" fun fields hv => hobj ⟨fields, hv⟩
      refine ⟨message, ?_⟩
      simp only [ofJson, mapError_ok, bind, Except.bind, hmessage]
      rfl
  · exact ⟨_, by rw [hdocument]; rfl⟩

/-- A reply is read as a snapshot, or is malformed, or has a number and a log without items. -/
theorem Snapshot.ofReply_cases (found : Reply) :
    (∃ snapshot, Snapshot.ofReply found = .ok snapshot) ∨
      (∃ message, Snapshot.ofReply found = .error (.fault (found.malformed message))) ∨
        Snapshot.ofReply found = .error (.misfit .wrongKind) ∧
          ∃ fields n, found.Numbers fields n ∧ (fields.get "log").Unlistable := by
  by_cases hnumbers : ∃ fields n, found.Numbers fields n
  · obtain ⟨fields, n, hn⟩ := hnumbers
    rw [Snapshot.ofReply_of_numbers hn]
    by_cases hlog : (Json.Fields.get fields "log").Unlistable
    · rw [Json.itemsIfGiven_of_unlistable hlog]
      exact .inr (.inr ⟨rfl, fields, n, hn, hlog⟩)
    · obtain ⟨items, hitems⟩ := Json.itemsIfGiven_of_not_unlistable hlog
      rw [hitems]
      exact .inl ⟨_, rfl⟩
  · exact .inr (.inl (Snapshot.ofReply_of_not_numbers fun fields n hn => hnumbers ⟨fields, n, hn⟩))

/-- A reply that cannot be read as a snapshot is not waited out like one that did not come. -/
theorem snapshot_ne_unreachable (found : Reply) (message : String) :
    Snapshot.ofReply found ≠ .error (.fault (.unreachable message)) := by
  rcases Snapshot.ofReply_cases found with ⟨snapshot, h⟩ | ⟨message', h⟩ | ⟨h, -⟩
  all_goals
    rw [h]
    exact nofun

/-- A word that names no state is malformed. -/
theorem parse_error {word : String} {f : Fault} (h : State.parse word = .error f) :
    ∃ message, f = .malformed message none none := by
  unfold State.parse at h
  split at h
  · cases h
  · exact ⟨_, (Except.error.inj h).symm⟩

theorem parse_ne_unreachable (text message : String) :
    State.parse text ≠ .error (.unreachable message) := by
  intro h
  obtain ⟨message', hmessage⟩ := parse_error h
  cases hmessage

/-- What an answer about the batch at an address comes to: a snapshot, or nothing yet. -/
def statusIn (url : String) (a : Answer) : Except Stop (Option Snapshot) :=
  a.looked (.get url) >>= fun
    | some found => (Snapshot.ofReply found).map some
    | none => .ok none

theorem statusIn_eq {url : String} {a : Answer} {found : Reply}
    (hgood : a.goodReply? (.get url) = some found) :
    statusIn url a = (Snapshot.ofReply found).map some := by
  unfold statusIn
  rw [Answer.looked_of_goodReply hgood]
  rfl

theorem statusIn_of_goodReply {url : String} {a : Answer} {found : Reply} {snapshot : Snapshot}
    (hgood : a.goodReply? (.get url) = some found) (hread : Snapshot.ofReply found = .ok snapshot) :
    statusIn url a = .ok (some snapshot) := by
  rw [statusIn_eq hgood, hread]
  rfl

theorem status_reads {b : Batch τ} {url : String} (hurl : b.batchUrl = .ok url) :
    Does (σ := σ) env b.status (Reads env (.get url) (statusIn url)) := by
  unfold status
  rw [hurl]
  refine (lookUp_reads url).reads_bind fun found => ?_
  cases found with
  | none => exact value_silent none
  | some reply =>
      refine (ofStop_silent (Snapshot.ofReply reply)).silent_bind ?_ ?_
      · intro snapshot hsnapshot
        dsimp only
        rw [hsnapshot]
        exact value_silent _
      · intro e he
        dsimp only
        rw [he]
        exact ⟨rfl, rfl⟩

end Batch

end SparkGateway
