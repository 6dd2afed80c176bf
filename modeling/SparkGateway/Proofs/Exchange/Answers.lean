import SparkGateway.Cluster.Basic
import SparkGateway.Proofs.Json.Same
import SparkGateway.Proofs.Outcome
import SparkGateway.Proofs.Polling.Attempts

/-!
# What an answer says

An answer counts for something if a good reply came.  An answer without one was missed, which a polled
operation waits out.  A good reply to the making of a batch or a session has to hold a document with a
whole number, and nothing else in it is needed to know what was made.
-/

namespace SparkGateway

open Run

variable {σ τ : Type} {env : Surroundings τ}

/-- The reply in an answer, if its code is good. -/
def Answer.goodReply? (r : Request) (a : Answer) : Option Reply :=
  match a.outcome r with
  | .ok good => if good.ok then some good else none
  | .error _ => none

theorem Answer.outcome_of_goodReply {r : Request} {a : Answer} {found : Reply}
    (h : a.goodReply? r = some found) : a.outcome r = .ok found ∧ found.ok = true := by
  unfold goodReply? at h
  cases ha : a.outcome r with
  | error e =>
      rw [ha] at h
      cases h
  | ok found' =>
      rw [ha] at h
      cases hok : found'.ok with
      | false => simp [hok] at h
      | true =>
          simp only [hok, if_true] at h
          obtain rfl := Option.some.inj h
          exact ⟨rfl, hok⟩

theorem Answer.goodReply_of_outcome {r : Request} {a : Answer} {found : Reply}
    (ha : a.outcome r = .ok found) (hok : found.ok = true) : a.goodReply? r = some found := by
  simp [goodReply?, ha, hok]

theorem Answer.goodReply_eq_none {r : Request} {a : Answer} {e : Stop} (h : a.outcome r = .error e) :
    a.goodReply? r = none := by
  simp [goodReply?, h]

theorem Answer.goodReply_eq_none_of_not_ok {r : Request} {a : Answer} {found : Reply}
    (ha : a.outcome r = .ok found) (hok : found.ok = false) : a.goodReply? r = none := by
  simp [goodReply?, ha, hok]

theorem Answer.url_of_goodReply {r : Request} {a : Answer} {found : Reply}
    (h : a.goodReply? r = some found) : found.url = r.url := by
  obtain ⟨houtcome, -⟩ := outcome_of_goodReply h
  cases a with
  | reply code body contentType =>
      obtain rfl := Except.ok.inj houtcome
      rfl
  | _ => cases houtcome

/-- What an answer comes to for work that takes a reply whose code is not good for nothing yet. -/
def Answer.looked (r : Request) (a : Answer) : Except Stop (Option Reply) :=
  (a.outcome r).map fun found => if found.ok then some found else none

theorem Answer.looked_of_goodReply {r : Request} {a : Answer} {found : Reply}
    (h : a.goodReply? r = some found) : a.looked r = .ok (some found) := by
  obtain ⟨ha, hok⟩ := outcome_of_goodReply h
  simp [looked, ha, hok, Except.map]

theorem lookUp_reads (url : String) :
    Does (σ := σ) env (Cluster.lookUp url) (Reads env (.get url) (Answer.looked (.get url))) := by
  have hlooked : Answer.looked (.get url) = fun a => (a.outcome (.get url)) >>= fun found =>
      .ok (if found.ok then some found else none) := rfl
  rw [hlooked]
  refine (ask_reads _).reads_bind fun found => ?_
  by_cases hok : found.ok = true
  · rw [if_pos hok, if_pos hok]
    exact value_silent _
  · rw [if_neg hok, if_neg hok]
    exact (note_silent _ _).silent_bind (fun _ _ => value_silent _) (fun e he => nomatch he)

/-- An answer that tells nothing: the service could not be reached, or the code of the reply is not
good. -/
def Answer.Missed (r : Request) (a : Answer) : Prop :=
  (∃ message, a.outcome r = .error (.fault (.unreachable message))) ∨
    ∃ found, a.outcome r = .ok found ∧ found.ok = false

/-- An answer whose reading is nothing yet was missed, unless its good reply reads as nothing yet. -/
theorem Answer.missed_of_notYet {α : Type} {r : Request} {a : Answer}
    {read : Option Reply → Except Stop (Option α)}
    (h : Polling.notYet (a.looked r >>= read) = true) :
    a.Missed r ∨
      ∃ found, a.goodReply? r = some found ∧ Polling.notYet (read (some found)) = true := by
  unfold looked at h
  unfold goodReply? Missed
  cases ha : a.outcome r with
  | error e =>
      rw [ha] at h
      cases e with
      | fault f =>
          cases f with
          | unreachable message => exact .inl (.inl ⟨message, rfl⟩)
          | _ => cases h
      | _ => cases h
  | ok found =>
      rw [ha] at h
      cases hok : found.ok with
      | false => exact .inl (.inr ⟨found, rfl, hok⟩)
      | true =>
          simp only [Except.map, hok] at h
          exact .inr ⟨found, by simp [hok], h⟩

/-- An answer that is read as something has a good reply that is read so. -/
theorem Answer.goodReply_of_some {α : Type} {r : Request} {a : Answer} {v : α}
    {read : Option Reply → Except Stop (Option α)}
    (h : a.looked r >>= read = .ok (some v)) (hnone : read none = .ok none) :
    ∃ found, a.goodReply? r = some found ∧ read (some found) = .ok (some v) := by
  unfold looked at h
  unfold goodReply?
  cases ha : a.outcome r with
  | error e =>
      rw [ha] at h
      cases h
  | ok found =>
      rw [ha] at h
      cases hok : found.ok with
      | false =>
          simp only [Except.map, hok] at h
          exact nomatch hnone.symm.trans h
      | true =>
          simp only [Except.map, hok] at h
          exact ⟨found, by simp [hok], h⟩

/-! ## Numbers -/

/-- The document of a reply has these fields, and among them a whole number. -/
def Reply.Numbers (found : Reply) (fields : Json.Fields) (n : Int) : Prop :=
  found.document = .ok (.obj fields) ∧ fields.get "id" = .num (.whole n)

/-- A good reply came, whose document has these fields, and among them a whole number. -/
def Answer.Numbers (r : Request) (a : Answer) (fields : Json.Fields) (n : Int) : Prop :=
  ∃ found, a.goodReply? r = some found ∧ found.Numbers fields n

/-- A value that counts as given and has no items: true, or a number that is not zero. -/
def Json.Unlistable (v : Json) : Prop :=
  v = .bool true ∨ ∃ n, v = .num n ∧ n.isZero = false

theorem Json.itemsIfGiven_of_unlistable {v : Json} (h : v.Unlistable) :
    v.itemsIfGiven = .error .wrongKind := by
  rcases h with rfl | ⟨n, rfl, hn⟩
  · rfl
  · simp [itemsIfGiven, given, items, hn]

theorem Json.itemsIfGiven_of_not_unlistable {v : Json} (h : ¬ v.Unlistable) :
    ∃ items, v.itemsIfGiven = .ok items := by
  unfold itemsIfGiven
  cases v with
  | null => exact ⟨[], rfl⟩
  | bool b =>
      cases b with
      | false => exact ⟨[], rfl⟩
      | true => exact absurd (.inl rfl) h
  | num n =>
      cases hn : n.isZero with
      | false => exact absurd (.inr ⟨n, rfl, hn⟩) h
      | true => exact ⟨[], by simp [given, hn]⟩
  | str s => cases hs : given (.str s) <;> exact ⟨_, rfl⟩
  | arr xs => cases hs : given (.arr xs) <;> exact ⟨_, rfl⟩
  | obj fields => cases hs : given (.obj fields) <;> exact ⟨_, rfl⟩

theorem Reply.document_of_same {url text : String} {code : Int} {contentType : Option String} {v : Json}
    (h : (Json.parse? text).any (Json.same v) = true) :
    (Reply.mk url code (some text) contentType).document = .ok v :=
  (Reply.document_eq_ok_iff _ v).2 ⟨text, rfl, Json.parse?_of_same h⟩

/-- A reply that cannot be read is malformed. -/
theorem Reply.document_cases (found : Reply) :
    (∃ v, found.document = .ok v) ∨
      found.document = .error (found.malformed "Response is not valid JSON") := by
  unfold document
  cases found.body.bind Json.parse? with
  | some v => exact .inl ⟨v, rfl⟩
  | none => exact .inr rfl

theorem Reply.fields_of_not_obj (found : Reply) (what : String) {v : Json}
    (h : ∀ fields, v ≠ .obj fields) :
    ∃ message, found.fields what v = .error (found.malformed message) := by
  cases v with
  | obj fields => exact absurd rfl (h fields)
  | _ => exact ⟨_, rfl⟩

/-! ## How reading fails -/

theorem Reply.document_error {found : Reply} {f : Fault} (h : found.document = .error f) :
    ∃ message, f = found.malformed message := by
  rcases found.document_cases with ⟨v, hv⟩ | hlost
  · exact nomatch hv.symm.trans h
  · exact ⟨_, Except.error.inj (h.symm.trans hlost)⟩

theorem Reply.fields_eq_ok_iff {found : Reply} {what : String} {v : Json} {fields : Json.Fields} :
    found.fields what v = .ok fields ↔ v = .obj fields := by
  cases v <;> simp [Reply.fields]

/-- What comes after a reading that may fail with a fault is to blame for a misfit. -/
theorem fault_bind_eq_misfit_iff {α β : Type} {x : Except Fault α} {f : α → Except Stop β}
    {m : Misfit} :
    x.mapError Stop.fault >>= f = .error (.misfit m) ↔ ∃ a, x = .ok a ∧ f a = .error (.misfit m) := by
  constructor
  · intro h
    cases x with
    | ok a => exact ⟨a, rfl, h⟩
    | error e => cases h
  · rintro ⟨a, rfl, h⟩
    exact h

theorem Reply.fields_error {found : Reply} {what : String} {v : Json} {f : Fault}
    (h : found.fields what v = .error f) : ∃ message, f = found.malformed message := by
  cases v with
  | obj fields => cases h
  | _ => exact ⟨_, (Except.error.inj h).symm⟩

/-- If reading a reply fails, a part of it is malformed, or what comes after that part fails. -/
theorem malformed_or_further {α β : Type} {found : Reply} {x : Except Fault α} {f : α → Except Stop β}
    {e : Stop} (hx : ∀ fault, x = .error fault → ∃ message, fault = found.malformed message)
    (h : x.mapError Stop.fault >>= f = .error e) :
    (∃ message, e = .fault (found.malformed message)) ∨ ∃ a, x = .ok a ∧ f a = .error e := by
  cases x with
  | ok a => exact .inr ⟨a, rfl, h⟩
  | error fault =>
      obtain ⟨message, rfl⟩ := hx fault rfl
      exact .inl ⟨message, (Except.error.inj h).symm⟩

/-- A reply about an application is malformed if it cannot be read. -/
theorem Cluster.Application.ofReply_error {found : Reply} {f : Fault}
    (h : Cluster.Application.ofReply found = .error f) : ∃ message, f = found.malformed message := by
  unfold ofReply at h
  rcases bind_eq_error h with hdocument | ⟨document, -, h⟩
  · exact Reply.document_error hdocument
  rcases bind_eq_error h with hfields | ⟨fields, -, h⟩
  · exact Reply.fields_error hfields
  rcases bind_eq_error h with happ | ⟨app, -, h⟩
  · exact Reply.fields_error happ
  cases h

theorem Cluster.Attempt.ofJson_error {found : Reply} {v : Json} {e : Stop}
    (h : Cluster.Attempt.ofJson found v = .error e) :
    (∃ message, e = .fault (found.malformed message)) ∨ e = .misfit .outOfRange := by
  unfold ofJson at h
  dsimp only at h
  split at h
  · split at h
    · split at h
      · cases h
      · exact .inl ⟨_, (Except.error.inj h).symm⟩
    · exact .inr (Except.error.inj h).symm
    · exact .inl ⟨_, (Except.error.inj h).symm⟩
  · exact .inl ⟨_, (Except.error.inj h).symm⟩

/-- A list of attempts is malformed if it cannot be read, unless a number in it is beyond every bound. -/
theorem Cluster.Attempt.listOfReply_error {found : Reply} {e : Stop}
    (h : Cluster.Attempt.listOfReply found = .error e) :
    (∃ message, e = .fault (found.malformed message)) ∨ e = .misfit .outOfRange := by
  unfold listOfReply at h
  rcases malformed_or_further (fun _ => Reply.document_error) h with hdocument | ⟨document, -, h⟩
  · exact .inl hdocument
  rcases malformed_or_further (fun _ => Reply.fields_error) h with hfields | ⟨fields, -, h⟩
  · exact .inl hfields
  rcases malformed_or_further (fun _ => Reply.fields_error) h with hattempts | ⟨attempts, -, h⟩
  · exact .inl hattempts
  split at h
  · obtain ⟨v, -, hv⟩ := mapM_eq_error h
    exact Cluster.Attempt.ofJson_error hv
  · exact .inl ⟨_, (Except.error.inj h).symm⟩

/-! ## Replies that are read or told to be malformed -/

/-- What a reply comes to when it is read is a value, or the reply is told to be malformed. -/
def Reply.Settles {α : Type} (found : Reply) (r : Except Stop α) : Prop :=
  (∃ a, r = .ok a) ∨ ∃ message, r = .error (.fault (found.malformed message))

theorem Reply.Settles.not_misfit {α : Type} {found : Reply} {r : Except Stop α} (h : found.Settles r)
    (m : Misfit) : r ≠ .error (.misfit m) := by
  rcases h with ⟨a, rfl⟩ | ⟨message, rfl⟩ <;> nofun

/-- A reply that can only be malformed or not fit settles what it is read as unless it does not fit. -/
theorem Reply.settles_iff {α : Type} {found : Reply} {r : Except Stop α}
    (h : ∀ e, r = .error e → (∃ message, e = .fault (found.malformed message)) ∨ ∃ m, e = .misfit m) :
    found.Settles r ↔ ∀ m, r ≠ .error (.misfit m) := by
  constructor
  · exact fun hsettles => hsettles.not_misfit
  · intro hfits
    cases r with
    | ok a => exact .inl ⟨a, rfl⟩
    | error e =>
        rcases h e rfl with ⟨message, rfl⟩ | ⟨m, rfl⟩
        · exact .inr ⟨message, rfl⟩
        · exact absurd rfl (hfits m)

theorem Reply.settles_map_iff {α β : Type} {found : Reply} {r : Except Stop α} (f : α → β) :
    found.Settles (r.map f) ↔ found.Settles r := by
  cases r <;> simp [Settles, Except.map]

/-- Whether an outcome is a misfit. -/
def misfits {α : Type} : Except Stop α → Bool
  | .error (.misfit _) => true
  | _ => false

theorem eq_of_misfits {α : Type} {r : Except Stop α} (h : misfits r = true) :
    ∃ m, r = .error (.misfit m) := by
  unfold misfits at h
  split at h
  · exact ⟨_, rfl⟩
  · cases h

end SparkGateway
