import SparkGateway.Proofs.Batch.Inquiries

/-!
# Lists of attempts that cannot be read

Whatever is wrong with a list of attempts, the reply should be told to be malformed.  It is, except for
a number of an attempt that is infinite: such a number has no whole part, and this is no fault of the
reply but ends the work.  Entries are read in order, so it does so exactly if it stands before everything
else that is wrong with the list (`listOfReply_outOfRange_iff`).

The question for the current attempt ends at an answer like this, and in no other way that it does not
tell of: it comes to an attempt, or there is none, or the reply is malformed, or the attempts to ask are
exhausted (`currentAttempt_told_iff`).
-/

namespace SparkGateway

open Run Polling

variable {σ τ α : Type}

/-! ## Numbers without bound -/

/-- An infinite number. -/
def Json.Boundless (v : Json) : Prop :=
  ∃ x negative, v = .num (.real x) ∧ Decimal.Value.ofFloat x = .infinite negative

theorem Json.toWhole_outOfRange_iff (v : Json) : v.toWhole = .error .outOfRange ↔ v.Boundless := by
  constructor
  · intro h
    unfold toWhole at h
    split at h
    · cases h
    · next x =>
        split at h
        · cases h
        · next negative hx => exact ⟨x, negative, rfl, hx⟩
        · cases h
    · cases h
    · split at h <;> cases h
    · cases h
  · rintro ⟨x, negative, rfl, hx⟩
    simp only [toWhole, hx]

/-- Only a list has items with fields. -/
theorem Json.eq_arr_of_items {v : Json} {items : List Json} {fields : Json.Fields}
    (h : v.itemsIfGiven = .ok items) (hmem : .obj fields ∈ items) : v = .arr items := by
  unfold itemsIfGiven at h
  split at h
  · cases v with
    | arr xs =>
        obtain rfl := Except.ok.inj h
        rfl
    | str text =>
        obtain rfl := Except.ok.inj h
        obtain ⟨c, -, hc⟩ := List.mem_map.1 hmem
        cases hc
    | obj others =>
        obtain rfl := Except.ok.inj h
        obtain ⟨other, -, hother⟩ := List.mem_map.1 hmem
        cases hother
    | _ => cases h
  · obtain rfl := Except.ok.inj h
    cases hmem

theorem Json.itemsIfGiven_arr (items : List Json) : (Json.arr items).itemsIfGiven = .ok items := by
  cases items <;> rfl

/-- A value in whose place there may be no fields has the fields it holds, or none if it counts as
nothing. -/
theorem Json.orElse_eq_obj_iff {v : Json} {fields : Json.Fields} :
    v.orElse (.obj []) = .obj fields ↔ v = .obj fields ∨ v.given = false ∧ fields = [] := by
  unfold orElse
  constructor
  · intro h
    split at h
    · exact .inl h
    · next hgiven => exact .inr ⟨Bool.eq_false_iff.2 hgiven, (Json.obj.inj h).symm⟩
  · rintro (rfl | ⟨hnothing, rfl⟩)
    · split
      · rfl
      · next hgiven =>
          have hempty : fields = [] := by simpa [given] using hgiven
          rw [hempty]
    · rw [hnothing]
      rfl

namespace Cluster.Attempt

/-- An entry of a list in which an attempt can be read. -/
def Readable (v : Json) : Prop :=
  ∃ fields id name, v = .obj fields ∧ (Json.Fields.get fields "id").toWhole = .ok id ∧
    Json.Fields.get? fields "appAttemptId" = some name

/-- An entry of a list that gives an attempt an infinite number. -/
def Unbounded (v : Json) : Prop :=
  ∃ fields, v = .obj fields ∧ (Json.Fields.get fields "id").Boundless

theorem ofJson_ok_iff (found : Reply) (v : Json) :
    (∃ attempt, ofJson found v = .ok attempt) ↔ Readable v := by
  constructor
  · rintro ⟨attempt, h⟩
    unfold ofJson at h
    dsimp only at h
    split at h
    · next fields =>
        split at h
        · next id hid =>
            split at h
            · next name hname => exact ⟨fields, id, name, rfl, hid, hname⟩
            · cases h
        · cases h
        · cases h
    · cases h
  · rintro ⟨fields, id, name, rfl, hid, hname⟩
    simp only [ofJson, hid, hname]
    exact ⟨_, rfl⟩

theorem ofJson_outOfRange_iff (found : Reply) (v : Json) :
    ofJson found v = .error (.misfit .outOfRange) ↔ Unbounded v := by
  constructor
  · intro h
    unfold ofJson at h
    dsimp only at h
    split at h
    · next fields =>
        split at h
        · split at h <;> cases h
        · next hid => exact ⟨fields, rfl, (Json.toWhole_outOfRange_iff _).1 hid⟩
        · cases h
    · cases h
  · rintro ⟨fields, rfl, hid⟩
    simp only [ofJson, (Json.toWhole_outOfRange_iff _).2 hid]

/-! ## Lists -/

/-- The document of a reply lists an attempt with an infinite number, and all entries before it can be
read. -/
def ListsUnbounded (found : Reply) : Prop :=
  ∃ fields attempts earlier v later, found.document = .ok (.obj fields) ∧
    Json.Fields.get fields "appAttempts" = .obj attempts ∧
    Json.Fields.get attempts "appAttempt" = .arr (earlier ++ v :: later) ∧
    (∀ u ∈ earlier, Readable u) ∧ Unbounded v

/-- An infinite number is the only way in which a list of attempts does not fit. -/
theorem listOfReply_outOfRange_iff (found : Reply) :
    listOfReply found = .error (.misfit .outOfRange) ↔ ListsUnbounded found := by
  unfold listOfReply
  simp only [fault_bind_eq_misfit_iff, Reply.fields_eq_ok_iff]
  constructor
  · rintro ⟨_, hdocument, fields, rfl, attempts, hattempts, h⟩
    split at h
    · next items hitems =>
        obtain ⟨earlier, v, later, rfl, hearlier, hv⟩ := mapM_eq_error_iff.1 h
        have hread : ∀ u ∈ earlier, Readable u := fun u hu => (ofJson_ok_iff found u).1 (hearlier u hu)
        obtain ⟨vfields, rfl, hid⟩ := (ofJson_outOfRange_iff found v).1 hv
        have hlist := Json.eq_arr_of_items hitems (List.mem_append_right earlier List.mem_cons_self)
        have hgiven : attempts ≠ [] := by
          rintro rfl
          cases hlist
        exact ⟨fields, attempts, earlier, _, later, hdocument,
          (Json.orElse_eq_obj_iff.1 hattempts).resolve_right fun hnone => hgiven hnone.2,
          hlist, hread, vfields, rfl, hid⟩
    · cases h
  · rintro ⟨fields, attempts, earlier, v, later, hdocument, hattempts, hlist, hearlier, hv⟩
    refine ⟨_, hdocument, fields, rfl, attempts, Json.orElse_eq_obj_iff.2 (.inl hattempts), ?_⟩
    rw [hlist, Json.itemsIfGiven_arr]
    exact mapM_eq_error_iff.2 ⟨earlier, v, later, rfl,
      fun u hu => (ofJson_ok_iff found u).2 (hearlier u hu), (ofJson_outOfRange_iff found v).2 hv⟩

/-- A reply is read as a list of attempts or told to be malformed, unless a number is infinite. -/
theorem settles_iff (found : Reply) :
    found.Settles (listOfReply found) ↔ ¬ ListsUnbounded found := by
  have hfails : ∀ e, listOfReply found = .error e →
      (∃ message, e = .fault (found.malformed message)) ∨ ∃ m, e = .misfit m :=
    fun e he => (listOfReply_error he).imp_right fun hmisfit => ⟨_, hmisfit⟩
  rw [Reply.settles_iff hfails, ← listOfReply_outOfRange_iff]
  constructor
  · exact fun hfits => hfits .outOfRange
  · intro hfits m hm
    rcases listOfReply_error hm with ⟨message, hfault⟩ | hmisfit
    · cases hfault
    · exact hfits (hmisfit ▸ hm)

end Cluster.Attempt

/-! ## The question for the current attempt -/

/-- Work comes to a value, to a fault that an answer tells, or to exhausted attempts. -/
def Inquiry.Ends (r : Except Stop α) : Prop :=
  (∃ a, r = .ok a) ∨ (∃ f, r = .error (.fault f) ∧ Told f) ∨
    ∃ what n last, r = .error (.fault (.exhausted what n last))

theorem Inquiry.Ends.not_misfit {r : Except Stop α} (h : Ends r) (m : Misfit) :
    r ≠ .error (.misfit m) := by
  rcases h with ⟨a, rfl⟩ | ⟨f, rfl, -⟩ | ⟨what, n, last, rfl⟩ <;> nofun

/-- Work that puts an inquiry ends as it should, or at an answer that does not fit. -/
theorem Inquiry.Puts.ends_or_breaks [Timeline τ] {q : Inquiry α} {p : Polling τ} {x : Run σ τ α}
    (hx : q.Puts p x) (hq : q.Orderly) (env : Surroundings τ) (script : Nat → Said) (w : World σ τ) :
    Ends (x (env.saying script) w).1 ∨
      ∃ k, q.Decides p (w.hears script) k ∧ q.Breaks (w.hears script k) := by
  obtain ⟨m, r, v, hcourse, hconcluded⟩ := hx env script w
  rw [hcourse.outcome_eq]
  cases hconcluded with
  | value => exact Or.inl (Or.inl ⟨_, rfl⟩)
  | @stopped k e hk hyet hstop hnot =>
      rcases hq.stops hstop hnot with htold | ⟨misfit, rfl⟩
      · obtain ⟨f, rfl, hf⟩ := htold
        exact Or.inl (Or.inr (Or.inl ⟨f, rfl, hf⟩))
      · have hnow : ¬ q.NotYet (w.hears script k) := by
          rw [← notYet_outcome_iff hq.reached]
          exact Bool.eq_false_iff.1 hnot
        obtain ⟨found, hgood⟩ := (q.missed_or_good (script _)).resolve_left fun h => hnow (Or.inl h)
        refine Or.inr ⟨k, ⟨by omega, fun j hj => ?_, hnow⟩, found, misfit, hgood, ?_⟩
        · exact (notYet_outcome_iff hq.reached _).1 (hyet j hj)
        · exact (outcome_of_goodReply hgood).symm.trans hstop
  | exhausted => exact Or.inl (Or.inr (Or.inr ⟨_, _, _, rfl⟩))

namespace Cluster

open Batch Attempt

theorem listsBoundless_iff (q : Request) (a : Answer) :
    ListsBoundless q a ↔ ∃ found, a.goodReply? q = some found ∧ ListsUnbounded found :=
  exists_congr fun found => and_congr_right fun _ => listOfReply_outOfRange_iff found

variable [Timeline τ] {c : Cluster τ} {p : Polling τ} {id url : String}

/-- Along a script, the question for the current attempt ends with an attempt, with there being none,
with a malformed reply or with exhausted attempts, unless the answer at which it stops gives an attempt
an infinite number before anything else is wrong with it. -/
structure AttemptsTold (c : Cluster τ) (p : Polling τ) (id url : String) (env : Surroundings τ)
    (script : Nat → Said) (w : World σ τ) : Prop where
  read : ∀ found, found.Settles (listOfReply found) ↔ ¬ ListsUnbounded found
  ends : Inquiry.Ends (c.currentAttempt p id (env.saying script) w).1 ↔
    ∀ k found, (attemptAt id url).Decides p (w.hears script) k →
      (w.hears script k).goodReply? (.get url) = some found → ¬ ListsUnbounded found
  /-- Such an answer ends the work with a number out of range. -/
  breaks : ∀ k found, (attemptAt id url).Decides p (w.hears script) k →
    (w.hears script k).goodReply? (.get url) = some found → ListsUnbounded found →
      (c.currentAttempt p id (env.saying script) w).1 = .error (.misfit .outOfRange)

theorem currentAttempt_told (hurl : c.attemptsUrl id = .ok url) (hp : 1 ≤ p.attempts)
    (env : Surroundings τ) (script : Nat → Said) (w : World σ τ) :
    AttemptsTold c p id url env script w := by
  have hputs := currentAttempt_puts (σ := σ) hurl hp
  have horderly := attemptAt_orderly id url
  have hmisfit : ∀ k found, (attemptAt id url).Decides p (w.hears script) k →
      (w.hears script k).goodReply? (.get url) = some found → ListsUnbounded found →
        (c.currentAttempt p id (env.saying script) w).1 = .error (.misfit .outOfRange) := by
    intro k found hdecides hgood hunbounded
    obtain ⟨-, found', hgood', hread⟩ := hputs.at_decision horderly.reached env hdecides
    obtain rfl := Option.some.inj (hgood'.symm.trans hgood)
    refine map_eq_error (hread.symm.trans ?_)
    show finishing _ ((listOfReply found').map some) = _
    rw [(listOfReply_outOfRange_iff found').2 hunbounded]
    rfl
  refine ⟨Attempt.settles_iff, ⟨?_, ?_⟩, hmisfit⟩
  · intro hends k found hdecides hgood hunbounded
    exact hends.not_misfit _ (hmisfit k found hdecides hgood hunbounded)
  · intro hfits
    refine (hputs.ends_or_breaks horderly env script w).resolve_right ?_
    rintro ⟨k, hdecides, hbroken⟩
    have hboundless := (Inquiry.breaks_further_iff (currentOf_told id url) _).1 hbroken
    rw [attemptsAt_breaks_iff, listsBoundless_iff] at hboundless
    obtain ⟨found, hgood, hunbounded⟩ := hboundless
    exact hfits k found hdecides hgood hunbounded

/-- A connection that fails, and then a list with two attempts. -/
def listedLate (k : Nat) : Said :=
  if k = 0 then .broken "down"
  else .reply 200 (some "\x7b\"appAttempts\": \x7b\"appAttempt\": [
    \x7b\"id\": 1, \"appAttemptId\": \"appattempt_1\"\x7d,
    \x7b\"id\": \"2\", \"appAttemptId\": \"appattempt_2\"\x7d]\x7d\x7d") none

theorem currentAttempt_told_of_listedLate :
    let c : Cluster Number := .on "http://livy:8998/batches" "/yarnui" (.whole 3)
    let p : Polling Number := ⟨3, .whole 5⟩
    let env : Surroundings Number := Replies.surroundings {} 9
    let w : World Unit Number := ⟨(), .whole 0, []⟩
    ((c.currentAttempt p "application_1" (env.saying listedLate) w).1.toOption.map Attempt.name) =
        some "appattempt_2" ∧
      AttemptsTold c p "application_1"
        "http://livy:8998/yarnui/ws/v1/cluster/apps/application_1/appattempts" env listedLate w := by
  intro c p env w
  refine ⟨by decide +kernel, ?_⟩
  exact currentAttempt_told (by decide +kernel) (by decide) env listedLate w

/-- A reply that lists one attempt, whose number is infinite. -/
def infiniteAttempt : Reply :=
  ⟨"http://livy:8998/batches/1", 200, some
    "\x7b\"appAttempts\": \x7b\"appAttempt\": [\x7b\"id\": Infinity, \"appAttemptId\": \"a\"\x7d]\x7d\x7d",
    none⟩

/-- What a service says whose reply this is. -/
def saidInfinite : Said :=
  .reply infiniteAttempt.code infiniteAttempt.body infiniteAttempt.contentType

/-- The reply with an infinite number is neither read nor told to be malformed, and what the question
for the current attempt comes to is none of its ends. -/
theorem currentAttempt_not_told :
    let c : Cluster Number := .on "http://livy:8998/batches" "/yarnui" (.whole 3)
    let p : Polling Number := ⟨3, .whole 5⟩
    let env : Surroundings Number := Replies.surroundings {} 9
    let w : World Unit Number := ⟨(), .whole 0, []⟩
    ¬ infiniteAttempt.Settles (listOfReply infiniteAttempt) ∧
      ¬ Inquiry.Ends
        (c.currentAttempt p "application_1" (env.saying fun _ => saidInfinite) w).1 := by
  intro c p env w
  constructor
  · obtain ⟨m, hm⟩ := eq_of_misfits (r := listOfReply infiniteAttempt) (by decide +kernel)
    exact fun hsettles => hsettles.not_misfit m hm
  · obtain ⟨m, hm⟩ := eq_of_misfits
      (r := (c.currentAttempt p "application_1" (env.saying fun _ => saidInfinite) w).1)
      (by decide +kernel)
    exact fun hends => hends.not_misfit m hm

end Cluster

end SparkGateway
