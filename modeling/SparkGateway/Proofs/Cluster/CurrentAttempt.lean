import Mathlib.Algebra.Order.Floor.Semifield
import Mathlib.Data.List.Nodup
import Mathlib.Data.Rat.Floor
import SparkGateway.Proofs.Cluster.Attempts

/-!
# The current attempt

The current attempt of an application is the first of those with the greatest number, so the order of the
list matters only where two attempts have the same number.  That can happen to numbers that differ in the
reply: a fraction loses what stands behind the point, and a truth value or a text counts as a number.

The question for the current attempt comes to an attempt exactly if the first good reply lists attempts
and this is the current one of them (`currentAttempt_selects`).
-/

namespace SparkGateway

open Run Polling

variable {σ τ : Type}

/-! ## Numbers of attempts -/

/-- The whole number that a value stands for. -/
inductive Json.StandsFor : Json → Int → Prop
  | whole (n : Int) : StandsFor (.num (.whole n)) n
  /-- A fraction is cut off towards zero. -/
  | real {x : Float} {negative : Bool} {m : Nat} {e : Int} :
      Decimal.Value.ofFloat x = .finite negative m e →
      StandsFor (.num (.real x)) (if negative then -⌊(m * 2 ^ e : ℚ)⌋₊ else ⌊(m * 2 ^ e : ℚ)⌋₊)
  | truth (b : Bool) : StandsFor (.bool b) b.toInt
  | numeral {text : String} {n : Int} : Numeral.int? text = some n → StandsFor (.str text) n

theorem Decimal.scaled_div (m : Nat) (e : Int) :
    (scaled m e).1 / (scaled m e).2 = ⌊(m * 2 ^ e : ℚ)⌋₊ := by
  unfold scaled twoTo
  split
  · next he =>
      obtain ⟨k, rfl⟩ := Int.eq_ofNat_of_zero_le he
      rw [Nat.div_one, Int.toNat_natCast, zpow_natCast]
      exact_mod_cast (Nat.floor_natCast (m * 2 ^ k)).symm
  · next he =>
      obtain ⟨k, hk⟩ := Int.eq_ofNat_of_zero_le (a := -e) (by omega)
      obtain rfl : e = -k := by omega
      rw [Int.neg_neg, Int.toNat_natCast, zpow_neg, zpow_natCast, ← div_eq_mul_inv]
      have hfloor : ⌊(m / 2 ^ k : ℚ)⌋₊ = m / 2 ^ k := by norm_cast
      exact hfloor.symm

theorem Json.toWhole_eq_ok_iff {v : Json} {n : Int} : v.toWhole = .ok n ↔ v.StandsFor n := by
  constructor
  · intro h
    unfold toWhole at h
    split at h
    · next m =>
        obtain rfl := Except.ok.inj h
        exact .whole m
    · next x =>
        split at h
        · cases h
        · cases h
        · next negative m e hx =>
            obtain rfl := Except.ok.inj h
            have hreal := StandsFor.real hx
            rw [← Decimal.scaled_div] at hreal
            simpa [Decimal.truncated, hx] using hreal
    · next b =>
        obtain rfl := Except.ok.inj h
        cases b
        · exact .truth false
        · exact .truth true
    · next text =>
        split at h
        · next m hm =>
            obtain rfl := Except.ok.inj h
            exact .numeral hm
        · cases h
    · cases h
  · intro h
    cases h with
    | whole => rfl
    | real hx => simp [toWhole, Decimal.truncated, hx, ← Decimal.scaled_div]
    | truth b => cases b <;> rfl
    | numeral hn => simp [toWhole, hn]

namespace Cluster

namespace Attempt

/-! ## The first of the greatest -/

/-- An attempt has the greatest number in a list, and none before it has it as well. -/
def FirstGreatest (attempts : List Attempt) (a : Attempt) : Prop :=
  ∃ before after, attempts = before ++ a :: after ∧ (∀ b ∈ before, b.id < a.id) ∧
    ∀ b ∈ after, b.id ≤ a.id

namespace FirstGreatest

variable {attempts : List Attempt} {a b best : Attempt}

theorem mem (h : FirstGreatest attempts a) : a ∈ attempts := by
  obtain ⟨before, after, rfl, -⟩ := h
  simp

theorem le (h : FirstGreatest attempts a) (hb : b ∈ attempts) : b.id ≤ a.id := by
  obtain ⟨before, after, rfl, hbefore, hafter⟩ := h
  rcases List.mem_append.1 hb with hb | hb
  · exact (hbefore b hb).le
  · rcases List.mem_cons.1 hb with rfl | hb
    · exact le_rfl
    · exact hafter b hb

/-- An attempt with a smaller number may stand in front. -/
theorem cons (h : FirstGreatest attempts a) (hb : b.id < a.id) : FirstGreatest (b :: attempts) a := by
  obtain ⟨before, after, rfl, hbefore, hafter⟩ := h
  exact ⟨b :: before, after, rfl, List.forall_mem_cons.2 ⟨hb, hbefore⟩, hafter⟩

/-- An attempt whose number is not greater than that of the one before it may be put in. -/
theorem insert (h : FirstGreatest (best :: attempts) a) (hb : b.id ≤ best.id) :
    FirstGreatest (best :: b :: attempts) a := by
  obtain ⟨before, after, hlist, hbefore, hafter⟩ := h
  cases before with
  | nil =>
      obtain ⟨rfl, rfl⟩ := List.cons.inj hlist
      exact ⟨[], b :: attempts, rfl, nofun, List.forall_mem_cons.2 ⟨hb, hafter⟩⟩
  | cons c before =>
      obtain ⟨rfl, rfl⟩ := List.cons.inj hlist
      obtain ⟨hbest, hbefore⟩ := List.forall_mem_cons.1 hbefore
      refine ⟨best :: b :: before, after, rfl, ?_, hafter⟩
      exact List.forall_mem_cons.2 ⟨hbest, List.forall_mem_cons.2 ⟨hb.trans_lt hbest, hbefore⟩⟩

/-- It is the first that nothing in the list exceeds. -/
theorem find?_eq (h : FirstGreatest attempts a) :
    attempts.find? (fun a => attempts.all fun b => decide (b.id ≤ a.id)) = some a := by
  have hle : ∀ b ∈ attempts, b.id ≤ a.id := fun b hb => h.le hb
  obtain ⟨before, after, hlist, hbefore, -⟩ := h
  refine List.find?_eq_some_iff_append.2 ⟨by simpa using hle, before, after, hlist, fun b hb => ?_⟩
  have ha : a ∈ attempts := by simp [hlist]
  simp only [Bool.not_eq_true', List.all_eq_false, decide_eq_true_eq, Int.not_le]
  exact ⟨a, ha, hbefore b hb⟩

/-- If no two attempts have the same number, the order of the list does not matter. -/
theorem eq_of_perm {others : List Attempt} {a' : Attempt} (h : FirstGreatest attempts a)
    (h' : FirstGreatest others a') (hperm : attempts.Perm others) (hnodup : (attempts.map id).Nodup) :
    a = a' := by
  have ha' : a' ∈ attempts := hperm.symm.subset h'.mem
  exact List.inj_on_of_nodup_map hnodup h.mem ha'
    (le_antisymm (h'.le (hperm.subset h.mem)) (h.le ha'))

end FirstGreatest

theorem greatest_firstGreatest (best : Attempt) (attempts : List Attempt) :
    FirstGreatest (best :: attempts) (greatest best attempts) := by
  unfold greatest
  induction attempts generalizing best with
  | nil => exact ⟨[], [], rfl, nofun, nofun⟩
  | cons a attempts ih =>
      rw [List.foldl_cons]
      split
      · next hless => exact (ih a).cons (hless.trans_le ((ih a).le List.mem_cons_self))
      · next hless => exact (ih best).insert (Int.not_lt.1 hless)

theorem firstGreatest_of_current? {attempts : List Attempt} {a : Attempt} (h : current? attempts = some a) :
    FirstGreatest attempts a := by
  cases attempts with
  | nil => cases h
  | cons best attempts =>
      obtain rfl := Option.some.inj h
      exact greatest_firstGreatest best attempts

theorem current?_eq_find? (attempts : List Attempt) :
    current? attempts = attempts.find? fun a => attempts.all fun b => decide (b.id ≤ a.id) := by
  cases hcurrent : current? attempts with
  | none => rw [(current?_eq_none_iff attempts).1 hcurrent, List.find?_nil]
  | some a => exact (firstGreatest_of_current? hcurrent).find?_eq.symm

theorem current?_perm {attempts others : List Attempt} (hperm : attempts.Perm others)
    (hnodup : (attempts.map id).Nodup) : current? attempts = current? others := by
  cases hcurrent : current? attempts with
  | none =>
      obtain rfl := (current?_eq_none_iff attempts).1 hcurrent
      rw [← hperm.nil_eq]
      rfl
  | some a =>
      cases hother : current? others with
      | none =>
          obtain rfl := (current?_eq_none_iff others).1 hother
          rw [hperm.eq_nil] at hcurrent
          cases hcurrent
      | some a' =>
          have hfirst := firstGreatest_of_current? hcurrent
          exact congrArg some (hfirst.eq_of_perm (firstGreatest_of_current? hother) hperm hnodup)

/-! ## Lists in replies -/

/-- An entry of a list describes an attempt. -/
inductive Describes : Json → Attempt → Prop
  | entry {fields : Json.Fields} {n : Int} {name : Json} :
      (Json.Fields.get fields "id").StandsFor n → Json.Fields.get? fields "appAttemptId" = some name →
      Describes (.obj fields) ⟨n, name.display, Json.Fields.get fields "logsLink",
        Json.Fields.get fields "containerId", Json.Fields.get fields "nodeHttpAddress"⟩

/-- A value lists attempts: it is a list of entries that describe them, or it counts as nothing. -/
inductive ListedIn : Json → List Attempt → Prop
  | entries {items : List Json} {attempts : List Attempt} :
      List.Forall₂ Describes items attempts → ListedIn (.arr items) attempts
  | nothing {v : Json} : v.given = false → ListedIn v []

/-- The document of a reply lists attempts. -/
def Lists (found : Reply) (attempts : List Attempt) : Prop :=
  ∃ fields inner, found.document = .ok (.obj fields) ∧
    (Json.Fields.get fields "appAttempts" = .obj inner ∨
      (Json.Fields.get fields "appAttempts").given = false ∧ inner = []) ∧
    ListedIn (Json.Fields.get inner "appAttempt") attempts

theorem ofJson_eq_ok_iff {found : Reply} {v : Json} {a : Attempt} :
    ofJson found v = .ok a ↔ Describes v a := by
  constructor
  · intro h
    unfold ofJson at h
    dsimp only at h
    split at h
    · next fields =>
        split at h
        · next n hn =>
            split at h
            · next name hname =>
                obtain rfl := Except.ok.inj h
                exact .entry (Json.toWhole_eq_ok_iff.1 hn) hname
            · cases h
        · cases h
        · cases h
    · cases h
  · rintro ⟨hn, hname⟩
    simp only [ofJson, Json.toWhole_eq_ok_iff.2 hn, hname]

theorem mapM_ofJson_eq_ok_iff {found : Reply} {items : List Json} {attempts : List Attempt} :
    items.mapM (ofJson found) = .ok attempts ↔ List.Forall₂ Describes items attempts := by
  simp only [mapM_eq_ok_iff, ofJson_eq_ok_iff]

/-- A value without items counts as nothing. -/
theorem given_of_itemsIfGiven_nil {v : Json} (h : v.itemsIfGiven = .ok []) : v.given = false := by
  by_contra hgiven
  have hgiven := Bool.eq_true_of_not_eq_false hgiven
  unfold Json.itemsIfGiven at h
  rw [if_pos hgiven] at h
  cases v with
  | arr items =>
      obtain rfl := Except.ok.inj h
      cases hgiven
  | str text =>
      have hempty : text.toList = [] := List.map_eq_nil_iff.1 (Except.ok.inj h)
      obtain rfl := String.toList_eq_nil_iff.1 hempty
      cases hgiven
  | obj fields =>
      obtain rfl := List.map_eq_nil_iff.1 (Except.ok.inj h)
      cases hgiven
  | _ => cases h

/-- The items of a text or of fields are texts, and these describe no attempts. -/
theorem itemsIfGiven_described_iff {v : Json} {attempts : List Attempt} :
    (∃ items, v.itemsIfGiven = .ok items ∧ List.Forall₂ Describes items attempts) ↔
      ListedIn v attempts := by
  constructor
  · rintro ⟨items, hitems, hdescribed⟩
    cases hdescribed with
    | nil => exact .nothing (given_of_itemsIfGiven_nil hitems)
    | cons hfirst hothers =>
        obtain ⟨hn, hname⟩ := hfirst
        obtain rfl := Json.eq_arr_of_items hitems List.mem_cons_self
        exact .entries (.cons (.entry hn hname) hothers)
  · rintro (hdescribed | hnothing)
    · exact ⟨_, Json.itemsIfGiven_arr _, hdescribed⟩
    · refine ⟨[], ?_, .nil⟩
      unfold Json.itemsIfGiven
      rw [hnothing]
      rfl

theorem listOfReply_eq_ok_iff {found : Reply} {attempts : List Attempt} :
    listOfReply found = .ok attempts ↔ Lists found attempts := by
  unfold listOfReply Lists
  simp only [mapError_bind_eq_ok_iff, Reply.fields_eq_ok_iff, Json.orElse_eq_obj_iff]
  constructor
  · rintro ⟨_, hdocument, fields, rfl, inner, hinner, h⟩
    refine ⟨fields, inner, hdocument, hinner, itemsIfGiven_described_iff.1 ?_⟩
    split at h
    · next items hitems => exact ⟨items, hitems, mapM_ofJson_eq_ok_iff.1 h⟩
    · cases h
  · rintro ⟨fields, inner, hdocument, hinner, hlisted⟩
    obtain ⟨items, hitems, hdescribed⟩ := itemsIfGiven_described_iff.2 hlisted
    refine ⟨_, hdocument, fields, rfl, inner, hinner, ?_⟩
    rw [hitems]
    exact mapM_ofJson_eq_ok_iff.2 hdescribed

end Attempt

/-! ## The question for the current attempt -/

open Batch Attempt

variable {c : Cluster τ} {p : Polling τ} {id url : String}

theorem currentOf_eq_ok_iff {attempts : List Attempt} {a : Attempt} :
    currentOf id url attempts = .ok a ↔ current? attempts = some a := by
  unfold currentOf
  cases current? attempts <;> simp

theorem attemptAt_read_eq_some_iff {found : Reply} {a : Attempt} :
    (attemptAt id url).read found = .ok (some a) ↔
      ∃ attempts, Lists found attempts ∧ current? attempts = some a := by
  constructor
  · intro h
    cases hlist : listOfReply found with
    | error e =>
        rw [attemptAt_read_of_error hlist] at h
        cases h
    | ok attempts =>
        rw [attemptAt_read_of_ok hlist] at h
        have hcurrent : currentOf id url attempts = .ok a := eq_of_map_some_eq h
        exact ⟨attempts, listOfReply_eq_ok_iff.1 hlist, currentOf_eq_ok_iff.1 hcurrent⟩
  · rintro ⟨attempts, hlists, hcurrent⟩
    rw [attemptAt_read_of_ok (listOfReply_eq_ok_iff.2 hlists), currentOf_eq_ok_iff.2 hcurrent]
    rfl

variable [Timeline τ]

/-- How the current attempt is selected, and that the question for it comes to what is selected from the
first good reply. -/
structure SelectsCurrent (c : Cluster τ) (p : Polling τ) (id url : String) (env : Surroundings τ)
    (script : Nat → Said) (w : World σ τ) : Prop where
  none_iff : ∀ attempts, current? attempts = none ↔ attempts = []
  /-- It is the first that nothing in the list exceeds. -/
  first : ∀ attempts, current? attempts =
    attempts.find? fun a => attempts.all fun b => decide (b.id ≤ a.id)
  perm : ∀ attempts others : List Attempt, attempts.Perm others → (attempts.map Attempt.id).Nodup →
    current? attempts = current? others
  attempt_iff : ∀ (k : Nat) found, (k : Int) < p.attempts →
    (∀ j < k, (w.hears script j).Missed (.get url)) →
    (w.hears script k).goodReply? (.get url) = some found → ∀ a,
      ((c.currentAttempt p id (env.saying script) w).1 = .ok a ↔
        ∃ attempts, Lists found attempts ∧ current? attempts = some a)
  /-- A list without attempts is told as that. -/
  unlisted : ∀ (k : Nat) found, (k : Int) < p.attempts →
    (∀ j < k, (w.hears script j).Missed (.get url)) →
    (w.hears script k).goodReply? (.get url) = some found → Lists found [] →
      (c.currentAttempt p id (env.saying script) w).1 =
        .error (.fault (.noAttempt s!"No attempt found for application {id} at {url}"))

theorem currentAttempt_selects (hurl : c.attemptsUrl id = .ok url) (env : Surroundings τ)
    (script : Nat → Said) (w : World σ τ) : SelectsCurrent c p id url env script w := by
  have hread : ∀ (k : Nat) found, (k : Int) < p.attempts →
      (∀ j < k, (w.hears script j).Missed (.get url)) →
      (w.hears script k).goodReply? (.get url) = some found →
        (attemptAt id url).read found = (c.currentAttempt p id (env.saying script) w).1.map some := by
    intro k found hk hmissed hgood
    have hputs := currentAttempt_puts (σ := σ) hurl (p := p) (by omega)
    obtain ⟨-, found', hgood', hread⟩ :=
      hputs.at_decision (attemptAt_orderly id url).reached env (attemptAt_decides hk (fun j hj => .inl (hmissed j hj)) hgood)
    obtain rfl := Option.some.inj (hgood'.symm.trans hgood)
    exact hread
  refine ⟨current?_eq_none_iff, current?_eq_find?, fun _ _ => current?_perm, ?_, ?_⟩
  · intro k found hk hmissed hgood a
    have hiff : (attemptAt id url).read found = .ok (some a) ↔ _ := attemptAt_read_eq_some_iff
    rw [← hiff, hread k found hk hmissed hgood]
    exact ⟨congrArg (Except.map some), fun hsame => eq_of_map_some_eq hsame⟩
  · intro k found hk hmissed hgood hlists
    have hread := hread k found hk hmissed hgood
    rw [attemptAt_read_of_ok (listOfReply_eq_ok_iff.2 hlists)] at hread
    exact (eq_of_map_some_eq hread).symm

/-- A reply that is not good, a connection that fails, and then a list in which the numbers of three
attempts come to be the same. -/
def listedTwice (k : Nat) : Said :=
  if k = 0 then .reply 500 none none
  else if k = 1 then .broken "down"
  else .reply 200 (some "\x7b\"appAttempts\": \x7b\"appAttempt\": [
    \x7b\"id\": true, \"appAttemptId\": \"appattempt_1\"\x7d,
    \x7b\"id\": 2.75, \"appAttemptId\": \"appattempt_2\"\x7d,
    \x7b\"id\": \" +2 \", \"appAttemptId\": \"appattempt_3\"\x7d,
    \x7b\"id\": 2, \"appAttemptId\": \"appattempt_4\"\x7d]\x7d\x7d") none

theorem currentAttempt_selects_of_listedTwice :
    let c : Cluster Number := .on "http://livy:8998/batches" "/yarnui" (.whole 3)
    let p : Polling Number := ⟨3, .whole 5⟩
    let env : Surroundings Number := Replies.surroundings {} 9
    let w : World Unit Number := ⟨(), .whole 0, []⟩
    let url := "http://livy:8998/yarnui/ws/v1/cluster/apps/application_1/appattempts"
    SelectsCurrent c p "application_1" url env listedTwice w ∧
      ∃ found attempts a, (w.hears listedTwice 2).goodReply? (.get url) = some found ∧
        Lists found attempts ∧ attempts.map Attempt.id = [1, 2, 2, 2] ∧ current? attempts = some a ∧
        a.name = "appattempt_2" ∧ (c.currentAttempt p "application_1" (env.saying listedTwice) w).1 = .ok a := by
  intro c p env w url
  have hselects : SelectsCurrent c p "application_1" url env listedTwice w :=
    currentAttempt_selects (by decide +kernel) env listedTwice w
  have hmissed : ∀ j < 2, (w.hears listedTwice j).Missed (.get url)
    | 0, _ => .inr ⟨_, rfl, rfl⟩
    | 1, _ => .inl ⟨_, rfl⟩
  obtain ⟨found, hfound⟩ : ∃ found, (w.hears listedTwice 2).goodReply? (.get url) = some found := ⟨_, rfl⟩
  have hread : ((listOfReply found).toOption.map fun attempts =>
      (attempts.map Attempt.id, (current? attempts).map Attempt.name)) =
        some ([1, 2, 2, 2], some "appattempt_2") := by
    obtain rfl := Option.some.inj hfound
    decide +kernel
  cases hlist : listOfReply found with
  | error e =>
      rw [hlist] at hread
      cases hread
  | ok attempts =>
      rw [hlist] at hread
      obtain ⟨hids, hname⟩ := Prod.mk.inj (Option.some.inj hread)
      obtain ⟨a, hcurrent, hname⟩ := Option.map_eq_some_iff.1 hname
      have hlists := listOfReply_eq_ok_iff.1 hlist
      exact ⟨hselects, found, attempts, a, hfound, hlists, hids, hcurrent, hname,
        (hselects.attempt_iff 2 found (by decide) hmissed hfound a).2 ⟨attempts, hlists, hcurrent⟩⟩

end Cluster

end SparkGateway
