import Mathlib.Data.List.Forall2

/-!
# Outcomes

How work that may fail comes to its value or its error: one piece after the other (`bind_eq_ok_iff`,
`bind_eq_error`), or a list item by item, where the first item that fails decides (`mapM_eq_ok_iff`,
`mapM_eq_error_iff`).
-/

namespace SparkGateway

theorem bind_eq_ok_iff {ε α β : Type} {x : Except ε α} {f : α → Except ε β} {b : β} :
    x >>= f = .ok b ↔ ∃ a, x = .ok a ∧ f a = .ok b := by
  constructor
  · intro h
    cases x with
    | ok a => exact ⟨a, rfl, h⟩
    | error e => cases h
  · rintro ⟨a, rfl, h⟩
    exact h

theorem bind_eq_error {ε α β : Type} {x : Except ε α} {f : α → Except ε β} {e : ε}
    (h : x >>= f = .error e) : x = .error e ∨ ∃ a, x = .ok a ∧ f a = .error e := by
  cases x with
  | ok a => exact .inr ⟨a, rfl, h⟩
  | error e' => exact .inl (congrArg _ (Except.error.inj h))

theorem mapError_eq_error {ε δ α : Type} {x : Except ε α} {g : ε → δ} {e : δ}
    (h : x.mapError g = .error e) : ∃ e', x = .error e' ∧ g e' = e := by
  cases x with
  | ok a => cases h
  | error e' => exact ⟨e', rfl, Except.error.inj h⟩

theorem mapError_bind_eq_ok_iff {ε δ α β : Type} {x : Except ε α} {g : ε → δ} {f : α → Except δ β} {b : β} :
    x.mapError g >>= f = .ok b ↔ ∃ a, x = .ok a ∧ f a = .ok b := by
  constructor
  · intro h
    cases x with
    | ok a => exact ⟨a, rfl, h⟩
    | error e => cases h
  · rintro ⟨a, rfl, h⟩
    exact h

theorem map_eq_error {ε α β : Type} {x : Except ε α} {g : α → β} {e : ε} (h : x.map g = .error e) :
    x = .error e := by
  cases x with
  | ok a => cases h
  | error e' => exact congrArg _ (Except.error.inj h)

theorem eq_of_map_some_eq {ε α : Type} {r r' : Except ε α} (h : r.map some = r'.map some) : r = r' := by
  cases r <;> cases r' <;> simp_all [Except.map]

/-! ## Item by item -/

theorem exists_forall₂_of_append {α β : Type} {R : α → β → Prop} {as : List α} {before after : List β} {b : β}
    (h : List.Forall₂ R as (before ++ b :: after)) :
    ∃ before' a after', as = before' ++ a :: after' ∧ List.Forall₂ R before' before ∧ R a b ∧
      List.Forall₂ R after' after := by
  have hdrop := List.forall₂_drop_append as before (b :: after) h
  obtain ⟨a, after', hab, hafter, hsplit⟩ := List.forall₂_cons_right_iff.1 hdrop
  refine ⟨as.take before.length, a, after', ?_, List.forall₂_take_append as before _ h, hab, hafter⟩
  rw [← hsplit, List.take_append_drop]

theorem exists_of_mem_left {α β : Type} {R : α → β → Prop} {as : List α} {bs : List β} {a : α}
    (h : List.Forall₂ R as bs) (ha : a ∈ as) : ∃ b ∈ bs, R a b := by
  obtain ⟨before, after, rfl⟩ := List.append_of_mem ha
  obtain ⟨_, b, _, rfl, -, hab, -⟩ := exists_forall₂_of_append h.flip
  exact ⟨b, by simp, hab⟩

/-- A list is read item by item. -/
theorem mapM_eq_ok_iff {ε α β : Type} {f : α → Except ε β} {as : List α} {bs : List β} :
    as.mapM f = .ok bs ↔ List.Forall₂ (fun a b => f a = .ok b) as bs := by
  induction as generalizing bs with
  | nil =>
      rw [List.mapM_nil, List.forall₂_nil_left_iff]
      exact ⟨fun h => (Except.ok.inj h).symm, fun h => congrArg _ h.symm⟩
  | cons a as ih =>
      rw [List.mapM_cons, List.forall₂_cons_left_iff]
      constructor
      · intro h
        cases hfirst : f a with
        | error e =>
            rw [hfirst] at h
            cases h
        | ok b =>
            cases hothers : as.mapM f with
            | error e =>
                rw [hfirst, hothers] at h
                cases h
            | ok others =>
                rw [hfirst, hothers] at h
                exact ⟨b, others, rfl, ih.1 hothers, (Except.ok.inj h).symm⟩
      · rintro ⟨b, others, hfirst, hothers, rfl⟩
        rw [hfirst, ih.2 hothers]
        rfl

/-- A list cannot be read exactly if an item cannot be read, all items before it being read. -/
theorem mapM_eq_error_iff {ε α β : Type} {f : α → Except ε β} {as : List α} {e : ε} :
    as.mapM f = .error e ↔ ∃ earlier a later, as = earlier ++ a :: later ∧
      (∀ b ∈ earlier, ∃ c, f b = .ok c) ∧ f a = .error e := by
  constructor
  · intro h
    induction as with
    | nil => cases h
    | cons a as ih =>
        rw [List.mapM_cons] at h
        rcases bind_eq_error h with hfirst | ⟨b, hb, hrest⟩
        · exact ⟨[], a, as, rfl, nofun, hfirst⟩
        · rcases bind_eq_error hrest with hlater | ⟨bs, -, hnone⟩
          · obtain ⟨earlier, a', later, rfl, hearlier, hfail⟩ := ih hlater
            exact ⟨a :: earlier, a', later, rfl, List.forall_mem_cons.2 ⟨⟨b, hb⟩, hearlier⟩, hfail⟩
          · cases hnone
  · rintro ⟨earlier, a, later, rfl, hearlier, hfail⟩
    induction earlier with
    | nil =>
        rw [List.nil_append, List.mapM_cons, hfail]
        rfl
    | cons b earlier ih =>
        obtain ⟨⟨c, hc⟩, hrest⟩ := List.forall_mem_cons.1 hearlier
        have htail := ih hrest
        rw [List.cons_append, List.mapM_cons, hc]
        show (earlier ++ a :: later).mapM f >>= _ = _
        rw [htail]
        rfl

theorem mapM_eq_error {ε α β : Type} {f : α → Except ε β} {as : List α} {e : ε}
    (h : as.mapM f = .error e) : ∃ a ∈ as, f a = .error e := by
  obtain ⟨earlier, a, later, rfl, -, hfail⟩ := mapM_eq_error_iff.1 h
  exact ⟨a, by simp, hfail⟩

end SparkGateway
