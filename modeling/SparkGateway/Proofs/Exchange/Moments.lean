import SparkGateway.Proofs.Exchange.Course

/-!
# What holds at every moment

The events and the outcome of a piece of work tell what has come of it in the end.  Here a property of
the steps so far is followed through a piece of work: it holds throughout if it holds of the steps up to
each moment, before the first step, between two steps and after the last.  So it holds also of work that
is cut short anywhere.
-/

namespace SparkGateway

namespace Run

variable {σ τ α β : Type} {env : Surroundings τ} {P : Trace τ → Prop} {since : Trace τ}

/-- `P` holds at every moment of work that begins after the steps `since`; then `Q` holds of the outcome
and of all steps. -/
def Throughout (env : Surroundings τ) (P : Trace τ → Prop) (x : Run σ τ α) (since : Trace τ)
    (Q : Except Stop α → Trace τ → Prop) : Prop :=
  ∀ w, w.trace = since → ∃ t, (x env w).2.trace = since ++ t ∧
    (∀ u, u <+: t → P (since ++ u)) ∧ Q (x env w).1 (since ++ t)

theorem Throughout.mono {x : Run σ τ α} {Q R : Except Stop α → Trace τ → Prop}
    (h : Throughout env P x since Q) (hQR : ∀ r t, Q r t → R r t) :
    Throughout env P x since R := by
  intro w hw
  obtain ⟨t, htrace, hP, hQ⟩ := h w hw
  exact ⟨t, htrace, hP, hQR _ _ hQ⟩

/-- Work that makes no step. -/
theorem throughout_of_eq {x : Run σ τ α} {r : Except Stop α} {Q : Except Stop α → Trace τ → Prop}
    (hx : ∀ w, x env w = (r, w)) (hP : P since) (hQ : Q r since) :
    Throughout env P x since Q := by
  intro w hw
  refine ⟨[], ?_, ?_, ?_⟩
  · rw [hx, hw, List.append_nil]
  · intro u hu
    rw [List.prefix_nil.1 hu, List.append_nil]
    exact hP
  · rw [hx, List.append_nil]
    exact hQ

theorem throughout_value (a : α) {Q : Except Stop α → Trace τ → Prop} (hP : P since)
    (hQ : Q (.ok a) since) : Throughout env P (pure a : Run σ τ α) since Q :=
  throughout_of_eq (fun _ => rfl) hP hQ

theorem throughout_stop (e : Stop) {Q : Except Stop α → Trace τ → Prop} (hP : P since)
    (hQ : Q (.error e) since) : Throughout env P (stop e : Run σ τ α) since Q :=
  throughout_of_eq (fun _ => rfl) hP hQ

/-- A moment of one stretch of steps and another is one of the first or, after it, of the second. -/
theorem prefix_append_cases {t t' u : Trace τ} (h : u <+: t ++ t') :
    u <+: t ∨ ∃ u', u = t ++ u' ∧ u' <+: t' := by
  rcases List.prefix_or_prefix_of_prefix h (List.prefix_append t t') with hu | ⟨u', rfl⟩
  · exact Or.inl hu
  · exact Or.inr ⟨u', rfl, (List.prefix_append_right_inj t).1 h⟩

theorem Throughout.bind {x : Run σ τ α} {f : α → Run σ τ β} {Q : Except Stop α → Trace τ → Prop}
    {R : Except Stop β → Trace τ → Prop}
    (hx : Throughout env P x since Q)
    (hok : ∀ a t, P t → Q (.ok a) t → Throughout env P (f a) t R)
    (herror : ∀ e t, Q (.error e) t → R (.error e) t) :
    Throughout env P (x >>= f) since R := by
  intro w hw
  obtain ⟨t, htrace, hP, hQ⟩ := hx w hw
  cases hrun : x env w with
  | mk r v =>
      rw [hrun] at htrace hQ
      cases r with
      | error e =>
          rw [bind_error hrun]
          exact ⟨t, htrace, hP, herror e _ hQ⟩
      | ok a =>
          obtain ⟨t', htrace', hP', hR⟩ := hok a _ (hP t List.prefix_rfl) hQ v htrace
          rw [bind_ok hrun]
          refine ⟨t ++ t', by rw [htrace', List.append_assoc], ?_, by rwa [← List.append_assoc]⟩
          intro u hu
          rcases prefix_append_cases hu with hu | ⟨u', rfl, hu'⟩
          · exact hP u hu
          · rw [← List.append_assoc]
            exact hP' u' hu'

theorem Throughout.reachable {x : Run σ τ α} {Q : Except Stop α → Trace τ → Prop}
    (hx : Throughout env P x since Q) :
    Throughout env P x.reachable since fun r t => ∃ r', Q r' t ∧ r = heard r' := by
  intro w hw
  obtain ⟨t, htrace, hP, hQ⟩ := hx w hw
  rw [reachable_eq]
  exact ⟨t, htrace, hP, _, hQ, rfl⟩

/-- Through work whose events are known. -/
theorem Does.throughout {x : Run σ τ α} {A : List (Event τ) → Except Stop α → Prop}
    (h : Does env x A)
    (hP : ∀ t r, A (env.events since t) r → ∀ u, u <+: t → P (since ++ u)) :
    Throughout env P x since fun r t => ∃ u, t = since ++ u ∧ A (env.events since u) r := by
  intro w hw
  obtain ⟨es, r, v, hcourse, -, hA⟩ := h w
  obtain ⟨t, htrace, rfl⟩ := hcourse.steps
  rw [hw] at htrace hA
  rw [hcourse.run]
  exact ⟨t, htrace, hP t r hA, t, rfl, hA⟩

theorem itemless_before {t u : Trace τ} (h : u <+: t) (ht : Trace.items t = []) :
    Trace.items u = [] := by
  obtain ⟨u', rfl⟩ := h
  rw [Trace.items_append] at ht
  exact (List.append_eq_nil_iff.1 ht).1

/-- A request is answered at one of the moments of its steps. -/
theorem ask_throughout (q : Request) (hP : ∀ u, Trace.items u = [] → P (since ++ u)) :
    Throughout env P (ask q : Run σ τ Reply) since fun r t =>
      ∃ u u', t = since ++ u ++ u' ∧ Trace.items (u ++ u') = [] ∧
        r = (env.answer (since ++ u) q).outcome q := by
  have hmoments : ∀ t, Trace.items t = [] → ∀ u, u <+: t → P (since ++ u) :=
    fun t ht u hu => hP u (itemless_before hu ht)
  rintro w rfl
  cases hconnects : env.connects with
  | true =>
      rw [ask_of_connects q w hconnects]
      refine ⟨opening q ++ [.asked q, .released], List.append_assoc _ _ _, hmoments _ rfl, ?_⟩
      exact ⟨opening q, [.asked q, .released], (List.append_assoc _ _ _).symm, rfl, rfl⟩
  | false =>
      rw [ask_of_not_connects q w hconnects]
      refine ⟨[.asked q], rfl, hmoments _ rfl, [], [.asked q], ?_, rfl, ?_⟩
      · rw [List.append_nil]
      · rw [List.append_nil]

/-- Giving an item makes two moments: before and after. -/
theorem give_throughout (item : Item) (hbefore : P since) (hafter : P (since ++ [.gave item])) :
    Throughout env P (give item : Run σ τ Unit) since fun _ t => t = since ++ [.gave item] := by
  rintro w rfl
  have htrace : (give item env w).2.trace = w.trace ++ [.gave item] := by
    cases hhalt : env.halt (w.trace ++ [.gave item]) <;> simp [give, hhalt]
  refine ⟨[.gave item], htrace, fun u hu => ?_, htrace ▸ rfl⟩
  cases u with
  | nil =>
      rw [List.append_nil]
      exact hbefore
  | cons s u =>
      obtain ⟨rfl, hrest⟩ := List.cons_prefix_cons.1 hu
      rw [List.prefix_nil.1 hrest]
      exact hafter

/-- A loop keeps to `P` if each of its rounds does, when it begins as `I` says. -/
theorem throughout_rounds {round : α → Run σ τ (Round α β)} {I : α → Trace τ → Prop}
    (hI : ∀ a t, I a t → P t)
    (h : ∀ a t, I a t → Throughout env P (round a) t fun r t' => ∀ a', r = .ok (.again a') → I a' t')
    {a : α} (ha : I a since) :
    Throughout env P (rounds round a) since fun _ _ => True := by
  have hwithin : ∀ n a t, I a t → Throughout env P (roundsWithin round n a) t fun _ _ => True := by
    intro n
    induction n with
    | zero => exact fun a t ha => throughout_stop _ (hI a t ha) trivial
    | succ n ih =>
        intro a t ha
        refine (h a t ha).bind ?_ fun _ _ _ => trivial
        intro next t' ht' hnext
        cases next with
        | again a' => exact ih a' t' (hnext a' rfl)
        | done b => exact throughout_value b ht' trivial
  intro w hw
  have hpatience : (patience : Run σ τ Nat) env w = (.ok env.patience, w) := rfl
  rw [rounds, bind_ok hpatience]
  exact hwithin env.patience a since ha w hw

end Run

end SparkGateway
