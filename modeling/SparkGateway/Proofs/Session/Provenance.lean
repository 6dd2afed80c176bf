import SparkGateway.Proofs.Session.Leaving

/-!
# Where a snapshot comes from

What is remembered of a session should never be a mixture.  Creating a session, looking at it and
killing it leave the memory as it was when they fail, in whatever way (`Atomic`), and when they succeed
they either replace the whole snapshot by one that a single answer carries or change nothing but the
state.  So whatever is done with a session, the snapshot at every moment is the one at the start or one
that a single answer carries, and at most its state has been changed since, to that of a session that is
dead (`snapshot_traced`).
-/

namespace SparkGateway

namespace Session

open Run

variable {τ α : Type} {env : Surroundings τ} {s : Session τ} {m m' : Memory}

/-- The snapshot of the same session once it has been killed. -/
def Snapshot.killed (seen : Snapshot) : Snapshot := { seen with state := .dead }

theorem Snapshot.killed_killed (seen : Snapshot) : seen.killed.killed = seen.killed := rfl

/-- The answer to the creation of the session, or to a look at it, carries a snapshot as a whole. -/
def Carries (s : Session τ) (es : List (Event τ)) (seen : Snapshot) : Prop :=
  ∃ q a found, .answered q a ∈ es ∧ (q = s.creation ∨ ∃ n, q = .get (s.urlOf n)) ∧
    a.goodReply? q = some found ∧ Snapshot.ofReply found = .ok seen

/-- After some events a snapshot is the one at the start or one that an answer carries, except that the
session may have been killed since. -/
def Traced (s : Session τ) (es : List (Event τ)) (start now : Snapshot) : Prop :=
  ∃ base, (base = start ∨ s.Carries es base) ∧ (now = base ∨ now = base.killed)

/-- Work that fails leaves the memory as it was. -/
def Atomic (x : Run Memory τ α) (env : Surroundings τ) (w : World Memory τ) : Prop :=
  ∀ e, (x env w).1 = .error e → (x env w).2.memory = w.memory

theorem Carries.mono {es fs : List (Event τ)} {seen : Snapshot} (h : s.Carries es seen)
    (hsubset : es ⊆ fs) : s.Carries fs seen := by
  obtain ⟨q, a, found, hmem, hread⟩ := h
  exact ⟨q, a, found, hsubset hmem, hread⟩

theorem traced_refl (s : Session τ) (es : List (Event τ)) (start : Snapshot) :
    s.Traced es start start :=
  ⟨start, Or.inl rfl, Or.inl rfl⟩

theorem Traced.mono {es fs : List (Event τ)} {start now : Snapshot} (h : s.Traced es start now)
    (hsubset : es ⊆ fs) : s.Traced fs start now := by
  obtain ⟨base, hbase, hnow⟩ := h
  exact ⟨base, hbase.imp_right fun hcarries => hcarries.mono hsubset, hnow⟩

theorem Traced.trans {es fs : List (Event τ)} {start mid now : Snapshot} (hes : s.Traced es start mid)
    (hfs : s.Traced fs mid now) : s.Traced (es ++ fs) start now := by
  obtain ⟨base, hbase | hcarries, hnow⟩ := hfs
  · obtain ⟨origin, horigin, hmid⟩ := hes.mono (List.subset_append_left es fs)
    refine ⟨origin, horigin, ?_⟩
    rcases hmid with rfl | rfl
    · rcases hnow with rfl | rfl
      · exact Or.inl hbase
      · exact Or.inr (congrArg Snapshot.killed hbase)
    · rcases hnow with rfl | rfl
      · exact Or.inr hbase
      · rw [hbase, origin.killed_killed]
        exact Or.inr rfl
  · exact ⟨base, Or.inr (hcarries.mono (List.subset_append_right es fs)), hnow⟩

/-! ## Single operations -/

/-- A request that fails to replace the snapshot leaves the memory as it was. -/
theorem memory_of_replaced {refusal : Reply → Fault} {q : Request} {es : List (Event τ)} {e : Stop}
    (h : Replaced env refusal q m es (.error e) m') : m' = m := by
  obtain ⟨t, -, ⟨new, -, hok, -⟩ | ⟨e', -, -, hm⟩⟩ := h
  · cases hok
  · exact hm

theorem traced_of_replaced {refusal : Reply → Fault} {q : Request} {es : List (Event τ)}
    {r : Except Stop Unit} (hq : q = s.creation ∨ ∃ n, q = .get (s.urlOf n))
    (h : Replaced env refusal q m es r m') : s.Traced es m.snapshot m'.snapshot := by
  obtain ⟨t, rfl, ⟨new, hnew, -, rfl⟩ | ⟨e, -, -, rfl⟩⟩ := h
  · obtain ⟨found, hgood, hread⟩ := readIn_eq_ok_iff.1 hnew
    exact ⟨new, Or.inr ⟨q, _, found, List.mem_singleton_self _, hq, hgood, hread⟩, Or.inl rfl⟩
  · exact s.traced_refl _ _

theorem traced_of_killed {n : Int} {m₀ : Memory} {es : List (Event τ)} {r : Except Stop Unit}
    (hsame : m₀.snapshot = m.snapshot) (h : Killed env s n m₀ es r m') :
    s.Traced es m.snapshot m'.snapshot := by
  obtain ⟨t, -, -, rfl⟩ := h
  rw [← hsame]
  cases r with
  | ok _ => exact ⟨m₀.snapshot, Or.inl rfl, Or.inr rfl⟩
  | error _ => exact s.traced_refl _ _

theorem atomic_of_replaced {refusal : Reply → Fault} {q : Request} {x : Run Memory τ Unit}
    {w : World Memory τ} (h : Leads env x w.memory (Replaced env refusal q w.memory)) :
    Atomic x env w := by
  intro e he
  have hreplaced := h.holds w rfl
  rw [he] at hreplaced
  exact memory_of_replaced hreplaced

theorem create_atomic (s : Session τ) (env : Surroundings τ) (w : World Memory τ) :
    Atomic s.create env w :=
  atomic_of_replaced create_leads

theorem refresh_atomic (s : Session τ) (env : Surroundings τ) (w : World Memory τ) :
    Atomic s.refresh env w := by
  cases hidentity : w.memory.snapshot.identity with
  | none =>
      intro e he
      rw [s.refresh_uncreated env w hidentity] at he
      cases he
  | some n => exact atomic_of_replaced (refresh_leads hidentity)

/-- What is remembered after the kill of a session that exists is told by the outcome alone. -/
theorem kill_memory (s : Session τ) (env : Surroundings τ) (w : World Memory τ) {n : Int}
    (hidentity : w.memory.snapshot.identity = some n) :
    (s.kill env w).2.memory = w.memory.afterKill (s.kill env w).1 := by
  have hleads : Leads env s.kill w.memory (Killed env s n w.memory) := kill_leads hidentity
  obtain ⟨t, -, -, hmemory⟩ := hleads.holds w rfl
  exact hmemory

theorem kill_atomic (s : Session τ) (env : Surroundings τ) (w : World Memory τ) :
    Atomic s.kill env w := by
  intro e he
  cases hidentity : w.memory.snapshot.identity with
  | none =>
      rw [s.kill_uncreated env w hidentity] at he
      cases he
  | some n =>
      rw [s.kill_memory env w hidentity, he]
      rfl

theorem kill_traced (s : Session τ) (m : Memory) :
    Leads env s.kill m fun es _ m' => s.Traced es m.snapshot m'.snapshot := by
  cases hidentity : m.snapshot.identity with
  | none =>
      refine (kill_still hidentity).mono ?_
      rintro es r m' ⟨-, -, rfl⟩
      exact s.traced_refl es _
  | some n => exact (kill_leads hidentity).mono fun _ _ _ hkilled => traced_of_killed rfl hkilled

theorem close_traced (s : Session τ) (m : Memory) :
    Leads env s.close m fun es _ m' => s.Traced es m.snapshot m'.snapshot := by
  refine (close_leads s m).mono fun es r m' hclosed => ?_
  unfold Closed at hclosed
  split at hclosed
  · obtain ⟨-, -, rfl⟩ := hclosed
    exact s.traced_refl es _
  · split at hclosed
    · obtain ⟨-, -, rfl⟩ := hclosed
      exact s.traced_refl es _
    · have hsame : ({ m with closed := true } : Memory).snapshot = m.snapshot := rfl
      exact traced_of_killed hsame hclosed

variable [Timeline τ]

theorem operation_traced {x : Run Memory τ α} (h : s.Operation x) (m : Memory) :
    Leads env x m fun es _ m' => s.Traced es m.snapshot m'.snapshot := by
  have herrand : ∀ {β : Type} {y : Run Memory τ β}, s.Errand y →
      Leads env y m fun es _ m' => s.Traced es m.snapshot m'.snapshot := by
    intro β y hy
    refine (errand_did hy m).mono fun es r m' hdid => ?_
    cases hdid with
    | unasked => exact s.traced_refl es _
    | looked _ hreplaced => exact traced_of_replaced (Or.inr ⟨_, rfl⟩) hreplaced
    | executed => exact s.traced_refl es _
  cases h with
  | create => exact create_leads.mono fun _ _ _ => traced_of_replaced (Or.inl rfl)
  | piece h =>
      cases h with
      | snapshot => exact herrand .snapshot
      | now => exact herrand .now
      | sleep amount => exact herrand (.sleep amount)
      | refresh => exact herrand .refresh
      | execute statement => exact herrand (.execute statement)
      | kill => exact s.kill_traced m
      | close => exact s.close_traced m

/-! ## All work in a session -/

/-- The snapshots in the memories `ms` can be traced, and so can the last. -/
def TracedThrough (s : Session τ) (m : Memory) (es : List (Event τ)) (ms : List Memory) (m' : Memory) :
    Prop :=
  ∀ m₁ ∈ m' :: ms, s.Traced es m.snapshot m₁.snapshot

omit [Timeline τ] in
theorem tracedThrough_strings (s : Session τ) : Strings s.TracedThrough := by
  constructor
  · exact fun m => List.forall_mem_singleton.2 (s.traced_refl [] _)
  · intro m m' m'' es fs ms ms' hes hfs
    obtain ⟨hlast, hms⟩ := List.forall_mem_cons.1 hes
    obtain ⟨hlast', hms'⟩ := List.forall_mem_cons.1 hfs
    refine List.forall_mem_cons.2 ⟨hlast.trans hlast', List.forall_mem_append.2 ⟨?_, ?_⟩⟩
    · exact fun m₁ hm₁ => (hms m₁ hm₁).mono (List.subset_append_left es fs)
    · exact fun m₁ hm₁ => hlast.trans (hms' m₁ hm₁)

theorem passes_traced {x : Run Memory τ α} {w : World Memory τ} {ms : List Memory}
    (h : Passes s.Operation env x w ms) :
    s.TracedThrough w.memory (x.events env w) ms (x env w).2.memory := by
  have hoperation : ∀ {β : Type} (y : Run Memory τ β), s.Operation y → ∀ m,
      Leads env y m fun es _ m' => s.TracedThrough m es [m'] m' := by
    intro β y hy m
    refine (operation_traced hy m).mono fun es r m' htraced => ?_
    exact List.forall_mem_cons.2 ⟨htraced, List.forall_mem_singleton.2 htraced⟩
  obtain ⟨es, r, v, hcourse, htraced⟩ := h.told s.tracedThrough_strings hoperation
  rw [hcourse.events_eq, hcourse.run]
  exact htraced

/-- Creating a session, looking at it and killing it change nothing when they fail.  A kill that succeeds
changes the state alone, and a session that does not exist is left alone.  After every operation of any
work in a session, the snapshot is the one at the start or one that a single answer carries, except that
the session may have been killed since. -/
theorem snapshot_traced (s : Session τ) (env : Surroundings τ) (w : World Memory τ) :
    (Atomic s.create env w ∧ Atomic s.refresh env w ∧ Atomic s.kill env w) ∧
      (∀ n, w.memory.snapshot.identity = some n → (s.kill env w).1 = .ok () →
        (s.kill env w).2.memory = { w.memory with snapshot := w.memory.snapshot.killed }) ∧
      (w.memory.snapshot.identity = none →
        s.refresh env w = (.ok (), w) ∧ s.kill env w = (.ok (), w)) ∧
      ∀ {α : Type} {x : Run Memory τ α}, Composed s.Operation x →
        (∃ ms, Passes s.Operation env x w ms) ∧
          ∀ ms, Passes s.Operation env x w ms →
            s.TracedThrough w.memory (x.events env w) ms (x env w).2.memory := by
  refine ⟨⟨s.create_atomic env w, s.refresh_atomic env w, s.kill_atomic env w⟩, ?_, ?_, ?_⟩
  · intro n hidentity hkilled
    rw [s.kill_memory env w hidentity, hkilled]
    rfl
  · exact fun hnone => ⟨s.refresh_uncreated env w hnone, s.kill_uncreated env w hnone⟩
  · exact fun hx => ⟨hx.passes env w, fun ms hms => passes_traced hms⟩

/-- A session whose server refuses to delete it, one whose server deletes it, and one that was never
created. -/
theorem snapshot_traced_of_keepingServer :
    let s : Session Number := .behind "http://livy:8998" "probe" .spark (.whole 180) (.whole 1)
    let x : Run Memory Number Unit := do
      s.refresh
      s.kill
    let w : World Memory Number := ⟨.attached 7, .whole 0, []⟩
    let w₀ : World Memory Number := ⟨{}, .whole 0, []⟩
    (∃ e, (s.kill keepingServer w).1 = .error e ∧ (s.kill keepingServer w).2.memory = w.memory) ∧
      (s.kill (idleServer "") w).2.memory = { w.memory with snapshot := w.memory.snapshot.killed } ∧
      s.kill keepingServer w₀ = (.ok (), w₀) ∧
      ∃ ms, Passes s.Operation keepingServer x w ms ∧
        s.TracedThrough w.memory (x.events keepingServer w) ms (x keepingServer w).2.memory := by
  intro s x w w₀
  obtain ⟨⟨-, -, hatomic⟩, -, -, hall⟩ := snapshot_traced s keepingServer w
  obtain ⟨-, hkilled, -, -⟩ := snapshot_traced s (idleServer "") w
  obtain ⟨-, -, huncreated, -⟩ := snapshot_traced s keepingServer w₀
  obtain ⟨e, he⟩ : ∃ e, (s.kill keepingServer w).1 = .error e := ⟨_, rfl⟩
  have hx : Composed s.Operation x :=
    .bind (.piece (.piece .refresh)) fun _ => .piece (.piece .kill)
  obtain ⟨⟨ms, hms⟩, htraced⟩ := hall hx
  exact ⟨⟨e, he, hatomic e he⟩, hkilled 7 rfl rfl, (huncreated rfl).2, ms, hms, htraced ms hms⟩

end Session

end SparkGateway
