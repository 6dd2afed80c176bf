import SparkGateway.Proofs.Session.Leaving

/-!
# The number of a session

A session that has a number should keep it.  Killing, closing and running statements leave the number
alone, but creating the session anew and looking at it replace the snapshot as a whole, and with it the
number, by whatever the answer shows.  So the number lasts, through all memories that work in a session
passes through, exactly as long as no answer to one of these two requests shows another number
(`lasts_iff`); and an answer that does leaves the session behind under its old number
(`refresh_renames`).
-/

namespace SparkGateway

namespace Session

open Run

variable {τ α : Type} {env : Surroundings τ} {s : Session τ} {m m' : Memory}

/-- An answer to the creation of the session, or to a look at it under `n`, shows another number. -/
def ShowsAnother (s : Session τ) (n : Int) (es : List (Event τ)) : Prop :=
  ∃ q a k, .answered q a ∈ es ∧ (q = s.creation ∨ q = .get (s.urlOf n)) ∧
    numberIn? q a = some k ∧ k ≠ n

/-- What becomes of the number of a session, through the memories `ms` up to the last, `m'`. -/
structure Numbered (s : Session τ) (m : Memory) (es : List (Event τ)) (ms : List Memory)
    (m' : Memory) : Prop where
  known : ∀ n, m.snapshot.identity = some n → ∃ k, m'.snapshot.identity = some k
  last : ∀ n, m.snapshot.identity = some n → (∀ m₁ ∈ ms, m₁.snapshot.identity = some n) →
    m'.snapshot.identity = some n
  lasts : ∀ n, m.snapshot.identity = some n →
    ((∀ m₁ ∈ ms, m₁.snapshot.identity = some n) ↔ ¬ s.ShowsAnother n es)

theorem showsAnother_append (s : Session τ) (n : Int) (es fs : List (Event τ)) :
    s.ShowsAnother n (es ++ fs) ↔ s.ShowsAnother n es ∨ s.ShowsAnother n fs := by
  constructor
  · rintro ⟨q, a, k, hmem, hq, hk⟩
    rcases List.mem_append.1 hmem with hmem | hmem
    · exact Or.inl ⟨q, a, k, hmem, hq, hk⟩
    · exact Or.inr ⟨q, a, k, hmem, hq, hk⟩
  · rintro (⟨q, a, k, hmem, hq, hk⟩ | ⟨q, a, k, hmem, hq, hk⟩)
    · exact ⟨q, a, k, List.mem_append_left _ hmem, hq, hk⟩
    · exact ⟨q, a, k, List.mem_append_right _ hmem, hq, hk⟩

theorem numbered_strings (s : Session τ) : Strings s.Numbered := by
  constructor
  · intro m
    have hnone : ∀ n, ¬ s.ShowsAnother n [] := fun n ⟨q, a, k, hmem, _⟩ => nomatch hmem
    exact ⟨fun n hn => ⟨n, hn⟩, fun n hn _ => hn, fun n _ => by simp [hnone n]⟩
  · intro m m' m'' es fs ms ms' hes hfs
    constructor
    · intro n hn
      obtain ⟨k, hk⟩ := hes.known n hn
      exact hfs.known k hk
    · intro n hn hall
      obtain ⟨hms, hms'⟩ := List.forall_mem_append.1 hall
      exact hfs.last n (hes.last n hn hms) hms'
    · intro n hn
      rw [List.forall_mem_append, showsAnother_append, not_or]
      constructor
      · rintro ⟨hms, hms'⟩
        exact ⟨(hes.lasts n hn).1 hms, (hfs.lasts n (hes.last n hn hms)).1 hms'⟩
      · rintro ⟨hes', hfs'⟩
        have hms := (hes.lasts n hn).2 hes'
        exact ⟨hms, (hfs.lasts n (hes.last n hn hms)).2 hfs'⟩

/-! ## Single operations -/

/-- Events that neither create the session nor look at it leave the number alone. -/
theorem numbered_of_aside {es : List (Event τ)}
    (hsame : m'.snapshot.identity = m.snapshot.identity)
    (haside : ∀ n q a, m.snapshot.identity = some n → .answered q a ∈ es →
      q ≠ s.creation ∧ q ≠ .get (s.urlOf n)) :
    s.Numbered m es [m'] m' := by
  constructor
  · exact fun n hn => ⟨n, hsame.trans hn⟩
  · exact fun n hn _ => hsame.trans hn
  · intro n hn
    have hnone : ¬ s.ShowsAnother n es := by
      rintro ⟨q, a, k, hmem, hq, -⟩
      obtain ⟨hcreation, hlook⟩ := haside n q a hn hmem
      exact hq.elim hcreation hlook
    simp [hsame, hn, hnone]

/-- A request that replaces the snapshot leaves the number alone unless the answer shows another. -/
theorem numbered_of_replaced {refusal : Reply → Fault} {q : Request} {es : List (Event τ)}
    {r : Except Stop Unit}
    (hq : ∀ n, m.snapshot.identity = some n → q = s.creation ∨ q = .get (s.urlOf n))
    (h : Replaced env refusal q m es r m') :
    s.Numbered m es [m'] m' := by
  obtain ⟨t, rfl, hread⟩ := h
  have hnumber := numberIn_of_readIn refusal (q := q) (a := env.answer t q)
  have hshows : ∀ n, m.snapshot.identity = some n →
      (s.ShowsAnother n [(.answered q (env.answer t q) : Event τ)] ↔
        ∃ k, numberIn? q (env.answer t q) = some k ∧ k ≠ n) := by
    intro n hn
    constructor
    · rintro ⟨q', a, k, hmem, -, hk⟩
      obtain ⟨rfl, rfl⟩ := Event.answered.inj (List.mem_singleton.1 hmem)
      exact ⟨k, hk⟩
    · rintro ⟨k, hk⟩
      exact ⟨q, _, k, List.mem_singleton_self _, hq n hn, hk⟩
  rcases hread with ⟨new, hnew, -, rfl⟩ | ⟨e, he, -, rfl⟩
  · obtain ⟨k, hk⟩ := readIn_identity hnew
    rw [hnew] at hnumber
    replace hnumber : numberIn? q (env.answer t q) = some k := hnumber.trans hk
    refine ⟨fun n _ => ⟨k, hk⟩, fun n _ hall => hall _ (List.mem_singleton_self _), fun n hn => ?_⟩
    rw [hshows n hn, hnumber]
    simp [hk]
  · rw [he] at hnumber
    replace hnumber : numberIn? q (env.answer t q) = none := hnumber
    refine ⟨fun n hn => ⟨n, hn⟩, fun n hn _ => hn, fun n hn => ?_⟩
    rw [hshows n hn, hnumber]
    simp [hn]

theorem statementRequest_ne {n : Int} {q : Request} (h : StatementRequest (s.urlOf n) q) :
    q ≠ s.creation ∧ q ≠ .get (s.urlOf n) := by
  rcases h with ⟨document, rfl⟩ | ⟨name, rfl⟩
  · refine ⟨fun hq => ?_, fun hq => nomatch congrArg Request.method hq⟩
    exact s.statementListUrl_ne _ (congrArg Request.url hq)
  · refine ⟨fun hq => (nomatch congrArg Request.method hq), fun hq => ?_⟩
    exact statementUrl_ne _ name (congrArg Request.url hq)

theorem numbered_of_did {es : List (Event τ)} (h : s.Did env m es m') : s.Numbered m es [m'] m' := by
  cases h with
  | unasked hnone => exact numbered_of_aside rfl fun n q a _ hmem => absurd hmem (hnone q a)
  | looked hidentity hreplaced =>
      refine numbered_of_replaced (fun k hk => ?_) hreplaced
      obtain rfl := Option.some.inj (hidentity.symm.trans hk)
      exact Or.inr rfl
  | executed hidentity hrequests =>
      refine numbered_of_aside rfl fun k q a hk hmem => ?_
      obtain rfl := Option.some.inj (hidentity.symm.trans hk)
      exact statementRequest_ne (hrequests q a hmem)

/-- Killing the session leaves its number alone. -/
theorem numbered_of_killed {n : Int} {m₀ : Memory} {es : List (Event τ)} {r : Except Stop Unit}
    (hsame : m₀.snapshot = m.snapshot) (h : Killed env s n m₀ es r m') :
    s.Numbered m es [m'] m' := by
  obtain ⟨t, rfl, -, rfl⟩ := h
  have hidentity : (m₀.afterKill r).snapshot.identity = m.snapshot.identity := by
    rw [m₀.afterKill_identity, hsame]
  refine numbered_of_aside hidentity fun k q a _ hmem => ?_
  obtain ⟨rfl, -⟩ := Event.answered.inj (List.mem_singleton.1 hmem)
  exact ⟨fun hq => (nomatch congrArg Request.method hq),
    fun hq => (nomatch congrArg Request.method hq)⟩

theorem numbered_of_unasked {m' : Memory} (hsame : m'.snapshot.identity = m.snapshot.identity) :
    s.Numbered m ([] : List (Event τ)) [m'] m' :=
  numbered_of_aside hsame fun _ _ _ _ hmem => nomatch hmem

theorem kill_numbered (s : Session τ) (m : Memory) :
    Leads env s.kill m fun es _ m' => s.Numbered m es [m'] m' := by
  cases hidentity : m.snapshot.identity with
  | none =>
      refine (kill_still hidentity).mono ?_
      rintro es r m' ⟨rfl, -, rfl⟩
      exact numbered_of_unasked rfl
  | some n => exact (kill_leads hidentity).mono fun _ _ _ hkilled => numbered_of_killed rfl hkilled

theorem close_numbered (s : Session τ) (m : Memory) :
    Leads env s.close m fun es _ m' => s.Numbered m es [m'] m' := by
  refine (close_leads s m).mono fun es r m' hclosed => ?_
  unfold Closed at hclosed
  split at hclosed
  · obtain ⟨rfl, -, rfl⟩ := hclosed
    exact numbered_of_unasked rfl
  · split at hclosed
    · obtain ⟨rfl, -, rfl⟩ := hclosed
      exact numbered_of_unasked rfl
    · have hsame : ({ m with closed := true } : Memory).snapshot = m.snapshot := rfl
      exact numbered_of_killed hsame hclosed

variable [Timeline τ]

theorem operation_numbered {x : Run Memory τ α} (h : s.Operation x) (m : Memory) :
    Leads env x m fun es _ m' => s.Numbered m es [m'] m' := by
  have herrand : ∀ {β : Type} {y : Run Memory τ β}, s.Errand y →
      Leads env y m fun es _ m' => s.Numbered m es [m'] m' :=
    fun hy => (errand_did hy m).mono fun _ _ _ => numbered_of_did
  cases h with
  | create => exact create_leads.mono fun _ _ _ => numbered_of_replaced fun _ _ => Or.inl rfl
  | piece h =>
      cases h with
      | snapshot => exact herrand .snapshot
      | now => exact herrand .now
      | sleep amount => exact herrand (.sleep amount)
      | refresh => exact herrand .refresh
      | execute statement => exact herrand (.execute statement)
      | kill => exact s.kill_numbered m
      | close => exact s.close_numbered m

/-! ## All work in a session -/

/-- The number of a session lasts through whatever is done with it exactly as long as no answer shows
another. -/
theorem lasts_iff {x : Run Memory τ α} (hx : Composed s.Operation x) {n : Int} {w : World Memory τ}
    (hn : w.memory.snapshot.identity = some n) (env : Surroundings τ) :
    (∃ ms, Passes s.Operation env x w ms) ∧
      ∀ ms, Passes s.Operation env x w ms →
        ((∀ m ∈ ms, m.snapshot.identity = some n) ↔ ¬ s.ShowsAnother n (x.events env w)) := by
  refine ⟨hx.passes env w, fun ms hms => ?_⟩
  obtain ⟨es, r, v, hcourse, hnumbered⟩ :=
    hms.told s.numbered_strings fun x hx m => operation_numbered hx m
  rw [hcourse.events_eq]
  exact hnumbered.lasts n hn

/-- A session that is looked at and then killed, at a server that shows its number and refuses to delete
it. -/
theorem lasts_iff_of_keepingServer :
    let s : Session Number := .behind "http://livy:8998" "probe" .spark (.whole 180) (.whole 1)
    let x : Run Memory Number Unit := do
      s.refresh
      s.kill
    let w : World Memory Number := ⟨.attached 7, .whole 0, []⟩
    ((x keepingServer w).2.trace.requests.map fun q => (q.method.name, q.url)) =
        [("GET", "http://livy:8998/sessions/7"), ("DELETE", "http://livy:8998/sessions/7")] ∧
      (∃ ms, Passes s.Operation keepingServer x w ms) ∧
      ∀ ms, Passes s.Operation keepingServer x w ms →
        ((∀ m ∈ ms, m.snapshot.identity = some 7) ↔ ¬ s.ShowsAnother 7 (x.events keepingServer w)) := by
  intro s x w
  have hx : Composed s.Operation x :=
    .bind (.piece (.piece .refresh)) fun _ => .piece (.piece .kill)
  exact ⟨by decide +kernel, lasts_iff hx rfl keepingServer⟩

/-- A server at which every session is idle and has the number 8. -/
def renamingServer : Surroundings Number :=
  let idle := idleServer ""
  { idle with answer := fun _ _ => .reply 200 (some "\x7b\"id\": 8, \"state\": \"idle\"\x7d") none }

/-- The session 7 becomes the session 8 when it is looked at. -/
theorem refresh_renames :
    let s : Session Number := .behind "http://livy:8998" "probe" .spark (.whole 180) (.whole 1)
    let w : World Memory Number := ⟨.attached 7, .whole 0, []⟩
    Composed s.Operation s.refresh ∧ w.memory.snapshot.identity = some 7 ∧
      ∃ m, Passes s.Operation renamingServer s.refresh w [m] ∧ m.snapshot.identity = some 8 := by
  intro s w
  have hrefresh : s.Operation s.refresh := .piece .refresh
  exact ⟨.piece hrefresh, rfl, _, .piece w hrefresh, by decide +kernel⟩

end Session

end SparkGateway
