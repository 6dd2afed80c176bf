import Mathlib.Data.List.Infix
import SparkGateway.Proofs.Batch.FollowedLog
import SparkGateway.Proofs.Exchange.Moments

/-!
# Following a log that grows

A server may hold a log that only grows, and answer each request for some of its lines by a page with as
many of them as it likes, but with at least one if there are any.  Whoever follows such a log has been
given first lines of it at every moment (`tail_faithful`).  If the log is whole from the start and the
batch has run, it is given to its last line and no more is waited for (`tail_tellsAll`), which is just
what the request for the whole log gives (`fullLog_settled`).
-/

namespace SparkGateway

namespace Batch

open Run

variable {σ τ : Type} {env : Surroundings τ} {b : Batch τ} {url : String}
  {log : Trace τ → List String} {before : Trace τ}

/-- A server has a log for the batch at an address, which only grows.  A request for some lines of it is
answered by a page with the first of these lines, and with at least one if there are any. -/
structure KeepsLog (env : Surroundings τ) (url : String) (log : Trace τ → List String) : Prop where
  grows : ∀ t u, log t <+: log (t ++ u)
  answers : ∀ t start size, 0 < size → ∃ page,
    pageIn? (logRequest url start size) (env.answer t (logRequest url start size)) = some page ∧
      page.lines <+: ((log t).drop start).take size ∧
      (start < (log t).length → page.lines ≠ [])

/-- The lines of the log that were given in some steps. -/
def linesOf (t : Trace τ) : List String :=
  t.items.filterMap fun
    | .line .log text => some text
    | _ => none

/-- The lines that were given since the steps `before` are the first `n` lines of the log. -/
def Told (log : Trace τ → List String) (before : Trace τ) (n : Nat) (t : Trace τ) : Prop :=
  ∃ u, t = before ++ u ∧ linesOf u <+: log t ∧ (linesOf u).length = n

theorem linesOf_append (t u : Trace τ) : linesOf (t ++ u) = linesOf t ++ linesOf u := by
  simp [linesOf]

/-- The lines given in some steps are those among their events. -/
theorem logLines_events (since t : Trace τ) : logLines (env.events since t) = linesOf t := by
  induction t generalizing since with
  | nil => rfl
  | cons s t ih =>
      have hstep : logLines (s.event? env since).toList = linesOf [s] := by
        cases s with
        | gave item =>
            cases item with
            | line severity text => cases severity <;> rfl
            | container host id => rfl
        | _ => rfl
      show logLines ((s.event? env since).toList ++ env.events (since ++ [s]) t) = linesOf ([s] ++ t)
      rw [logLines_append, linesOf_append, hstep, ih]

/-! ## At every moment -/

theorem Told.more {n : Nat} {t u : Trace τ} (hkeeps : KeepsLog env url log) (h : Told log before n t)
    (hu : linesOf u = []) :
    Told log before n (t ++ u) := by
  obtain ⟨given, rfl, hfirst, hlength⟩ := h
  have hsame : linesOf (given ++ u) = linesOf given := by rw [linesOf_append, hu, List.append_nil]
  refine ⟨given ++ u, by rw [List.append_assoc], ?_, ?_⟩
  · rw [hsame]
    exact hfirst.trans (hkeeps.grows _ u)
  · rw [hsame]
    exact hlength

/-- Giving the next line of the log tells one line more. -/
theorem Told.line {n : Nat} {t : Trace τ} {line : String} (hkeeps : KeepsLog env url log)
    (h : Told log before n t) (hline : [line] <+: (log t).drop n) :
    Told log before (n + 1) (t ++ [.gave (.line .log line)]) := by
  obtain ⟨given, rfl, ⟨rest, hrest⟩, rfl⟩ := h
  have hlines : linesOf (given ++ [.gave (.line .log line)]) = linesOf given ++ [line] := by
    rw [linesOf_append]
    rfl
  refine ⟨given ++ [.gave (.line .log line)], by rw [List.append_assoc], ?_, by simp [hlines]⟩
  have hnow : linesOf given ++ [line] <+: log (before ++ given) := by
    rw [← hrest, List.drop_left] at hline
    rw [← hrest]
    exact (List.prefix_append_right_inj _).2 hline
  rw [hlines]
  exact hnow.trans (hkeeps.grows _ _)

/-- The lines given since the steps `before` are first lines of the log. -/
def Faithful (log : Trace τ → List String) (before t : Trace τ) : Prop := ∃ n, Told log before n t

/-- A page shows the next lines of the log. -/
theorem askPage_throughout (hurl : b.batchUrl = .ok url) (hkeeps : KeepsLog env url log) {n : Nat}
    {t : Trace τ} (h : Told log before n t) :
    Throughout env (Faithful log before) (b.askPage n : Run σ τ Reply) t fun r t' =>
      Told log before n t' ∧ ∃ found page, r = .ok found ∧ found.ok = true ∧
        LogPage.ofReply found = .ok page ∧ page.lines <+: (log t').drop n := by
  have hitems : ∀ u : Trace τ, u.items = [] → linesOf u = [] := fun u hu => by simp [linesOf, hu]
  rw [askPage_eq hurl]
  have hask : Throughout env (Faithful log before) (ask (pageRequest url n) : Run σ τ Reply) t _ :=
    ask_throughout _ fun u hu => ⟨n, h.more hkeeps (hitems u hu)⟩
  refine hask.mono ?_
  rintro r t' ⟨u, u', rfl, hquiet, rfl⟩
  rw [← logRequest_page]
  obtain ⟨page, hpage, hlines, -⟩ := hkeeps.answers (t ++ u) n 128 (by decide)
  obtain ⟨found, houtcome, hok, hread⟩ := pageIn_eq_some hpage
  refine ⟨?_, found, page, houtcome, hok, hread, ?_⟩
  · rw [List.append_assoc]
    exact h.more hkeeps (hitems _ hquiet)
  · have hnow : page.lines <+: (log (t ++ u)).drop n := hlines.trans (List.take_prefix _ _)
    exact hnow.trans ((hkeeps.grows _ u').drop n)

theorem giveLines_throughout (hkeeps : KeepsLog env url log) {n : Nat} {t : Trace τ}
    {lines : List String} (h : Told log before n t) (hlines : lines <+: (log t).drop n) :
    Throughout env (Faithful log before) (giveLines Run.give lines : Run σ τ Unit) t fun r t' =>
      r = .ok () → Told log before (n + lines.length) t' := by
  induction lines generalizing n t with
  | nil => exact throughout_value () ⟨n, h⟩ fun _ => h
  | cons line lines ih =>
      have hfirst : [line] <+: (log t).drop n := (List.prefix_append [line] lines).trans hlines
      have hrest : lines <+: (log t).drop (n + 1) := by
        rw [← List.drop_drop]
        exact hlines.drop 1
      have hline := h.line hkeeps hfirst
      have hgive : Throughout env (Faithful log before)
          (Run.give (.line .log line) : Run σ τ Unit) t _ :=
        give_throughout _ ⟨n, h⟩ ⟨n + 1, hline⟩
      refine hgive.bind ?_ ?_
      · rintro u t' - rfl
        have hgiven := ih hline (hrest.trans ((hkeeps.grows t _).drop (n + 1)))
        refine hgiven.mono fun r t' htold hr => ?_
        rw [List.length_cons, Nat.add_comm lines.length 1, ← Nat.add_assoc]
        exact htold hr
      · intro e t' _ he
        contradiction

/-- What follows an empty page gives no line of the log, and leads to the same page. -/
theorem afterEmptyPage_gives [Timeline τ] (hurl : b.batchUrl = .ok url) (n : Nat) :
    Does (σ := σ) env (b.afterEmptyPage Run.give n) fun es r =>
      logLines es = [] ∧ ∀ n', r = .ok (.again n') → n' = n := by
  unfold afterEmptyPage
  refine (isSubmitting_reads hurl).reachable.bind ?_ ?_
  · rintro es found ⟨r', ⟨t, rfl, -⟩, -⟩
    cases found with
    | error message =>
        refine (give_does _).bind ?_ ?_
        · rintro fs u ⟨rfl, -⟩
          exact does_value _ ⟨rfl, fun n' h => nomatch h⟩
        · rintro fs e ⟨rfl, -⟩
          exact ⟨rfl, fun n' h => nomatch h⟩
    | ok submitting =>
        cases submitting with
        | false => exact does_value _ ⟨rfl, fun n' h => nomatch h⟩
        | true =>
            refine (sleep_does b.polling.pause).bind ?_ ?_
            · rintro fs u ⟨rfl, -⟩
              refine does_value _ ⟨rfl, fun n' h => ?_⟩
              cases h
              rfl
            · rintro fs e ⟨rfl, -⟩
              exact ⟨rfl, fun n' h => nomatch h⟩
  · rintro es e ⟨r', ⟨t, rfl, -⟩, -⟩
    exact ⟨rfl, fun n' h => nomatch h⟩

/-- Through work that gives no line of the log. -/
theorem quiet_throughout {α : Type} {x : Run σ τ α} {A : List (Event τ) → Except Stop α → Prop}
    (hkeeps : KeepsLog env url log) {n : Nat} {t : Trace τ} (h : Told log before n t)
    (hx : Does env x A) (hquiet : ∀ es r, A es r → logLines es = []) :
    Throughout env (Faithful log before) x t fun r t' => Told log before n t' ∧ ∃ es, A es r := by
  have hlines : ∀ u r, A (env.events t u) r → linesOf u = [] := by
    intro u r hA
    rw [← logLines_events t]
    exact hquiet _ _ hA
  have hpart : ∀ u u' : Trace τ, u' <+: u → linesOf u = [] → linesOf u' = [] := by
    rintro _ u' ⟨rest, rfl⟩ hu
    rw [linesOf_append] at hu
    exact (List.append_eq_nil_iff.1 hu).1
  refine (hx.throughout ?_).mono ?_
  · intro u r hA u' hu'
    exact ⟨n, h.more hkeeps (hpart u u' hu' (hlines u r hA))⟩
  · rintro r t' ⟨u, rfl, hA⟩
    exact ⟨h.more hkeeps (hlines u r hA), _, hA⟩

theorem tailPage_throughout [Timeline τ] (hurl : b.batchUrl = .ok url)
    (hkeeps : KeepsLog env url log) {n : Nat} {t : Trace τ} (h : Told log before n t) :
    Throughout env (Faithful log before) (b.tailPage Run.give n : Run σ τ _) t fun r t' =>
      ∀ n', r = .ok (.again n') → Told log before n' t' := by
  unfold tailPage
  refine (askPage_throughout hurl hkeeps h).reachable.bind ?_ ?_
  · rintro found t' - ⟨r', ⟨htold, reply, page, rfl, hok, hread, hlines⟩, hfound⟩
    obtain rfl := Except.ok.inj hfound
    simp only [hok, Bool.not_true, Bool.false_eq_true, if_false, hread]
    have hgive := giveLines_throughout (σ := σ) hkeeps htold hlines
    refine hgive.bind ?_ ?_
    · rintro u t'' - hgiven
      have htold' := hgiven rfl
      cases hempty : page.lines with
      | nil =>
          rw [hempty] at htold'
          refine (quiet_throughout hkeeps htold' (afterEmptyPage_gives hurl n)
            fun es r h => h.1).mono ?_
          rintro r t' ⟨htold', es, -, hagain⟩ n' hr
          rw [hagain n' hr]
          exact htold'
      | cons line lines =>
          rw [hempty] at htold'
          have hfaithful : Faithful log before t'' := ⟨_, htold'⟩
          refine throughout_value _ hfaithful fun n' hn' => ?_
          cases hn'
          exact htold'
    · intro e t'' _ n' hr
      contradiction
  · rintro e t' ⟨r', ⟨-, reply, page, rfl, -⟩, he⟩
    contradiction

/-- The lines that are given while a log is followed are, at every moment, the first lines of the log. -/
theorem tail_faithful [Timeline τ] (hurl : b.batchUrl = .ok url) (hkeeps : KeepsLog env url log)
    (w : World σ τ) {u : Trace τ} (hu : w.trace ++ u <+: (b.tail Run.give env w).2.trace) :
    linesOf u <+: log (w.trace ++ u) := by
  have hstart : Told log w.trace 0 w.trace := ⟨[], (List.append_nil _).symm, List.nil_prefix, rfl⟩
  have hround : ∀ n t, Told log w.trace n t →
      Throughout (σ := σ) env (Faithful log w.trace) (b.tailPage Run.give n) t fun r t' =>
        ∀ n', r = .ok (.again n') → Told log w.trace n' t' :=
    fun n t h => tailPage_throughout hurl hkeeps h
  have hall : Throughout env (Faithful log w.trace) (b.tail Run.give) w.trace fun _ _ => True :=
    throughout_rounds (fun n t h => ⟨n, h⟩) hround hstart
  obtain ⟨t, htrace, hfaithful, -⟩ := hall w rfl
  rw [htrace] at hu
  obtain ⟨n, given, hgiven, hlines, -⟩ := hfaithful u ((List.prefix_append_right_inj _).1 hu)
  rw [List.append_cancel_left hgiven]
  exact hgiven ▸ hlines

/-! ## A log that is whole -/

/-- The log of the batch at an address is the list `L` for good, and a request for all of it is answered
by all of it.  The batch has run, or an application runs it; and nothing cuts the work short. -/
structure Settled (env : Surroundings τ) (url : String) (log : Trace τ → List String)
    (L : List String) : Prop where
  fixed : ∀ t, log t = L
  whole : ∀ t, ∃ page, page.lines = L ∧
    pageIn? (logRequest url 0 LogPage.wholeSize)
      (env.answer t (logRequest url 0 LogPage.wholeSize)) = some page
  looks : ∀ t, ∃ found, (env.answer t (.get url)).goodReply? (.get url) = some found
  hasRun : ∀ t, ¬ SaysSubmitting url (env.answer t (.get url))
  goesOn : ∀ t, env.halt t = none

/-- Every page of the log has all the lines that were asked for, as far as there are so many. -/
def FullPages (env : Surroundings τ) (url : String) (L : List String) : Prop :=
  ∀ t start page, pageIn? (pageRequest url start) (env.answer t (pageRequest url start)) = some page →
    page.lines = (L.drop start).take 128

/-- The request that an event is about. -/
def requestOf? : Event τ → Option Request
  | .answered q _ => some q
  | _ => none

/-- Some lines are told to the last one: they are given, pages of the log are asked for until one is
empty, and then the batch is looked at once.  There is no pause, and no report of an error; and the work
comes to its end, unless the answer about the batch cannot be read. -/
structure TellsAll (env : Surroundings τ) (url : String) (lines : List String) (full : Prop)
    (es : List (Event τ)) (r : Except Stop Unit) : Prop where
  given : logLines es = lines
  unpaused : ∀ amount, .paused amount ∉ es
  unreported : ∀ text, .gave (.line .error text) ∉ es
  requests : ∃ starts : List Nat, es.filterMap requestOf? = starts.map (pageRequest url) ++ [.get url] ∧
    (full → starts.length = (lines.length + 127) / 128 + 1)
  ended : ∃ t, .answered (.get url) (env.answer t (.get url)) ∈ es.getLast? ∧
    (r = .ok () ∨ ∃ e, submittingIn url (env.answer t (.get url)) = .error e ∧ r = .error e)

/-- What one look at a settled log may come to, from a line on. -/
inductive SettledRound (env : Surroundings τ) (url : String) (L : List String) (start : Nat) :
    List (Event τ) → Except Stop (Round Nat Unit) → Prop where
  | lines {t : Trace τ} {page : LogPage} :
      pageIn? (pageRequest url start) (env.answer t (pageRequest url start)) = some page →
      page.lines <+: L.drop start → page.lines ≠ [] →
      SettledRound env url L start
        (.answered (pageRequest url start) (env.answer t (pageRequest url start)) ::
          page.lines.map fun line => .gave (.line .log line))
        (.ok (.again (start + page.lines.length)))
  | ended {a : Answer} {t : Trace τ} :
      L.drop start = [] →
      SettledRound env url L start
        [.answered (pageRequest url start) a, .answered (.get url) (env.answer t (.get url))]
        (.ok (.done ()))
  | unread {a : Answer} {t : Trace τ} {e : Stop} :
      L.drop start = [] → submittingIn url (env.answer t (.get url)) = .error e →
      SettledRound env url L start
        [.answered (pageRequest url start) a, .answered (.get url) (env.answer t (.get url))]
        (.error e)

/-- A good answer that does not say that the batch has not run yet says that it has, or cannot be
read. -/
theorem submittingIn_of_hasRun {a : Answer} {found : Reply}
    (hgood : a.goodReply? (.get url) = some found) (hnot : ¬ SaysSubmitting url a) :
    submittingIn url a = .ok false ∨
      ∃ e, submittingIn url a = .error e ∧ heard (.error e : Except Stop Bool) = .error e := by
  cases hread : Snapshot.ofReply found with
  | error e =>
      have hvalue : submittingIn url a = .error e := by
        rw [submittingIn, statusIn_eq hgood, hread]
        rfl
      refine .inr ⟨e, hvalue, ?_⟩
      cases e with
      | fault f =>
          cases f with
          | unreachable message => exact absurd hread (snapshot_ne_unreachable found message)
          | _ => rfl
      | _ => rfl
  | ok snapshot =>
      cases hword : snapshot.state with
      | none => exact .inl (submittingIn_of_noState hgood hread hword)
      | some word =>
          have hvalue := submittingIn_of_word hgood hread hword
          cases hstate : State.parse word with
          | error f =>
              rw [hstate] at hvalue
              refine .inr ⟨.fault f, hvalue, ?_⟩
              cases f with
              | unreachable message => exact absurd hstate (parse_ne_unreachable word message)
              | _ => rfl
          | ok state =>
              rw [hstate] at hvalue
              rw [saysSubmitting_iff hgood hread hword hstate] at hnot
              have hfalse : (state.isPreRun && snapshot.application.isNone) = false :=
                Bool.eq_false_iff.2 fun hsubmitting => hnot (by simpa using hsubmitting)
              exact .inl (hvalue.trans (congrArg Except.ok hfalse))

/-- An answer about the batch, to one who follows a settled log. -/
theorem status_settled {L : List String} (hsettled : Settled env url log L) (t : Trace τ) :
    submittingIn url (env.answer t (.get url)) = .ok false ∨
      ∃ e, submittingIn url (env.answer t (.get url)) = .error e ∧
        heard (.error e : Except Stop Bool) = .error e := by
  obtain ⟨found, hgood⟩ := hsettled.looks t
  exact submittingIn_of_hasRun hgood (hsettled.hasRun t)

/-- An answer about a page of the log, to one who follows a settled log: it shows the next lines, and
none only if there are none left. -/
theorem page_settled (hkeeps : KeepsLog env url log) {L : List String}
    (hsettled : Settled env url log L) (t : Trace τ) (start : Nat) :
    ∃ found page,
      (env.answer t (pageRequest url start)).outcome (pageRequest url start) = .ok found ∧
        found.ok = true ∧ LogPage.ofReply found = .ok page ∧
        pageIn? (pageRequest url start) (env.answer t (pageRequest url start)) = some page ∧
        page.lines <+: L.drop start ∧ (page.lines = [] → L.drop start = []) := by
  obtain ⟨page, hpage, hlines, hsome⟩ := hkeeps.answers t start 128 (by decide)
  rw [logRequest_page] at hpage
  rw [hsettled.fixed t] at hlines hsome
  obtain ⟨found, houtcome, hok, hread⟩ := pageIn_eq_some hpage
  refine ⟨found, page, houtcome, hok, hread, hpage, hlines.trans (List.take_prefix _ _), ?_⟩
  intro hempty
  exact List.drop_eq_nil_of_le (Nat.le_of_not_lt fun hlt => hsome hlt hempty)

theorem afterEmptyPage_settled [Timeline τ] (hurl : b.batchUrl = .ok url) {L : List String}
    (hsettled : Settled env url log L) {start : Nat} {a : Answer} (hend : L.drop start = []) :
    Does (σ := σ) env (b.afterEmptyPage Run.give start) fun es r =>
      SettledRound env url L start (.answered (pageRequest url start) a :: es) r := by
  unfold afterEmptyPage
  refine (isSubmitting_reads hurl).reachable.bind ?_ ?_
  · rintro es found ⟨r, ⟨t, rfl, rfl⟩, hfound⟩
    rcases status_settled hsettled t with hvalue | ⟨e, herror, hheard⟩
    · rw [hvalue] at hfound
      obtain rfl := Except.ok.inj hfound
      exact does_value _ (.ended hend)
    · rw [herror, hheard] at hfound
      contradiction
  · rintro es e ⟨r, ⟨t, rfl, rfl⟩, he⟩
    rcases status_settled hsettled t with hvalue | ⟨e', herror, hheard⟩
    · rw [hvalue] at he
      contradiction
    · rw [herror, hheard] at he
      obtain rfl := Except.error.inj he
      exact .unread hend herror

theorem tailPage_settled [Timeline τ] (hurl : b.batchUrl = .ok url) (hkeeps : KeepsLog env url log)
    {L : List String} (hsettled : Settled env url log L) (start : Nat) :
    Does (σ := σ) env (b.tailPage Run.give start) (SettledRound env url L start) := by
  unfold tailPage
  refine (askPage_reads hurl start).reachable.bind ?_ ?_
  · rintro es found ⟨r, ⟨t, rfl, rfl⟩, hfound⟩
    obtain ⟨reply, page, houtcome, hok, hread, hpage, hlines, hend⟩ := page_settled hkeeps hsettled t start
    rw [houtcome] at hfound
    obtain rfl := Except.ok.inj hfound
    simp only [hok, Bool.not_true, Bool.false_eq_true, if_false, hread]
    refine (giveLines_uncut hsettled.goesOn page.lines).bind ?_ fun es e he => nomatch he.2
    rintro fs u ⟨rfl, -⟩
    cases hempty : page.lines with
    | nil => exact afterEmptyPage_settled hurl hsettled (hend hempty)
    | cons line lines =>
        have hne : page.lines ≠ [] := by simp [hempty]
        have hround := SettledRound.lines hpage hlines hne
        rw [hempty] at hround
        refine does_value _ ?_
        rw [List.append_nil]
        exact hround
  · rintro es e ⟨r, ⟨t, rfl, rfl⟩, he⟩
    obtain ⟨reply, page, houtcome, -⟩ := page_settled hkeeps hsettled t start
    rw [houtcome] at he
    contradiction

/-- After the page at the end of the log there is one look. -/
theorem tellsAll_end {full : Prop} {start : Nat} {a : Answer} {t : Trace τ} {r : Except Stop Unit}
    (hr : r = .ok () ∨ ∃ e, submittingIn url (env.answer t (.get url)) = .error e ∧ r = .error e) :
    TellsAll env url [] full
      [.answered (pageRequest url start) a, .answered (.get url) (env.answer t (.get url))] r where
  given := rfl
  unpaused := by simp
  unreported := by simp
  requests := ⟨[start], rfl, fun _ => rfl⟩
  ended := ⟨t, rfl, hr⟩

/-- One page more, before all others. -/
theorem TellsAll.page {full : Prop} {lines rest : List String} {start : Nat} {a : Answer}
    {es : List (Event τ)} {r : Except Stop Unit} (h : TellsAll env url rest full es r)
    (hne : lines ≠ []) (hfull : full → lines = (lines ++ rest).take 128) :
    TellsAll env url (lines ++ rest) full
      (.answered (pageRequest url start) a ::
        (lines.map fun line => .gave (.line .log line)) ++ es) r := by
  obtain ⟨hgiven, hunpaused, hunreported, ⟨starts, hrequests, hlength⟩, t, hlast, hr⟩ := h
  constructor
  · simp [hgiven]
  · simpa using hunpaused
  · simpa using hunreported
  · refine ⟨start :: starts, ?_, ?_⟩
    · have hquiet : (lines.map fun line => (.gave (.line .log line) : Event τ)).filterMap
          requestOf? = [] := by
        simp [List.filterMap_map, Function.comp_def, requestOf?]
      have hfirst : requestOf? (.answered (pageRequest url start) a : Event τ) =
          some (pageRequest url start) := rfl
      rw [List.cons_append, List.filterMap_cons_some hfirst, List.filterMap_append, hquiet, hrequests]
      rfl
    · intro hyes
      have hsize := congrArg List.length (hfull hyes)
      have hpos := List.length_pos_iff.2 hne
      rw [List.length_take, List.length_append] at hsize
      rw [List.length_cons, hlength hyes, List.length_append]
      omega
  · refine ⟨t, ?_, hr⟩
    rw [List.getLast?_append, hlast]
    rfl

/-- From a line of a settled log on, the rest of it is told if there is patience for as many rounds as
there are lines, and one more. -/
theorem roundsWithin_tellsAll [Timeline τ] (hurl : b.batchUrl = .ok url)
    (hkeeps : KeepsLog env url log) {L : List String} (hsettled : Settled env url log L) {n : Nat}
    {start : Nat} (hn : L.length - start < n) :
    Does (σ := σ) env (roundsWithin (b.tailPage Run.give) n start)
      (TellsAll env url (L.drop start) (FullPages env url L)) := by
  induction n generalizing start with
  | zero => omega
  | succ n ih =>
      refine (tailPage_settled hurl hkeeps hsettled start).bind ?_ ?_
      · intro es next hround
        cases hround with
        | @lines t page hpage hlines hne =>
            obtain ⟨rest, hrest⟩ := hlines
            have hdrop : L.drop (start + page.lines.length) = rest := by
              rw [← List.drop_drop, ← hrest, List.drop_left]
            have hpos := List.length_pos_iff.2 hne
            have hlength := congrArg List.length hrest
            rw [List.length_append, List.length_drop] at hlength
            have hnext : L.length - (start + page.lines.length) < n := by omega
            refine (ih hnext).mono fun fs r htells => ?_
            rw [hdrop] at htells
            rw [← hrest]
            exact htells.page hne fun hfull => by rw [hrest]; exact hfull t start page hpage
        | ended hend =>
            refine does_value _ ?_
            rw [hend, List.append_nil]
            exact tellsAll_end (.inl rfl)
      · intro es e hround
        cases hround with
        | unread hend herror =>
            rw [hend]
            exact tellsAll_end (.inr ⟨e, herror, rfl⟩)

/-- A settled log is told to its last line. -/
theorem tail_tellsAll [Timeline τ] (hurl : b.batchUrl = .ok url) (hkeeps : KeepsLog env url log)
    {L : List String} (hsettled : Settled env url log L) (hpatience : L.length < env.patience) :
    Does (σ := σ) env (b.tail Run.give) (TellsAll env url L (FullPages env url L)) :=
  (roundsWithin_tellsAll hurl hkeeps hsettled hpatience).rounds

/-- The request for the whole log gives the whole log. -/
theorem fullLog_settled (hurl : b.batchUrl = .ok url) {L : List String}
    (hsettled : Settled env url log L) :
    Does (σ := σ) env b.fullLog fun _ r => r = .ok L := by
  have hread : ∀ t, ∃ found page,
      (env.answer t (logRequest url 0 LogPage.wholeSize)).outcome
        (logRequest url 0 LogPage.wholeSize) = .ok found ∧
      found.ok = true ∧ LogPage.ofReply found = .ok page ∧ page.lines = L := by
    intro t
    obtain ⟨page, hlines, hpage⟩ := hsettled.whole t
    obtain ⟨found, houtcome, hok, hread⟩ := pageIn_eq_some hpage
    exact ⟨found, page, houtcome, hok, hread, hlines⟩
  unfold fullLog
  rw [logUrl_eq hurl]
  refine (ask_reads (logRequest url 0 LogPage.wholeSize)).bind ?_ ?_
  · rintro es found ⟨t, rfl, hfound⟩
    obtain ⟨found', page, houtcome, hok, hread, hlines⟩ := hread t
    obtain rfl := Except.ok.inj (hfound.trans houtcome)
    simp only [hok, Bool.not_true, Bool.false_eq_true, if_false, hread]
    exact does_value _ (congrArg Except.ok hlines)
  · rintro es e ⟨t, rfl, he⟩
    obtain ⟨found, page, houtcome, -⟩ := hread t
    rw [houtcome] at he
    contradiction

/-- Whoever follows a log that only grows has been given, at every moment, first lines of the log.  If it
is whole from the start and the batch has run, all of it is given and nothing else, as by the request for
the whole log. -/
theorem tail_growingLog [Timeline τ] (hurl : b.batchUrl = .ok url) (hkeeps : KeepsLog env url log)
    (w : World σ τ) :
    (∀ u, w.trace ++ u <+: (b.tail Run.give env w).2.trace → linesOf u <+: log (w.trace ++ u)) ∧
      ∀ L, Settled env url log L → L.length < env.patience →
        TellsAll env url L (FullPages env url L) ((b.tail Run.give).events env w)
            (b.tail Run.give env w).1 ∧
          ∀ w' : World σ τ, (b.fullLog env w').1 = .ok L :=
  ⟨fun _ hu => tail_faithful hurl hkeeps w hu, fun _ hsettled hpatience =>
    ⟨(tail_tellsAll hurl hkeeps hsettled hpatience).holds w,
      (fullLog_settled hurl hsettled).holds⟩⟩

/-- The first line and the number of lines that a request for lines of a log asks for. -/
def askedLines (url : String) (r : Request) : Nat × Nat :=
  let numbers := r.url.toList.drop (url ++ "/log?from=").toList.length
  let start := numbers.takeWhile Char.isDigit
  let size := numbers.drop (start.length + "&size=".toList.length)
  (Nat.ofDigitChars 10 start 0, Nat.ofDigitChars 10 size 0)

theorem askedLines_logRequest (url : String) (start size : Nat) :
    askedLines url (logRequest url start size) = (start, size) := by
  have hurl : (logRequest url start size).url.toList = (url ++ "/log?from=").toList ++
      (Nat.toDigits 10 start ++ ("&size=".toList ++ Nat.toDigits 10 size)) := by
    simp [logRequest, Request.get, toString]
  have hdigits : ∀ c ∈ Nat.toDigits 10 start, c.isDigit = true := fun c hc =>
    Nat.isDigit_of_mem_toDigits (by decide) (by decide) hc
  have hstart : (Nat.toDigits 10 start ++ ("&size=".toList ++ Nat.toDigits 10 size)).takeWhile
      Char.isDigit = Nat.toDigits 10 start := by
    rw [List.takeWhile_append_of_pos hdigits]
    exact List.append_nil _
  unfold askedLines
  simp only [hurl, List.drop_left, hstart, ← List.drop_drop, Nat.ofDigitChars_ten_toDigits]

/-- Five lines. -/
def fiveLines : List String := ["one", "two", "three", "four", "five"]

/-- The text of a page with some lines. -/
def pageText (lines : List String) : String :=
  "\x7b\"log\": [" ++ ", ".intercalate (lines.map fun line => "\"" ++ line ++ "\"") ++ "]\x7d"

/-- A server at which the batch 7 runs, and of whose log there are as many of five lines as have been
written.  There are at most `most` lines in a page, unless the whole log is asked for. -/
def pagingServer (written : Trace Number → Nat) (most : Nat) : Surroundings Number where
  answer t r :=
    if r.url = "http://livy:8998/batches/7" then
      .reply 200 (some "\x7b\"id\": 7, \"state\": \"running\"\x7d") none
    else
      let (start, size) := askedLines "http://livy:8998/batches/7" r
      let size := if size = LogPage.wholeSize then size else min size most
      .reply 200 (some (pageText (((fiveLines.take (written t)).drop start).take size))) none
  page _ _ := .stop .cancelled
  halt _ := none
  confirms _ := false
  picks _ := []
  turn _ := 0
  waits := true
  connects := true
  patience := 9

/-- Whatever lines in a row are on a page, its text is read as them. -/
theorem parse?_pageText (held start size : Nat) :
    let lines := ((fiveLines.take held).drop start).take size
    (Json.parse? (pageText lines)).any (Json.same (.obj [("log", .arr (lines.map .str))])) = true := by
  have hall : ∀ start ≤ 5, ∀ size ≤ 5,
      (Json.parse? (pageText ((fiveLines.drop start).take size))).any
        (Json.same (.obj [("log", .arr (((fiveLines.drop start).take size).map .str))])) = true := by
    decide +kernel
  have hdrop : fiveLines.drop start = fiveLines.drop (min start 5) := by
    rcases Nat.le_total start 5 with h | h
    · rw [Nat.min_eq_left h]
    · rw [Nat.min_eq_right h, List.drop_eq_nil_of_le h]
      rfl
  have htake : ((fiveLines.take held).drop start).take size =
      (fiveLines.drop (min start 5)).take (min (min size (held - start)) 5) := by
    rw [List.drop_take, List.take_take, hdrop, List.take_eq_take_iff]
    have hlength : (fiveLines.drop (min start 5)).length ≤ 5 := by
      rw [List.length_drop]
      exact Nat.sub_le 5 _
    omega
  intro lines
  have hlines : lines = (fiveLines.drop (min start 5)).take (min (min size (held - start)) 5) := htake
  rw [hlines]
  exact hall _ (Nat.min_le_right _ _) _ (Nat.min_le_right _ _)

theorem pagingServer_page (written : Trace Number → Nat) (most : Nat) (t : Trace Number)
    (start size : Nat) :
    let q := logRequest "http://livy:8998/batches/7" start size
    ∃ page, pageIn? q ((pagingServer written most).answer t q) = some page ∧
      page.lines = ((fiveLines.take (written t)).drop start).take
        (if size = LogPage.wholeSize then size else min size most) := by
  intro q
  have hne : q.url ≠ "http://livy:8998/batches/7" := logRequest_url_ne _ start size
  have hasked : askedLines "http://livy:8998/batches/7" q = (start, size) :=
    askedLines_logRequest _ start size
  obtain ⟨lines, hlines⟩ : ∃ lines, ((fiveLines.take (written t)).drop start).take
      (if size = LogPage.wholeSize then size else min size most) = lines := ⟨_, rfl⟩
  have hanswer : (pagingServer written most).answer t q = .reply 200 (some (pageText lines)) none := by
    simp only [pagingServer, hne, if_false, hasked, hlines]
  have hread := parse?_pageText (written t) start
    (if size = LogPage.wholeSize then size else min size most)
  simp only [hlines] at hread
  have hpage : LogPage.ofReply ⟨q.url, 200, some (pageText lines), none⟩ = .ok _ :=
    LogPage.ofReply_of_document (Reply.document_of_same hread) rfl rfl
  rw [hanswer, hlines]
  refine ⟨_, pageIn_of_goodReply rfl hpage, ?_⟩
  rw [List.map_map]
  exact List.map_id lines

variable {written : Trace Number → Nat} {most : Nat}

/-- If no line is taken back, the server has a log that only grows. -/
theorem pagingServer_keepsLog (hwritten : ∀ t u, written t ≤ written (t ++ u)) (hmost : 0 < most) :
    KeepsLog (pagingServer written most) "http://livy:8998/batches/7"
      fun t => fiveLines.take (written t) where
  grows t u := List.take_prefix_take_left (hwritten t u)
  answers t start size hsize := by
    obtain ⟨page, hpage, hlines⟩ := pagingServer_page written most t start size
    refine ⟨page, hpage, ?_, fun hstart => ?_⟩
    · rw [hlines]
      refine List.take_prefix_take_left ?_
      split
      · exact Nat.le_refl size
      · exact Nat.min_le_left size most
    · rw [hlines]
      refine List.ne_nil_of_length_pos ?_
      rw [List.length_take, List.length_drop]
      refine Nat.lt_min.2 ⟨?_, Nat.sub_pos_of_lt hstart⟩
      split
      · exact hsize
      · exact Nat.lt_min.2 ⟨hsize, hmost⟩

/-- Once all lines are written the log is settled. -/
theorem pagingServer_settled :
    Settled (pagingServer (fun _ => 5) most) "http://livy:8998/batches/7"
      (fun _ => fiveLines.take 5) fiveLines where
  fixed _ := rfl
  whole t := by
    obtain ⟨page, hpage, hlines⟩ := pagingServer_page (fun _ => 5) most t 0 LogPage.wholeSize
    exact ⟨page, hlines, hpage⟩
  looks _ := ⟨_, rfl⟩
  hasRun t := by
    rintro ⟨found, snapshot, word, state, hgood, hread, hword, hstate, hpre, -⟩
    obtain rfl := Option.some.inj hgood
    have hnumbers : Reply.Numbers
        ⟨"http://livy:8998/batches/7", 200,
          some "\x7b\"id\": 7, \"state\": \"running\"\x7d", none⟩
        [("id", .int 7), ("state", .str "running")] 7 :=
      ⟨Reply.document_of_same (by decide +kernel), rfl⟩
    obtain rfl := Except.ok.inj ((Snapshot.ofReply_of_numbers hnumbers).symm.trans hread)
    obtain rfl := Option.some.inj hword
    obtain rfl := Except.ok.inj ((State.parse_word .running).symm.trans hstate)
    exact Bool.false_ne_true hpre
  goesOn _ := rfl

theorem pagingServer_fullPages :
    FullPages (pagingServer (fun _ => 5) 128) "http://livy:8998/batches/7" fiveLines := by
  intro t start page hpage
  obtain ⟨page', hpage', hlines⟩ := pagingServer_page (fun _ => 5) 128 t start 128
  rw [logRequest_page, hpage, Option.some.injEq] at hpage'
  rw [hpage', hlines]
  rfl

/-- A log that grows while it is followed, one that is settled and comes in short pages, and one that comes
in full pages. -/
theorem tail_growingLog_of_pagingServer :
    let b : Batch Number :=
      ⟨"http://livy:8998/batches", none, none, ⟨3, .whole 5⟩, some 7⟩
    let w : World Unit Number := ⟨(), .whole 0, []⟩
    let url := "http://livy:8998/batches/7"
    let written (t : Trace Number) : Nat := if t.requests.length < 2 then 3 else 5
    let growing := pagingServer written 2
    let short := pagingServer (fun _ => 5) 2
    let full := pagingServer (fun _ => 5) 128
    (b.batchUrl = .ok url ∧ KeepsLog growing url (fun t => fiveLines.take (written t)) ∧
      (∀ u, u <+: (b.tail Run.give growing w).2.trace → linesOf u <+: fiveLines.take (written u)) ∧
      logLines ((b.tail Run.give).events growing w) = fiveLines) ∧
    (KeepsLog short url (fun _ => fiveLines.take 5) ∧
      Settled short url (fun _ => fiveLines.take 5) fiveLines ∧
      TellsAll short url fiveLines (FullPages short url fiveLines)
        ((b.tail Run.give).events short w) (b.tail Run.give short w).1 ∧
      (b.fullLog short w).1 = .ok fiveLines) ∧
    KeepsLog full url (fun _ => fiveLines.take 5) ∧
      Settled full url (fun _ => fiveLines.take 5) fiveLines ∧ FullPages full url fiveLines ∧
      TellsAll full url fiveLines True ((b.tail Run.give).events full w) (b.tail Run.give full w).1 := by
  intro b w url written growing short full
  have hurl : b.batchUrl = .ok url := rfl
  have hwritten : ∀ t u, written t ≤ written (t ++ u) := by
    intro t u
    have hmore : t.requests.length ≤ (t ++ u).requests.length := by
      simp [Trace.requests]
    simp only [written]
    split <;> split <;> omega
  have hgrowing : KeepsLog growing url _ := pagingServer_keepsLog hwritten (by decide)
  have hfixed (most : Nat) (hmost : 0 < most) : KeepsLog (pagingServer (fun _ => 5) most) url _ :=
    pagingServer_keepsLog (fun _ _ => Nat.le_refl 5) hmost
  have hkeeps : KeepsLog short url _ := hfixed 2 (by decide)
  have hkeeps' : KeepsLog full url _ := hfixed 128 (by decide)
  have hshort : Settled short url _ fiveLines := pagingServer_settled
  have hfull : Settled full url _ fiveLines := pagingServer_settled
  obtain ⟨htells, hwhole⟩ :=
    (tail_growingLog hurl hkeeps w).2 fiveLines hshort (by decide)
  obtain ⟨htells', -⟩ :=
    (tail_growingLog hurl hkeeps' w).2 fiveLines hfull (by decide)
  rw [eq_true (pagingServer_fullPages : FullPages full url fiveLines)] at htells'
  refine ⟨⟨hurl, hgrowing, (tail_growingLog hurl hgrowing w).1, by decide +kernel⟩,
    ⟨hkeeps, hshort, htells, hwhole w⟩, hkeeps', hfull, pagingServer_fullPages, htells'⟩

end Batch

end SparkGateway
