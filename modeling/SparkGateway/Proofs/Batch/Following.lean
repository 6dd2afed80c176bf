import SparkGateway.Batch.Tail
import SparkGateway.Proofs.Batch.Status

/-!
# The course of a followed log

What following a log asks for and gives, for every server that answers with readable documents.  A
round of the loop is described first (`PageRound`).  From the rounds follow which event may come after
which (`MayFollow`), how a course begins and ends, and at which line each page is asked for; the laws
of a whole course are then read off these facts.
-/

namespace SparkGateway

namespace Batch

open Run

variable {σ τ : Type}

/-- The request for at most `size` lines of a log that start at a line, of a batch at an address. -/
def logRequest (url : String) (start size : Nat) : Request :=
  .get s!"{url}/log?from={start.repr}&size={size.repr}"

/-- The request for the page of a log that starts at a line, of a batch at an address. -/
def pageRequest (url : String) (start : Nat) : Request :=
  .get s!"{url}/log?from={start.repr}&size=128"

theorem logRequest_page (url : String) (start : Nat) :
    logRequest url start 128 = pageRequest url start := by
  have hsize : "&size=" ++ (128 : Nat).repr = "&size=128" := by decide
  show Request.get (url ++ "/log?from=" ++ start.repr ++ "&size=" ++ (128 : Nat).repr) = _
  rw [String.append_assoc, hsize]
  rfl

theorem logRequest_url_ne (url : String) (start size : Nat) : (logRequest url start size).url ≠ url := by
  intro h
  have hlength := congrArg String.length h
  simp only [logRequest, Request.get, toString, String.length_append] at hlength
  have hpath : "/log?from=".length = 10 := by decide
  omega

theorem pageRequest_url_ne (url : String) (start : Nat) : (pageRequest url start).url ≠ url :=
  logRequest_page url start ▸ logRequest_url_ne url start 128

/-- The page of a log that an answer carries, if it is good. -/
def pageIn? (r : Request) (a : Answer) : Option LogPage :=
  (a.goodReply? r).bind fun reply => (LogPage.ofReply reply).toOption

theorem pageIn_eq_some {q : Request} {a : Answer} {page : LogPage} (h : pageIn? q a = some page) :
    ∃ found, a.outcome q = .ok found ∧ found.ok = true ∧ LogPage.ofReply found = .ok page := by
  obtain ⟨found, hgood, hpage⟩ := Option.bind_eq_some_iff.1 h
  obtain ⟨houtcome, hok⟩ := Answer.outcome_of_goodReply hgood
  refine ⟨found, houtcome, hok, ?_⟩
  cases hread : LogPage.ofReply found with
  | error e =>
      rw [hread] at hpage
      contradiction
  | ok page' =>
      rw [hread] at hpage
      rw [Option.some.inj hpage]

theorem pageIn_of_goodReply {r : Request} {a : Answer} {found : Reply} {page : LogPage}
    (hgood : a.goodReply? r = some found) (hread : LogPage.ofReply found = .ok page) :
    pageIn? r a = some page := by
  unfold pageIn?
  rw [hgood]
  show (LogPage.ofReply found).toOption = _
  rw [hread]
  rfl

/-- An answer about a batch says that it has not run yet and that no application runs it. -/
def SaysSubmitting (url : String) (a : Answer) : Prop :=
  ∃ reply snapshot word state,
    a.goodReply? (.get url) = some reply ∧ Snapshot.ofReply reply = .ok snapshot ∧
      snapshot.state = some word ∧ State.parse word = .ok state ∧
        state.isPreRun = true ∧ snapshot.application = none

/-- What is reported about an answer while the log of the batch at an address is followed: that the
service could not be reached, or that a page of the log was refused. -/
def report? (url : String) (r : Request) : Answer → Option String
  | .reply code body contentType =>
    let reply : Reply := ⟨r.url, code, body, contentType⟩
    if r.url ≠ url ∧ reply.ok = false then some (refusedPage reply) else none
  | .broken message => some s!"{r.method.name} {r.url} failed: {message}"
  | .stop _ => none

/-- Answers to one who follows the log of the batch at an address: nothing cuts the work short, good
replies can be read, and a state that is named is known. -/
structure FairTo (env : Surroundings τ) (url : String) : Prop where
  goesOn : ∀ t, env.halt t = none
  pageAnswers : ∀ t start e, env.answer t (pageRequest url start) ≠ .stop e
  stateAnswers : ∀ t e, env.answer t (.get url) ≠ .stop e
  pages : ∀ t start reply,
    (env.answer t (pageRequest url start)).goodReply? (pageRequest url start) = some reply →
      ∃ page, LogPage.ofReply reply = .ok page
  states : ∀ t reply,
    (env.answer t (.get url)).goodReply? (.get url) = some reply →
      ∃ snapshot, Snapshot.ofReply reply = .ok snapshot ∧
        ∀ word, snapshot.state = some word → ∃ state, State.parse word = .ok state

/-- What one look at the log may come to, from a line on. -/
inductive PageRound (url : String) (pause : τ) (start : Nat) :
    List (Event τ) → Except Stop (Round Nat Unit) → Prop where
  | reported {a : Answer} {text : String} :
      report? url (pageRequest url start) a = some text →
      PageRound url pause start
        [.answered (pageRequest url start) a, .gave (.line .error text)] (.ok (.done ()))
  | lines {a : Answer} {page : LogPage} :
      pageIn? (pageRequest url start) a = some page → page.lines ≠ [] →
      PageRound url pause start
        (.answered (pageRequest url start) a ::
          page.lines.map fun line => .gave (.line .log line))
        (.ok (.again (start + page.lines.length)))
  | ended {a a' : Answer} {page : LogPage} :
      pageIn? (pageRequest url start) a = some page → page.lines = [] →
      report? url (.get url) a' = none → ¬ SaysSubmitting url a' →
      PageRound url pause start
        [.answered (pageRequest url start) a, .answered (.get url) a'] (.ok (.done ()))
  | lost {a a' : Answer} {page : LogPage} {text : String} :
      pageIn? (pageRequest url start) a = some page → page.lines = [] →
      report? url (.get url) a' = some text →
      PageRound url pause start
        [.answered (pageRequest url start) a, .answered (.get url) a',
          .gave (.line .error text)] (.ok (.done ()))
  | waited {a a' : Answer} {page : LogPage} :
      pageIn? (pageRequest url start) a = some page → page.lines = [] →
      SaysSubmitting url a' →
      PageRound url pause start
        [.answered (pageRequest url start) a, .answered (.get url) a', .paused pause]
        (.ok (.again start))

variable {env : Surroundings τ} {b : Batch τ} {url : String}

theorem logUrl_eq (hurl : b.batchUrl = .ok url) (start size : Nat) :
    b.logUrl start size = .ok (logRequest url start size).url := by
  rw [logUrl, hurl]
  rfl

theorem askPage_eq (hurl : b.batchUrl = .ok url) (start : Nat) :
    (b.askPage start : Run σ τ Reply) = ask (pageRequest url start) := by
  rw [askPage, logUrl_eq hurl, ← logRequest_page]
  rfl

theorem askPage_reads (hurl : b.batchUrl = .ok url) (start : Nat) :
    Does (σ := σ) env (b.askPage start)
      (Reads env (pageRequest url start) (Answer.outcome (pageRequest url start))) := by
  rw [askPage_eq hurl]
  exact ask_reads _

theorem give_uncut (hgoes : ∀ t, env.halt t = none) (item : Item) :
    Does (σ := σ) env (Run.give item) fun es r => es = [.gave item] ∧ r = .ok () := by
  refine (give_does item).mono ?_
  rintro es r ⟨hes, hr | ⟨e, ⟨t, ht⟩, -⟩⟩
  · exact ⟨hes, hr⟩
  · rw [hgoes t] at ht
    cases ht

theorem giveLines_uncut (hgoes : ∀ t, env.halt t = none) (lines : List String) :
    Does (σ := σ) env (giveLines Run.give lines) fun es r =>
      es = lines.map (fun line => .gave (.line .log line)) ∧ r = .ok () := by
  induction lines with
  | nil => exact does_value () ⟨rfl, rfl⟩
  | cons line lines ih =>
      refine (give_uncut hgoes _).bind ?_ ?_
      · rintro es u ⟨rfl, -⟩
        exact ih.mono fun fs r h => ⟨by rw [h.1]; rfl, h.2⟩
      · rintro es e ⟨-, he⟩
        cases he

/-- Whether an answer about the batch at an address says that the batch has not run yet. -/
def submittingIn (url : String) (a : Answer) : Except Stop Bool :=
  statusIn url a >>= fun
    | none => .ok false
    | some snapshot =>
      match snapshot.state with
      | none => .ok false
      | some word =>
        ((State.parse word).mapError .fault).map fun state =>
          state.isPreRun && snapshot.application.isNone

theorem isSubmitting_reads (hurl : b.batchUrl = .ok url) :
    Does (σ := σ) env b.isSubmitting (Reads env (.get url) (submittingIn url)) := by
  refine (status_reads hurl).reads_bind fun found => ?_
  cases found with
  | none => exact value_silent false
  | some snapshot =>
      dsimp only
      cases snapshot.state with
      | none => exact value_silent false
      | some word =>
          refine (ofFault_silent (State.parse word)).silent_bind ?_ ?_
          · intro state hstate
            dsimp only
            rw [hstate]
            exact value_silent _
          · intro e he
            dsimp only
            rw [he]
            exact ⟨rfl, rfl⟩

theorem saysSubmitting_iff {a : Answer} {found : Reply} {snapshot : Snapshot} {word : String}
    {state : State} (hgood : a.goodReply? (.get url) = some found)
    (hread : Snapshot.ofReply found = .ok snapshot) (hword : snapshot.state = some word)
    (hstate : State.parse word = .ok state) :
    SaysSubmitting url a ↔ state.isPreRun = true ∧ snapshot.application = none := by
  constructor
  · rintro ⟨found', snapshot', word', state', hgood', hread', hword', hstate', hpre, happ⟩
    obtain rfl := Option.some.inj (hgood.symm.trans hgood')
    obtain rfl := Except.ok.inj (hread.symm.trans hread')
    obtain rfl := Option.some.inj (hword.symm.trans hword')
    obtain rfl := Except.ok.inj (hstate.symm.trans hstate')
    exact ⟨hpre, happ⟩
  · rintro ⟨hpre, happ⟩
    exact ⟨found, snapshot, word, state, hgood, hread, hword, hstate, hpre, happ⟩

theorem submittingIn_of_noState {a : Answer} {found : Reply} {snapshot : Snapshot}
    (hgood : a.goodReply? (.get url) = some found) (hread : Snapshot.ofReply found = .ok snapshot)
    (hnone : snapshot.state = none) :
    submittingIn url a = .ok false := by
  unfold submittingIn
  rw [statusIn_of_goodReply hgood hread]
  show (match snapshot.state with | none => _ | some _ => _) = _
  rw [hnone]

theorem submittingIn_of_word {a : Answer} {found : Reply} {snapshot : Snapshot} {word : String}
    (hgood : a.goodReply? (.get url) = some found) (hread : Snapshot.ofReply found = .ok snapshot)
    (hword : snapshot.state = some word) :
    submittingIn url a = ((State.parse word).mapError .fault).map fun state =>
      state.isPreRun && snapshot.application.isNone := by
  unfold submittingIn
  rw [statusIn_of_goodReply hgood hread]
  show (match snapshot.state with | none => _ | some _ => _) = _
  rw [hword]

/-- A good answer about a batch, to one who follows its log, says whether the batch has not run yet. -/
theorem submittingIn_of_goodReply (hfair : FairTo env url) (t : Trace τ) {found : Reply}
    (hgood : (env.answer t (.get url)).goodReply? (.get url) = some found) :
    (SaysSubmitting url (env.answer t (.get url)) ∧
        submittingIn url (env.answer t (.get url)) = .ok true) ∨
      (¬ SaysSubmitting url (env.answer t (.get url)) ∧
        submittingIn url (env.answer t (.get url)) = .ok false) := by
  obtain ⟨snapshot, hread, hstates⟩ := hfair.states t found hgood
  cases hword : snapshot.state with
  | none =>
      refine .inr ⟨?_, submittingIn_of_noState hgood hread hword⟩
      rintro ⟨found', snapshot', word', -, hgood', hread', hword', -⟩
      obtain rfl := Option.some.inj (hgood.symm.trans hgood')
      obtain rfl := Except.ok.inj (hread.symm.trans hread')
      rw [hword] at hword'
      cases hword'
  | some word =>
      obtain ⟨state, hstate⟩ := hstates word hword
      have hvalue : submittingIn url (env.answer t (.get url)) =
          .ok (state.isPreRun && snapshot.application.isNone) := by
        rw [submittingIn_of_word hgood hread hword, hstate]
        rfl
      rw [saysSubmitting_iff hgood hread hword hstate, hvalue]
      cases state.isPreRun <;> cases snapshot.application <;> simp

/-- An answer about a batch, to one who follows its log. -/
theorem status_fair (hfair : FairTo env url) (t : Trace τ) :
    (∃ text, report? url (.get url) (env.answer t (.get url)) = some text ∧
        heard (submittingIn url (env.answer t (.get url))) = .ok (.error text)) ∨
      (report? url (.get url) (env.answer t (.get url)) = none ∧
        ((SaysSubmitting url (env.answer t (.get url)) ∧
            submittingIn url (env.answer t (.get url)) = .ok true) ∨
          (¬ SaysSubmitting url (env.answer t (.get url)) ∧
            submittingIn url (env.answer t (.get url)) = .ok false))) := by
  cases ha : env.answer t (.get url) with
  | stop e => exact absurd ha (hfair.stateAnswers t e)
  | broken message => exact .inl ⟨_, rfl, rfl⟩
  | reply code body contentType =>
      refine .inr ⟨by simp [report?, Request.get], ?_⟩
      cases hgood : (Answer.reply code body contentType).goodReply? (.get url) with
      | some found =>
          rw [← ha] at hgood
          have hfound := submittingIn_of_goodReply hfair t hgood
          rwa [ha] at hfound
      | none =>
          refine .inr ⟨?_, ?_⟩
          · rintro ⟨found, -, -, -, hfound, -⟩
            rw [hgood] at hfound
            cases hfound
          · have hbad : (Reply.mk url code body contentType).ok = false := by
              simpa [Answer.goodReply?, Answer.outcome, Request.get] using hgood
            simp [submittingIn, statusIn, Answer.looked, Answer.outcome, Request.get, Except.map,
              hbad, bind, Except.bind]

/-- An answer about a page of the log, to one who follows the log. -/
theorem page_fair (hfair : FairTo env url) (t : Trace τ) (start : Nat) {a : Answer}
    (ha : env.answer t (pageRequest url start) = a) :
    (∃ text, report? url (pageRequest url start) a = some text ∧
        (heard (a.outcome (pageRequest url start)) = .ok (.error text) ∨
          ∃ found, a.outcome (pageRequest url start) = .ok found ∧ found.ok = false ∧
            text = refusedPage found)) ∨
      ∃ found page, a.outcome (pageRequest url start) = .ok found ∧ found.ok = true ∧
        LogPage.ofReply found = .ok page ∧ pageIn? (pageRequest url start) a = some page := by
  cases a with
  | stop e => exact absurd ha (hfair.pageAnswers t start e)
  | broken message => exact .inl ⟨_, rfl, .inl rfl⟩
  | reply code body contentType =>
      cases hok : (Reply.mk (pageRequest url start).url code body contentType).ok with
      | false =>
          refine .inl ⟨_, ?_, .inr ⟨_, rfl, hok, rfl⟩⟩
          simp [report?, hok, pageRequest_url_ne]
      | true =>
          have hgood : (Answer.reply code body contentType).goodReply? (pageRequest url start) =
              some ⟨(pageRequest url start).url, code, body, contentType⟩ := by
            simp [Answer.goodReply?, Answer.outcome, hok]
          obtain ⟨page, hpage⟩ := hfair.pages t start _ (by rw [ha]; exact hgood)
          exact .inr ⟨_, page, rfl, hok, hpage, pageIn_of_goodReply hgood hpage⟩

variable [Timeline τ]

theorem afterEmptyPage_does (hurl : b.batchUrl = .ok url) (hfair : FairTo env url) {start : Nat}
    {a : Answer} {page : LogPage} (hpage : pageIn? (pageRequest url start) a = some page)
    (hempty : page.lines = []) :
    Does (σ := σ) env (b.afterEmptyPage Run.give start) fun es r =>
      PageRound url b.polling.pause start (.answered (pageRequest url start) a :: es) r := by
  unfold afterEmptyPage
  refine (isSubmitting_reads hurl).reachable.bind ?_ ?_
  · rintro es found ⟨r, ⟨t, rfl, rfl⟩, hfound⟩
    rcases status_fair hfair t with ⟨text, hreport, hlost⟩ | ⟨hreport, ⟨hsubmitting, hvalue⟩ | ⟨hnot, hvalue⟩⟩
    · obtain rfl := Except.ok.inj (hfound.trans hlost)
      refine (give_uncut hfair.goesOn _).bind ?_ fun es e he => nomatch he.2
      rintro fs u ⟨rfl, -⟩
      exact does_value _ (.lost hpage hempty hreport)
    · rw [hvalue] at hfound
      obtain rfl := Except.ok.inj hfound
      refine (sleep_does b.polling.pause).bind ?_ ?_
      · rintro fs u ⟨rfl, -⟩
        exact does_value _ (.waited hpage hempty hsubmitting)
      · rintro fs e ⟨-, he | ⟨e', ⟨t', ht'⟩, -⟩⟩
        · cases he
        · rw [hfair.goesOn t'] at ht'
          cases ht'
    · rw [hvalue] at hfound
      obtain rfl := Except.ok.inj hfound
      exact does_value _ (.ended hpage hempty hreport hnot)
  · rintro es e ⟨r, ⟨t, rfl, rfl⟩, he⟩
    rcases status_fair hfair t with ⟨text, -, hlost⟩ | ⟨-, ⟨-, hvalue⟩ | ⟨-, hvalue⟩⟩
    · rw [hlost] at he
      cases he
    · rw [hvalue] at he
      cases he
    · rw [hvalue] at he
      cases he

theorem tailPage_does (hurl : b.batchUrl = .ok url) (hfair : FairTo env url) (start : Nat) :
    Does (σ := σ) env (b.tailPage Run.give start) (PageRound url b.polling.pause start) := by
  unfold tailPage
  refine (askPage_reads hurl start).reachable.bind ?_ ?_
  · rintro es found ⟨r, ⟨t, rfl, rfl⟩, hfound⟩
    rcases page_fair hfair t start rfl with
      ⟨text, hreport, hlost | ⟨reply, hreply, hbad, rfl⟩⟩ | ⟨reply, page, hreply, hok, hread, hpage⟩
    · obtain rfl := Except.ok.inj (hfound.trans hlost)
      refine (give_uncut hfair.goesOn _).bind ?_ fun es e he => nomatch he.2
      rintro fs u ⟨rfl, -⟩
      exact does_value _ (.reported hreport)
    · rw [hreply] at hfound
      obtain rfl := Except.ok.inj hfound
      simp only [hbad, Bool.not_false, if_true]
      refine (give_uncut hfair.goesOn _).bind ?_ fun es e he => nomatch he.2
      rintro fs u ⟨rfl, -⟩
      exact does_value _ (.reported hreport)
    · rw [hreply] at hfound
      obtain rfl := Except.ok.inj hfound
      simp only [hok, Bool.not_true, Bool.false_eq_true, if_false, hread]
      refine (giveLines_uncut hfair.goesOn page.lines).bind ?_ fun es e he => nomatch he.2
      rintro fs u ⟨rfl, -⟩
      cases hempty : page.lines with
      | nil => exact (afterEmptyPage_does hurl hfair hpage hempty).mono fun fs r h => h
      | cons line lines =>
          have hne : page.lines ≠ [] := by simp [hempty]
          have hround : PageRound url b.polling.pause start _ _ := .lines hpage hne
          rw [hempty] at hround
          refine does_value _ ?_
          rw [List.append_nil]
          exact hround
  · rintro es e ⟨r, ⟨t, rfl, rfl⟩, he⟩
    rcases page_fair hfair t start rfl with
      ⟨text, -, hlost | ⟨reply, hreply, -⟩⟩ | ⟨reply, page, hreply, -⟩
    · rw [hlost] at he
      cases he
    · rw [hreply] at he
      cases he
    · rw [hreply] at he
      cases he

/-- Following a log does one look after another, from the first line on. -/
theorem tail_does (hurl : b.batchUrl = .ok url) (hfair : FairTo env url) :
    Does (σ := σ) env (b.tail Run.give) (Rounds (PageRound url b.polling.pause) 0) :=
  rounds_does (tailPage_does hurl hfair) 0

end Batch

end SparkGateway
